import LibZbxPgsql.AgentRuns
import LibZbxPgsql.PlanShapes
import LibZbxPgsql.DeepDiscovery

set_option autoImplicit false

/-! Seen from the server, a life of the process is one session after the other: an attempt to
connect, at most one command over the connection, and its end. -/
namespace LibZbxPgsql.WireSessions
open StateFaultWp CStrings AgentModel Connections Drivers Discovery ItemKeys NamedQueries
open Dialogues WorldView Sessions DialogueRefinement DriverDialogues HandlerPlans KeyPlans
open HandleDiscipline ActivityClauses ResultRelease ArrayOwnership PlanShapes AgentRuns

inductive Call where
  | connect (connstring : CStr)
  | exec (connstring command : CStr) (params : List CStr)
  | finish

/-- The server with a log of the calls it receives. -/
def recorded (S : Server) : Server where
  State := S.State × List Call
  connect s connstring :=
    ((S.connect s.1 connstring).1, (S.connect s.1 connstring).2, s.2 ++ [.connect connstring])
  exec s connstring command params :=
    ((S.exec s.1 connstring command params).1, (S.exec s.1 connstring command params).2,
      s.2 ++ [.exec connstring command params])
  finish s := (S.finish s.1, s.2 ++ [.finish])

/-- An attempt that gives no connection at all, a connection closed without a command, and
    one closed after its command. -/
inductive WireSession where
  | failed (connstring : CStr)
  | closed (connstring : CStr)
  | queried (connstring command : CStr) (params : List CStr)

def WireSession.connstring : WireSession → CStr
  | .failed connstring => connstring
  | .closed connstring => connstring
  | .queried connstring _ _ => connstring

def WireSession.calls : WireSession → List Call
  | .failed connstring => [.connect connstring]
  | .closed connstring => [.connect connstring, .finish]
  | .queried connstring command params =>
    [.connect connstring, .exec connstring command params, .finish]

def wireSession (S : Server) (s : S.State) (q : Question) : WireSession :=
  match q with
  | .ping connstring =>
    match (S.connect s connstring).1 with
    | .outOfMemory => .failed connstring
    | .CONNECTION_BAD _ => .closed connstring
    | .CONNECTION_OK => .closed connstring
  | .query connstring command params =>
    match (S.connect s connstring).1 with
    | .outOfMemory => .failed connstring
    | .CONNECTION_BAD _ => .closed connstring
    | .CONNECTION_OK => .queried connstring command params

def target : Question → CStr
  | .ping connstring => connstring
  | .query connstring _ _ => connstring

section Recorded
variable (S : Server)

theorem session_recorded :
    session (recorded S) = recording (session S) (wireSession S) WireSession.calls := by
  funext s q
  obtain ⟨s, log⟩ := s
  cases q with
  | ping connstring =>
    simp only [session, recording, refusal, recorded, wireSession]
    rcases S.connect s connstring with ⟨_ | m | _, s'⟩ <;> simp [WireSession.calls]
  | query connstring command params =>
    simp only [session, recording, refusal, recorded, wireSession]
    rcases S.connect s connstring with ⟨_ | m | _, s'⟩ <;> simp [WireSession.calls]

theorem wireSession_target (s : S.State) (q : Question) :
    (wireSession S s q).connstring = target q := by
  cases q with
  | ping connstring =>
    simp only [wireSession]
    cases (S.connect s connstring).1 <;> rfl
  | query connstring command params =>
    simp only [wireSession]
    cases (S.connect s connstring).1 <;> rfl

end Recorded

section Steps
variable {g : Globals} {request : AGENT_REQUEST}

theorem one_question {n : ℕ} {β : Type} (q : Question) (ends : Reply → Except Fault β) :
    AtMost (n + 1) (.ask q fun reply => .done (ends reply) : Asks β) := by
  intro reply
  cases n <;> trivial

theorem shape_atMost {n : ℕ} {steps : Steps} (h : Shape g request n steps)
    (params : List CStr) : AtMost n (steps.dialogue request params) := by
  have done : ∀ {n : ℕ} (r : Except Fault Outcome), AtMost n (.done r : Asks Outcome) := by
    intro n r
    cases n <;> trivial
  induction h generalizing params with
  | reject n format args => exact done _
  | unresolved n key lost => exact done _
  | append param rest ih => exact ih _
  | @version n next rest ih =>
    rw [Nat.add_comm]
    refine atMost_bind (one_question (n := 0) _ _) ?_
    intro r
    cases r with
    | error e => exact done _
    | ok e =>
      cases e with
      | refused m | failed m => exact done _
      | value text =>
        simp only [afterVersion]
        split
        · exact done _
        · exact ih _ _
  | activity rest ih =>
    rw [activitySteps_dialogue]
    cases activityText g.inet_pton request with
    | none => exact done _
    | some clause => exact ih clause _
  | scalar n type query =>
    refine atMost_bind (m := 0) (one_question _ _) ?_
    intro r
    cases r <;> trivial
  | discovery n query => exact one_question _ _

end Steps

def listedBy : Reply → List CStr
  | .answered tuples => visited ((firstColumn tuples).getD [])
  | _ => []

/-- They are the names in the first column, in order. -/
theorem listedBy_names {tuples : Tuples} (h : ∀ row ∈ tuples.rows,
      ∃ name rest, row = some name :: rest ∧ DeepDiscovery.IsName name) :
    firstColumn tuples = some (listedBy (.answered tuples)) := by
  obtain ⟨names, read, all, -⟩ := DeepDiscovery.firstColumn_names h
  rw [listedBy, read, Option.getD_some, DeepDiscovery.visited_names all]

/-- The databases that a search of these contacts: all of them, or those up to the first
    that does not answer with rows. -/
def searched (S : Server) (connstring : Option CStr) (query : CStr) :
    List CStr → S.State → List CStr
  | [], _ => []
  | db :: dbs, s =>
    db :: match session S s (.query (build_connstring connstring (some db)) query []) with
      | (.answered _, s') => searched S connstring query dbs s'
      | _ => []

section Targets
variable (S : Server) (g : Globals) (request : AGENT_REQUEST) (f : Handler)

/-- With whom the sessions of one request are: at most two, with the database it names; or
    those of a deep search, the first with that database, which lists the others, and then
    one with each database listed, in order, up to the first that does not answer. -/
def Contacts (s : S.State) (connstrings : List CStr) : Prop :=
  (¬ SearchesDeep request f →
    connstrings.length ≤ 2 ∧ ∀ c ∈ connstrings, c = requestConnstring request) ∧
  (SearchesDeep request f → ∃ query reply s', plan g request f = .wide query ∧
    session S s (.query (requestConnstring request) PGSQL_CONNECTABLE_DATABASES []) =
      (reply, s') ∧
    connstrings = requestConnstring request ::
      (searched S (get_rparam request PARAM_CONN_STRING) query (listedBy reply) s').map fun db =>
        build_connstring (get_rparam request PARAM_CONN_STRING) (some db))

variable {S g request f}

theorem steps_asked (steps : Steps) (params : List CStr) :
    Asked (fun q => target q = requestConnstring request) (steps.dialogue request params) := by
  induction steps generalizing params with
  | reject format args => trivial
  | fault e => trivial
  | append param next ih => exact ih _
  | version next ih => exact asked_version rfl fun v => ih v params
  | scalar type query => exact asked_bind ⟨rfl, fun _ => trivial⟩ fun r => by cases r <;> trivial
  | discovery query => exact ⟨rfl, fun _ => trivial⟩

theorem wideAsk_targets (connstring : Option CStr) (query : CStr) (dbs : List CStr)
    (data : List Json) (s : S.State) :
    ((play (session S) (wideAsk connstring query dbs data) s).exchanges.map fun e => target e.1) =
      (searched S connstring query dbs s).map fun db => build_connstring connstring (some db) := by
  induction dbs generalizing data s with
  | nil => rfl
  | cons db dbs ih =>
    rw [wideAsk, play_ask, searched, List.map_cons, List.map_cons]
    refine congrArg (build_connstring connstring (some db) :: ·) ?_
    cases session S s (.query (build_connstring connstring (some db)) query []) with
    | mk reply s' =>
      cases reply with
      | refused m | noResult | failed m => rfl
      | answered tuples => exact ih _ _

theorem visited_nil : visited [] = [] := rfl

theorem wide_targets {o : Outcome} {query : CStr} {s s' : S.State} {reply : Reply}
    (hs : session S s (.query (requestConnstring request) PGSQL_CONNECTABLE_DATABASES []) =
      (reply, s'))
    (ends : (play (session S) (discoveryWideAsk request query) s).result = .ok o) :
    ((play (session S) (discoveryWideAsk request query) s).exchanges.map fun e => target e.1) =
      requestConnstring request ::
        (searched S (get_rparam request PARAM_CONN_STRING) query (listedBy reply) s').map fun db =>
          build_connstring (get_rparam request PARAM_CONN_STRING) (some db) := by
  rw [discoveryWideAsk, andThen, databasesAsk, Dialogue.bind, play_ask, hs] at ends ⊢
  rw [List.map_cons]
  refine congrArg (requestConnstring request :: ·) ?_
  simp only [Dialogue.bind] at ends ⊢
  cases reply with
  | refused m | noResult | failed m => rfl
  | answered tuples =>
    simp only [databasesEnd] at ends ⊢
    by_cases rows : tuples.rows = []
    · have none_listed : listedBy (.answered tuples) = [] := by
        rw [listedBy, firstColumn, rows]
        exact visited_nil
      rw [if_pos rows, none_listed]
      rfl
    · rw [if_neg rows] at ends ⊢
      cases read : firstColumn tuples with
      | none =>
        rw [read] at ends
        cases ends
      | some names =>
        rw [listedBy, read]
        exact wideAsk_targets _ _ _ _ _

theorem few_contacts {d : Asks Outcome} {n : ℕ} (asked : Asked
      (fun q => target q = requestConnstring request) d) (atMost : AtMost n d) (hn : n ≤ 2)
    (s : S.State) :
    ((play (session S) d s).exchanges.map fun e => target e.1).length ≤ 2 ∧
      ∀ c ∈ (play (session S) d s).exchanges.map fun e => target e.1,
        c = requestConnstring request := by
  refine ⟨?_, ?_⟩
  · rw [List.length_map]
    exact (atMost_play (session S) atMost s).trans hn
  · intro c hc
    obtain ⟨e, he, rfl⟩ := List.mem_map.mp hc
    exact asked_play (session S) asked s e he

theorem one_contact {q : Question} {ends : Reply → Except Fault Outcome}
    (hq : target q = requestConnstring request) (s : S.State) :
    ((play (session S) (.ask q fun reply => .done (ends reply)) s).exchanges.map
        fun e => target e.1).length ≤ 2 ∧
      ∀ c ∈ (play (session S) (.ask q fun reply => .done (ends reply)) s).exchanges.map
        fun e => target e.1, c = requestConnstring request := by
  have asked : Asked (fun q => target q = requestConnstring request)
      (.ask q fun reply => .done (ends reply) : Asks Outcome) := ⟨hq, fun _ => trivial⟩
  exact few_contacts asked (one_question (n := 0) q ends) (Nat.le_succ 1) s

theorem plan_contacts {o : Outcome} {s : S.State}
    (ends : (play (session S) ((plan g request f).dialogue request) s).result = .ok o) :
    Contacts S g request f s
      ((play (session S) ((plan g request f).dialogue request) s).exchanges.map
        fun e => target e.1) := by
  refine ⟨fun shallow => ?_, fun deep => ?_⟩
  · have shape := plan_shape g request f
    generalize plan g request f = p at shape
    cases shape with
    | steps shape => exact few_contacts (steps_asked _ []) (shape_atMost shape []) Nat.le.refl s
    | overrun | report value => exact ⟨Nat.zero_le 2, fun c hc => by cases hc⟩
    | wide deep query => exact absurd deep shallow
    | ping | setting name | indexStat query index => exact one_contact rfl s
  · rcases deep_plan (g := g) deep with ⟨query, wide⟩ | overrun
    · rw [wide] at ends ⊢
      exact ⟨query, _, _, rfl, rfl, wide_targets rfl ends⟩
    · rw [overrun] at ends
      cases ends

end Targets

section Life
variable {S : Server} {g : Globals}

theorem played_recorded (request : AGENT_REQUEST) (f : Handler) (s : S.State) (log : List Call) :
    ∃ sessions : List WireSession,
      (played (recorded S) g request f (s, log)).result = (played S g request f s).result ∧
      (played (recorded S) g request f (s, log)).state =
        ((played S g request f s).state, log ++ sessions.flatMap WireSession.calls) ∧
      ∀ o, (played S g request f s).result = .ok o →
        Contacts S g request f s (sessions.map WireSession.connstring) := by
  refine ⟨deeds (session S) (wireSession S) ((plan g request f).dialogue request) s, ?_⟩
  have whole : played (recorded S) g request f (s, log) = _ :=
    (congrArg (fun answer => play answer ((plan g request f).dialogue request) (s, log))
      (session_recorded S)).trans
      (play_recording (session S) (wireSession S) WireSession.calls _ s log)
  refine ⟨congrArg Play.result whole, congrArg Play.state whole, ?_⟩
  intro o ends
  rw [deeds_map (session S) (wireSession S) (wireSession_target S)]
  exact plan_contacts ends

/-- The answers are those of the server without its log, and the log is one session after
    the other, each of them a request's own. -/
theorem serve_logged (items : List Item) {w : World S} {v : View S} {w' : World (recorded S)}
    {v' : View (recorded S)} (h : Shows w v) (hl : noConn v.live) (h' : Shows w' v')
    (hl' : noConn v'.live) {log : List Call} (same : v'.server = (v.server, log))
    (survived : Survived (serve g items w).1) :
    (serve g items w').1 = (serve g items w).1 ∧
      (visits g items v.server).map Prod.fst = items ∧
      ∃ sessions : List (List WireSession),
        (serve g items w').2.server.2 = log ++ sessions.flatten.flatMap WireSession.calls ∧
        List.Forall₂ (fun visit own => Contacts S g visit.1.request visit.1.metric.function visit.2
          (own.map WireSession.connstring)) (visits g items v.server) sessions := by
  induction items generalizing w v w' v' log with
  | nil =>
    refine ⟨rfl, rfl, [], ?_, .nil⟩
    rw [serve, h'.server, same]
    simp
  | cons item items ih =>
    obtain ⟨own, result, state, contacts⟩ :=
      played_recorded (g := g) item.request item.metric.function v.server log
    rcases handle_cases g item h hl with
      ⟨o, w₁, v₁, played₁, run₁, hres₁, shows₁, server₁, -, live₁, -⟩ | ⟨e, w₁, -, run₁, -⟩
    · rcases handle_cases g item h' hl' with
        ⟨o', w₂, v₂, played₂, run₂, hres₂, shows₂, server₂, -, live₂, -⟩ | ⟨e, w₂, played₂, -⟩
      · rw [same, result] at played₂
        cases played₁.symm.trans played₂
        rw [same, state, ← server₁] at server₂
        have start := shows_start (S := S) v.server
        rcases handle_cases g item start (fun _ hx => by cases hx) with
          ⟨o₃, w₃, v₃, played₃, run₃, -, shows₃, server₃, -⟩ | ⟨e, w₃, played₃, -⟩
        · have next : w₃.server = v₁.server := by
            rw [shows₃.server, server₃, server₁]
          simp only [serve, run₁, run₂, visits, run₃, next] at survived ⊢
          obtain ⟨answers, served, rest, logged, all⟩ := ih shows₁ live₁ shows₂ live₂ server₂
            fun e he => survived e (List.mem_cons_of_mem _ he)
          refine ⟨by rw [answers, hres₁, hres₂], ?_, own :: rest, ?_, ?_⟩
          · rw [List.map_cons, served]
          · rw [logged]
            simp
          · exact .cons (contacts o played₁) all
        · cases played₁.symm.trans played₃
      · rw [same, result, played₁] at played₂
        cases played₂
    · simp only [serve, run₁] at survived
      exact absurd List.mem_cons_self (survived e)

/-- Over a whole life of the process the server sees one session after the other, each of
    them opened for one of the requests, with a database this request contacts: the one it
    names, or the next of those that its listing gave. -/
theorem life_is_sessions (items : List Item) (server : S.State)
    (survived : Survived (serve g items (World.start server)).1) :
    (serve g items (World.start (S := recorded S) (server, []))).1 =
        (serve g items (World.start server)).1 ∧
      (visits g items server).map Prod.fst = items ∧
      ∃ sessions : List (List WireSession),
        (serve g items (World.start (S := recorded S) (server, []))).2.server.2 =
          sessions.flatten.flatMap WireSession.calls ∧
        List.Forall₂ (fun visit own => Contacts S g visit.1.request visit.1.metric.function visit.2
          (own.map WireSession.connstring)) (visits g items server) sessions :=
  serve_logged items (shows_start server) (fun _ hx => by cases hx)
    (shows_start (S := recorded S) (server, [])) (fun _ hx => by cases hx) rfl survived

theorem life_is_sessions_short :
    (serve defaults [sizeItem, searchItem] (World.start (S := recorded scripted)
        (refusing ++ queryFails, []))).1 =
        (serve defaults [sizeItem, searchItem]
          (World.start (S := scripted) (refusing ++ queryFails))).1 ∧
      (visits (S := scripted) defaults [sizeItem, searchItem]
        (refusing ++ queryFails)).map Prod.fst = [sizeItem, searchItem] ∧
      ∃ sessions : List (List WireSession),
        (serve defaults [sizeItem, searchItem] (World.start (S := recorded scripted)
          (refusing ++ queryFails, []))).2.server.2 =
          sessions.flatten.flatMap WireSession.calls ∧
        List.Forall₂ (fun visit own => Contacts scripted defaults visit.1.request
          visit.1.metric.function visit.2 (own.map WireSession.connstring))
          (visits defaults [sizeItem, searchItem] (refusing ++ queryFails)) sessions :=
  life_is_sessions (S := scripted) [sizeItem, searchItem] (refusing ++ queryFails)
    shortLife_survived

end Life

end LibZbxPgsql.WireSessions
