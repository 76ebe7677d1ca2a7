import Mathlib.Algebra.Order.BigOperators.Group.List
import LibZbxPgsql.ArrayOwnership
import LibZbxPgsql.ResultRelease

set_option autoImplicit false

/-! The agent takes the item list once and then calls a handler for each item it is asked for,
in one process: handles, leaks and the server's state are carried over from one request to the
next. -/
namespace LibZbxPgsql.AgentRuns
open StateFaultWp HandleLedger CStrings AgentModel ItemKeys
open Dialogues WorldView Sessions DialogueRefinement DriverDialogues HandlerPlans KeyPlans
open HandleDiscipline ArrayOwnership ResultRelease

def zbx_module_item_list : List ZBX_METRIC := keys

structure Item where
  metric : ZBX_METRIC
  request : AGENT_REQUEST
  listed : metric ∈ zbx_module_item_list
  asked : request.key = metric.key

inductive Answer where
  | returned (ret : Ret) (result : AGENT_RESULT)
  | crashed (e : Fault)

section Serve
variable {S : Server} (g : Globals)

def handle (item : Item) (w : World S) : EStateM.Result Fault (World S) Ret :=
  call g item.request item.metric.function { w with result := .empty }

def answer : EStateM.Result Fault (World S) Ret → Answer
  | .ok ret w => .returned ret w.result
  | .error e _ => .crashed e

/-- The process: every request is served in the world the one before left. -/
def serve : List Item → World S → List Answer × World S
  | [], w => ([], w)
  | item :: items, w =>
    match handle g item w with
    | .ok ret w' => (.returned ret w'.result :: (serve items w').1, (serve items w').2)
    | .error e w' => ([.crashed e], w')

/-- The same requests, each served by a process of its own. -/
def alone : List Item → S.State → List (EStateM.Result Fault (World S) Ret)
  | [], _ => []
  | item :: items, s =>
    match handle g item (World.start s) with
    | .ok ret w => .ok ret w :: alone items w.server
    | .error e w => [.error e w]

def visits : List Item → S.State → List (Item × S.State)
  | [], _ => []
  | item :: items, s =>
    (item, s) :: match handle g item (World.start s) with
      | .ok _ w => visits items w.server
      | .error _ _ => []

end Serve

/-- How many handles of a kind were acquired and not released. -/
def unreleased (k : Kind) (trace : List Event) : ℕ :=
  (acts trace).countP (isAcquire (ofKind k)) - (acts trace).countP (isRelease (ofKind k))

section Requests
variable {S : Server} (g : Globals) (item : Item) {w : World S} {v : View S}

theorem shows_unreleased (h : Shows w v) (k : Kind) :
    unreleased k w.trace = (v.live.map kindOf).count k := by
  obtain ⟨seen, accepted, -⟩ := h.live
  have counted := replay_countP oneConnection (ofKind k) accepted
  have kinds : (v.live.map kindOf).count k = v.live.countP (ofKind k) := by
    rw [List.count, List.countP_map]
    rfl
  rw [unreleased, kinds]
  change _ = _ + v.live.countP (ofKind k) at counted
  omega

theorem handle_realises (h : Shows w v) (hl : noConn v.live) :
    Realises (call g item.request item.metric.function)
      ((plan g item.request item.metric.function).dialogue item.request) v.server v.sent
      (Delivered { v with result := .empty } v.live) { w with result := .empty } := by
  rw [call_run]
  exact plan_realises item.request _ (shows_result h .empty) rfl hl

/-- Everything a request does to the process, told from the play of its dialogue. -/
theorem handle_cases (h : Shows w v) (hl : noConn v.live) :
    (∃ o w' v', (played S g item.request item.metric.function v.server).result = .ok o ∧
      handle g item w = .ok o.report.ret w' ∧ w'.result = o.report.on .empty ∧ Shows w' v' ∧
      v'.server = (played S g item.request item.metric.function v.server).state ∧
      v'.sent = v.sent ++ sentOf (played S g item.request item.metric.function v.server).exchanges ∧
      noConn v'.live ∧ v'.live.map kindOf = o.leaked ++ v.live.map kindOf) ∨
    (∃ e w', (played S g item.request item.metric.function v.server).result = .error e ∧
      handle g item w = .error e w' ∧ commands w'.trace =
        v.sent ++ sentOf (played S g item.request item.metric.function v.server).exchanges) := by
  have realised := handle_realises g item h hl
  unfold Realises wp at realised
  rw [handle]
  cases run : call g item.request item.metric.function { w with result := .empty } with
  | ok ret w' =>
    rw [run] at realised
    obtain ⟨o, v', result, shows, server, sent, rfl, hres, new, live, kinds⟩ := realised
    refine .inl ⟨o, w', v', result, rfl, shows.result.trans hres, shows, server, sent, ?_, ?_⟩
    · have closed : Kind.conn ∉ o.leaked := allOutcomes_play (plan_noConn item.request _) result
      rw [live]
      refine noConn_append ?_ hl
      intro x hx
      have other : kindOf x ≠ .conn := fun same => closed (kinds ▸ same ▸ List.mem_map_of_mem hx)
      cases x <;> simp_all [kindOf, Handle.isConn]
    · rw [live, List.map_append, kinds]
  | error e w' =>
    rw [run] at realised
    exact .inr ⟨e, w', realised.1, rfl, realised.2⟩

/-- A world the process reaches by a request, beside the one the request reaches alone. -/
structure Continues (v : View S) (w₁ w' : World S) (v' : View S) : Prop where
  shows : Shows w' v'
  server : v'.server = w₁.server
  result : w'.result = w₁.result
  sent : v'.sent = v.sent ++ commands w₁.trace
  noConn : noConn v'.live
  left : ∀ k, (v'.live.map kindOf).count k = unreleased k w₁.trace + (v.live.map kindOf).count k

/-- A request goes in the process as it goes alone. -/
theorem handle_alone (h : Shows w v) (hl : noConn v.live) :
    (∃ ret w' w₁ v', handle g item w = .ok ret w' ∧
      handle g item (World.start v.server) = .ok ret w₁ ∧ Continues v w₁ w' v') ∨
    (∃ e w' w₁, handle g item w = .error e w' ∧
      handle g item (World.start v.server) = .error e w₁ ∧
      commands w'.trace = v.sent ++ commands w₁.trace) := by
  have start := shows_start (S := S) v.server
  rcases handle_cases g item h hl with
    ⟨o, w', v', played, run, hres, shows, server, sent, live, left⟩ | ⟨e, w', played, run, sent⟩
  · rcases handle_cases g item start (fun _ hx => by cases hx) with
      ⟨o₁, w₁, v₁, played₁, run₁, hres₁, shows₁, server₁, sent₁, -, left₁⟩ | ⟨e, w₁, played₁, -⟩
    · cases played.symm.trans played₁
      refine .inl ⟨_, w', w₁, v', run, run₁, shows, ?_, hres.trans hres₁.symm, ?_, live, ?_⟩
      · rw [server, shows₁.server, server₁]
      · rw [sent, shows₁.sent, sent₁, List.nil_append]
      · intro k
        rw [shows_unreleased shows₁, left₁, left]
        simp
    · cases played.symm.trans played₁
  · rcases handle_cases g item start (fun _ hx => by cases hx) with
      ⟨o₁, w₁, v₁, played₁, -⟩ | ⟨e₁, w₁, played₁, run₁, sent₁⟩
    · cases played.symm.trans played₁
    · cases played.symm.trans played₁
      exact .inr ⟨e, w', w₁, run, run₁, by rw [sent, sent₁, List.nil_append]⟩

end Requests

section Isolation
variable {S : Server} {g : Globals}

theorem requests_alike (items : List Item) {w : World S} {v : View S} (h : Shows w v)
    (hl : noConn v.live) :
    (serve g items w).1 = (alone g items v.server).map answer ∧
      commands (serve g items w).2.trace =
        v.sent ++ (alone g items v.server).flatMap fun run => commands (lastState run).trace := by
  induction items generalizing w v with
  | nil => simp [serve, alone, h.sent]
  | cons item items ih =>
    rcases handle_alone g item h hl with
      ⟨ret, w', w₁, v', run, run₁, next⟩ | ⟨e, w', w₁, run, run₁, sent⟩
    · have rest := ih next.shows next.noConn
      rw [next.server, next.sent] at rest
      simp only [serve, alone, run, run₁]
      constructor
      · rw [List.map_cons, answer, rest.1, next.result]
      · rw [List.flatMap_cons, rest.2, List.append_assoc]
        rfl
    · simp only [serve, alone, run, run₁]
      exact ⟨rfl, by simpa [lastState] using sent⟩

/-- Whatever was served before, a request gets the answer and sends the commands of a
    process started for it alone. -/
theorem requests_isolated (items : List Item) (server : S.State) :
    (serve g items (World.start server)).1 = (alone g items server).map answer ∧
      commands (serve g items (World.start server)).2.trace =
        (alone g items server).flatMap fun run => commands (lastState run).trace := by
  have served := requests_alike (g := g) items (shows_start server) (fun _ hx => by cases hx)
  rwa [List.nil_append] at served

end Isolation

def FewLeft (o : Outcome) : Prop :=
  o.leaked.Nodup ∧ (.result ∈ o.leaked → .json ∈ o.leaked)

theorem fewLeft_held (r : Report) (params : List CStr) : FewLeft ⟨r, held params⟩ := by
  cases params <;> simp [FewLeft, held]

theorem fewLeft_none (r : Report) : FewLeft ⟨r, []⟩ := by simp [FewLeft]

theorem steps_fewLeft (request : AGENT_REQUEST) (steps : Steps) (params : List CStr) :
    AllOutcomes FewLeft (steps.dialogue request params) := by
  induction steps generalizing params with
  | reject format args => exact allOutcomes_done (fewLeft_held _ params)
  | fault e =>
    intro o ho
    cases ho
  | append param next ih => exact ih _
  | version next ih =>
    apply allOutcomes_andThen
    intro reply e he
    cases e with
    | refused m | failed m => exact allOutcomes_done (fewLeft_held _ params)
    | value text =>
      rw [afterVersion]
      split
      · exact allOutcomes_done (fewLeft_held _ params)
      · exact ih _ params
  | scalar type query =>
    apply allOutcomes_andThen
    intro reply e he
    cases e with
    | refused m => exact allOutcomes_done (fewLeft_held _ params)
    | failed m | value text => exact allOutcomes_done (fewLeft_none _)
  | discovery query =>
    intro reply
    cases reply with
    | refused m => exact allOutcomes_done (fewLeft_held _ params)
    | noResult | failed _ | answered _ => exact allOutcomes_done (fewLeft_none _)

theorem wideAsk_fewLeft (connstring : Option CStr) (query : CStr) (dbs : List CStr)
    (data : List Json) : AllOutcomes FewLeft (wideAsk connstring query dbs data) := by
  induction dbs generalizing data with
  | nil => exact allOutcomes_done (fewLeft_none _)
  | cons db dbs ih =>
    intro reply
    cases reply with
    | refused m => exact allOutcomes_done (by simp [FewLeft])
    | noResult | failed m => exact allOutcomes_done (by simp [FewLeft, uncleared])
    | answered tuples => exact ih _

theorem plan_fewLeft (request : AGENT_REQUEST) (plan : Plan) :
    AllOutcomes FewLeft (plan.dialogue request) := by
  have clean : ∀ {d : Asks Outcome}, AllOutcomes (fun o => o.leaked = []) d →
      AllOutcomes FewLeft d :=
    fun h => ends_mono (fun r hr o ho => by simp [FewLeft, hr o ho]) h
  cases plan with
  | steps steps => exact steps_fewLeft request steps []
  | report value => exact allOutcomes_done (fewLeft_none _)
  | ping => exact clean (pingAsk_clean request)
  | wide query =>
    apply allOutcomes_andThen
    intro reply e he
    cases e with
    | error m => exact allOutcomes_done (fewLeft_none _)
    | ok names => exact wideAsk_fewLeft _ _ _ _
  | setting name => exact clean (settingAsk_clean request name)
  | indexStat query index => exact clean (indexStatAsk_clean request query index)

section Life
variable {S : Server} {g : Globals} {items : List Item} {server : S.State}

/-- No handler took the process down. -/
def Survived (answers : List Answer) : Prop := ∀ e, .crashed e ∉ answers

def Answer.isReturned : Answer → Bool
  | .returned _ _ => true
  | .crashed _ => false

theorem survived_of_all {answers : List Answer} (h : answers.all Answer.isReturned = true) :
    Survived answers := by
  intro e he
  have returned := List.all_eq_true.mp h _ he
  cases returned

theorem serve_shows (items : List Item) {w : World S} {v : View S} (h : Shows w v)
    (hl : noConn v.live) (survived : Survived (serve g items w).1) :
    ∃ v', Shows (serve g items w).2 v' ∧ noConn v'.live ∧ ∀ k, (v'.live.map kindOf).count k =
      ((alone g items v.server).map fun run => unreleased k (lastState run).trace).sum +
        (v.live.map kindOf).count k := by
  induction items generalizing w v with
  | nil => exact ⟨v, h, hl, by simp [alone]⟩
  | cons item items ih =>
    rcases handle_alone g item h hl with
      ⟨ret, w', w₁, v', run, run₁, next⟩ | ⟨e, w', w₁, run, -⟩
    · simp only [serve, alone, run, run₁] at survived ⊢
      obtain ⟨v'', shows, closed, left⟩ := ih next.shows next.noConn
        fun e he => survived e (List.mem_cons_of_mem _ he)
      refine ⟨v'', shows, closed, ?_⟩
      intro k
      rw [left k, next.left k, next.server, List.map_cons, List.sum_cons, lastState]
      omega
    · simp only [serve, run] at survived
      exact absurd List.mem_cons_self (survived e)

def lifeTrace (g : Globals) (items : List Item) (server : S.State) : List Event :=
  (serve g items (World.start server)).2.trace

/-- Over a whole life of the process no connection leaks, none is closed twice or used
    after it was closed, and at most one is open at any moment. -/
theorem connections_closed_throughout
    (survived : Survived (serve g items (World.start server)).1) :
    ReleasedOnce Handle.isConn (acts (lifeTrace g items server)) ∧
      UntouchedAfterRelease Handle.isConn (acts (lifeTrace g items server)) ∧
      OneAtATime Handle.isConn (acts (lifeTrace g items server)) := by
  obtain ⟨v, shows, closed, -⟩ :=
    serve_shows items (shows_start server) (fun _ hx => by cases hx) survived
  exact ⟨(shows_releasedOnce shows _).mpr closed, shows_untouchedAfterRelease shows _,
    shows_oneAtATime shows⟩

open Classical in
/-- How many of the requests met the condition when they were served. -/
noncomputable def meeting (C : AGENT_REQUEST → S.State → Handler → Prop)
    (visits : List (Item × S.State)) : ℕ :=
  (visits.map fun visit =>
    if C visit.1.request visit.2 visit.1.metric.function then 1 else 0).sum

theorem meeting_mono {C C' : AGENT_REQUEST → S.State → Handler → Prop}
    (h : ∀ (item : Item) s, C item.request s item.metric.function →
      C' item.request s item.metric.function) (visits : List (Item × S.State)) :
    meeting C visits ≤ meeting C' visits := by
  apply List.sum_le_sum
  intro visit _
  by_cases met : C visit.1.request visit.2 visit.1.metric.function
  · rw [if_pos met, if_pos (h _ _ met)]
  · rw [if_neg met]
    exact Nat.zero_le _

theorem meeting_left (k : Kind) (C : AGENT_REQUEST → S.State → Handler → Prop)
    (leaves : ∀ (item : Item) s o,
      (played S g item.request item.metric.function s).result = .ok o →
        (k ∈ o.leaked ↔ C item.request s item.metric.function))
    (items : List Item) (s : S.State) (survived : Survived ((alone g items s).map answer)) :
    ((alone g items s).map fun run => unreleased k (lastState run).trace).sum =
      meeting C (visits g items s) := by
  induction items generalizing s with
  | nil => rfl
  | cons item items ih =>
    have start := shows_start (S := S) s
    rcases handle_cases g item start (fun _ hx => by cases hx) with
      ⟨o, w, v, result, run, -, shows, -, -, -, left⟩ | ⟨e, w, -, run, -⟩
    · simp only [alone, visits, run, List.map_cons] at survived ⊢
      have rest := ih w.server fun e he => survived e (List.mem_cons_of_mem _ he)
      have few : FewLeft o := allOutcomes_play (plan_fewLeft item.request _) result
      rw [meeting, List.sum_cons, List.map_cons, List.sum_cons, rest, meeting, lastState,
        shows_unreleased shows, left, List.map_nil, List.append_nil]
      congr 1
      by_cases hk : k ∈ o.leaked
      · rw [if_pos ((leaves item s o result).mp hk), List.count_eq_one_of_mem few.1 hk]
      · rw [if_neg fun met => hk ((leaves item s o result).mpr met),
          List.count_eq_zero_of_not_mem hk]
    · simp only [alone, run, List.map_cons, List.map_nil] at survived
      exact absurd List.mem_cons_self (survived e)

/-- What a life of the process leaks: an array for each request that stopped before a
    command took it over, a buffer for each deep discovery that failed on a database, no
    more results than buffers, and no connection. -/
theorem leaks_accounted (survived : Survived (serve g items (World.start server)).1) :
    unreleased .params (lifeTrace g items server) =
        meeting (KeepsArray S) (visits g items server) ∧
      unreleased .json (lifeTrace g items server) =
        meeting (LeavesBuffers S) (visits g items server) ∧
      unreleased .result (lifeTrace g items server) ≤
        unreleased .json (lifeTrace g items server) ∧
      unreleased .conn (lifeTrace g items server) = 0 := by
  obtain ⟨v, shows, closed, left⟩ :=
    serve_shows items (shows_start server) (fun _ hx => by cases hx) survived
  have total : ∀ k, unreleased k (lifeTrace g items server) =
      ((alone g items server).map fun run => unreleased k (lastState run).trace).sum := by
    intro k
    rw [lifeTrace, shows_unreleased shows, left k]
    simp
  have apart := (requests_alike items (shows_start server) (fun _ hx => by cases hx)).1 ▸ survived
  have buffers : ∀ (item : Item) s o,
      (played S g item.request item.metric.function s).result = .ok o →
        (.json ∈ o.leaked ↔ LeavesBuffers S item.request s item.metric.function) := by
    intro item s o result
    have leaves : LeavesIff (LeavesBuffers S item.request s item.metric.function) o :=
      plan_leaves o result
    have few : FewLeft o := allOutcomes_play (plan_fewLeft item.request _) result
    constructor
    · intro kept
      by_contra none_left
      exact (leaves.mpr none_left).2 kept
    · intro met
      by_contra freed
      exact leaves.mp ⟨fun kept => freed (few.2 kept), freed⟩ met
  have results : ∀ (item : Item) s o,
      (played S g item.request item.metric.function s).result = .ok o →
        (.result ∈ o.leaked ↔ ∃ o, (played S g item.request item.metric.function s).result = .ok o ∧
          .result ∈ o.leaked) := by
    intro item s o result
    refine ⟨fun kept => ⟨o, result, kept⟩, ?_⟩
    rintro ⟨o', result', kept⟩
    cases result.symm.trans result'
    exact kept
  refine ⟨?_, ?_, ?_, ?_⟩
  · rw [total]
    exact meeting_left .params _ (fun item s o result =>
      plan_keeps item.listed item.asked o result) items server apart
  · rw [total]
    exact meeting_left .json _ buffers items server apart
  · rw [total, total, meeting_left .json _ buffers items server apart,
      meeting_left .result (fun request s f => ∃ o, (played S g request f s).result = .ok o ∧
        .result ∈ o.leaked) results items server apart]
    refine meeting_mono ?_ _
    rintro item s ⟨o, result, kept⟩
    have few : FewLeft o := allOutcomes_play (plan_fewLeft item.request _) result
    exact (buffers item s o result).mp (few.2 kept)
  · rw [lifeTrace, shows_unreleased shows, List.count_eq_zero]
    intro kept
    obtain ⟨x, hx, kind⟩ := List.mem_map.mp kept
    have other := closed x hx
    cases x <;> simp_all [kindOf, Handle.isConn]

end Life

def sizeItem : Item :=
  ⟨⟨"pg.db.size".toList, .PG_DB_SIZE⟩, sizeRequest, List.mem_of_getElem? (i := 39) rfl, rfl⟩

def searchItem : Item :=
  ⟨⟨"pg.namespace.discovery".toList, .PG_NAMESPACE_DISCOVERY⟩,
    ⟨"pg.namespace.discovery".toList, []⟩, List.mem_of_getElem? (i := 33) rfl, rfl⟩

def shortLife : List Event :=
  lifeTrace (S := scripted) defaults [sizeItem, searchItem] (refusing ++ queryFails)

theorem shortLife_survived :
    Survived (serve defaults [sizeItem, searchItem]
      (World.start (S := scripted) (refusing ++ queryFails))).1 :=
  survived_of_all (by decide +kernel)

theorem connections_closed_shortLife :
    ReleasedOnce Handle.isConn (acts shortLife) ∧
      UntouchedAfterRelease Handle.isConn (acts shortLife) ∧
      OneAtATime Handle.isConn (acts shortLife) :=
  connections_closed_throughout shortLife_survived

theorem leaks_accounted_shortLife :
    unreleased .params shortLife = meeting (KeepsArray scripted)
        (visits defaults [sizeItem, searchItem] (refusing ++ queryFails)) ∧
      unreleased .json shortLife = meeting (LeavesBuffers scripted)
        (visits defaults [sizeItem, searchItem] (refusing ++ queryFails)) ∧
      unreleased .result shortLife ≤ unreleased .json shortLife ∧
      unreleased .conn shortLife = 0 :=
  leaks_accounted shortLife_survived

end LibZbxPgsql.AgentRuns
