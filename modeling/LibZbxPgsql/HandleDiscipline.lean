import LibZbxPgsql.KeyPlans

set_option autoImplicit false

namespace LibZbxPgsql.HandleDiscipline
open StateFaultWp HandleLedger CStrings AgentModel Connections Drivers Discovery ItemKeys
open Dialogues WorldView Sessions DialogueRefinement DriverDialogues HandlerPlans KeyPlans

/-- Every outcome the dialogue can end with satisfies `P`. -/
def AllOutcomes {β : Type} (P : β → Prop) (d : Asks β) : Prop :=
  Ends (fun r => ∀ o, r = .ok o → P o) d

section AllOutcomes
variable {β γ : Type} {P : β → Prop}

theorem allOutcomes_done {b : β} (h : P b) : AllOutcomes P (.done (.ok b)) := by
  intro o ho
  cases ho
  exact h

theorem allOutcomes_andThen {d : Asks γ} {f : γ → Asks β}
    (h : AllOutcomes (fun b => AllOutcomes P (f b)) d) : AllOutcomes P (andThen d f) := by
  refine ends_bind (ends_mono ?_ h)
  intro r hr
  cases r with
  | ok b => exact hr b rfl
  | error e =>
    intro o ho
    cases ho

theorem allOutcomes_play {S : Server} {d : Asks β} (h : AllOutcomes P d) {s : S.State} {b : β}
    (result : (play (session S) d s).result = .ok b) : P b :=
  ends_play (session S) h s b result

end AllOutcomes

def OnlyParams (o : Outcome) : Prop := ∀ k ∈ o.leaked, k = .params

theorem onlyParams_held (r : Report) (params : List CStr) : OnlyParams ⟨r, held params⟩ := by
  intro k hk
  cases params with
  | nil => cases hk
  | cons p ps => exact List.mem_singleton.mp hk

theorem onlyParams_none (r : Report) : OnlyParams ⟨r, []⟩ := fun _ hk => by cases hk

theorem resultOutcome_onlyParams (type : ResultType) (params : List CStr) (e : ScalarEnd) :
    OnlyParams (resultOutcome type params e) := by
  cases e with
  | refused m => exact onlyParams_held _ params
  | failed m => exact onlyParams_none _
  | value text => exact onlyParams_none _

theorem discoveryEnd_onlyParams (params : List CStr) (reply : Reply) :
    OnlyParams (discoveryEnd params reply) := by
  cases reply with
  | refused m => exact onlyParams_held _ params
  | noResult | failed _ | answered _ => exact onlyParams_none _

theorem steps_onlyParams (request : AGENT_REQUEST) (steps : Steps) (params : List CStr) :
    AllOutcomes OnlyParams (steps.dialogue request params) := by
  induction steps generalizing params with
  | reject format args => exact allOutcomes_done (onlyParams_held _ params)
  | fault e =>
    intro o ho
    cases ho
  | append param next ih => exact ih _
  | version next ih =>
    apply allOutcomes_andThen
    intro reply e he
    cases e with
    | refused m => exact allOutcomes_done (onlyParams_held _ params)
    | failed m => exact allOutcomes_done (onlyParams_held _ params)
    | value text =>
      rw [afterVersion]
      split
      · exact allOutcomes_done (onlyParams_held _ params)
      · exact ih _ params
  | scalar type query =>
    apply allOutcomes_andThen
    intro reply e he
    exact allOutcomes_done (resultOutcome_onlyParams type params e)
  | discovery query =>
    intro reply
    exact allOutcomes_done (discoveryEnd_onlyParams params reply)

def NoConnNorParams (o : Outcome) : Prop := .conn ∉ o.leaked ∧ .params ∉ o.leaked

theorem wideAsk_noConnNorParams (connstring : Option CStr) (query : CStr) (dbs : List CStr)
    (data : List Json) : AllOutcomes NoConnNorParams (wideAsk connstring query dbs data) := by
  induction dbs generalizing data with
  | nil => exact allOutcomes_done ⟨List.not_mem_nil, List.not_mem_nil⟩
  | cons db dbs ih =>
    intro reply
    cases reply with
    | refused m => exact allOutcomes_done ⟨by simp, by simp⟩
    | noResult => exact allOutcomes_done ⟨by simp [uncleared], by simp [uncleared]⟩
    | failed m => exact allOutcomes_done ⟨by simp [uncleared], by simp [uncleared]⟩
    | answered tuples => exact ih _

theorem discoveryWide_noConnNorParams (request : AGENT_REQUEST) (query : CStr) :
    AllOutcomes NoConnNorParams (discoveryWideAsk request query) := by
  apply allOutcomes_andThen
  intro reply e he
  cases e with
  | error m => exact allOutcomes_done ⟨List.not_mem_nil, List.not_mem_nil⟩
  | ok names => exact wideAsk_noConnNorParams _ _ _ _

theorem settingAsk_clean (request : AGENT_REQUEST) (name : Option CStr) :
    AllOutcomes (fun o => o.leaked = []) (settingAsk request name) := by
  intro reply o ho
  unfold settingEnd at ho
  split at ho
  · cases ho
    rfl
  · split at ho <;> cases ho <;> rfl
  · cases ho
    rfl

theorem indexStatAsk_clean (request : AGENT_REQUEST) (query : CStr) (index : Option CStr) :
    AllOutcomes (fun o => o.leaked = []) (indexStatAsk request query index) := by
  intro reply o ho
  unfold indexStatEnd at ho
  split at ho
  · cases ho
    rfl
  · split at ho <;> cases ho <;> rfl
  · cases ho
    rfl

theorem pingAsk_clean (request : AGENT_REQUEST) :
    AllOutcomes (fun o => o.leaked = []) (pingAsk request) := by
  intro reply
  cases reply <;> exact allOutcomes_done rfl

theorem plan_noConn (request : AGENT_REQUEST) (plan : Plan) :
    AllOutcomes (fun o => .conn ∉ o.leaked) (plan.dialogue request) := by
  have clean : ∀ {d : Asks Outcome}, AllOutcomes (fun o => o.leaked = []) d →
      AllOutcomes (fun o => .conn ∉ o.leaked) d :=
    fun h => ends_mono (fun r hr o ho => by simp [hr o ho]) h
  cases plan with
  | steps steps =>
    refine ends_mono ?_ (steps_onlyParams request steps [])
    intro r hr o ho hm
    cases hr o ho _ hm
  | report value => exact allOutcomes_done List.not_mem_nil
  | ping => exact clean (pingAsk_clean request)
  | wide query =>
    refine ends_mono ?_ (discoveryWide_noConnNorParams request query)
    exact fun r hr o ho => (hr o ho).1
  | setting name => exact clean (settingAsk_clean request name)
  | indexStat query index => exact clean (indexStatAsk_clean request query index)

def ofKind (k : Kind) (h : Handle) : Bool := kindOf h = k

theorem isConn_ofKind : Handle.isConn = ofKind .conn := by
  funext h
  cases h <;> rfl

theorem isResult_ofKind : Handle.isResult = ofKind .result := by
  funext h
  cases h <;> rfl

theorem isJson_ofKind : Handle.isJson = ofKind .json := by
  funext h
  cases h <;> rfl

theorem isParams_ofKind : Handle.isParams = ofKind .params := by
  funext h
  cases h <;> rfl

theorem releasedOnce_ofKind {S : Server} {w : World S} {v : View S} {o : Outcome} (k : Kind)
    (h : Shows w v) (kinds : v.live.map kindOf = o.leaked) :
    ReleasedOnce (ofKind k) (acts w.trace) ↔ k ∉ o.leaked := by
  rw [shows_releasedOnce h, ← kinds]
  simp [ofKind]

section Connections
variable {S : Server} {g : Globals} {request : AGENT_REQUEST} {f : Handler}
  {server : S.State} {ret : Ret} {w : World S}

/-- No connection leaks, none is closed twice or used after it was closed, and at most
    one is open at any moment. -/
theorem connections_closed
    (run : call g request f (World.start server) = .ok ret w) :
    ReleasedOnce Handle.isConn (acts w.trace) ∧
      UntouchedAfterRelease Handle.isConn (acts w.trace) ∧
      OneAtATime Handle.isConn (acts w.trace) := by
  obtain ⟨o, v, result, shows, -, -, kinds⟩ := call_returned run
  refine ⟨?_, shows_untouchedAfterRelease shows _, shows_oneAtATime shows⟩
  rw [isConn_ofKind, releasedOnce_ofKind .conn shows kinds]
  exact allOutcomes_play (plan_noConn request _) result

end Connections

def defaults : Globals := ⟨.initial, fun _ _ => false, "4.0.0".toList⟩

def halfReachable : List (ConnectReply × ExecReply) :=
  let listing : Tuples := ⟨["datname".toList], [[some "a".toList], [some "b".toList]], by decide⟩
  let found : Tuples := ⟨["oid".toList], [[some "1".toList]], by decide⟩
  [(.CONNECTION_OK, .PGRES_TUPLES_OK listing), (.CONNECTION_OK, .PGRES_TUPLES_OK found),
   (.CONNECTION_BAD "refused".toList, .outOfMemory)]

def endOf (key : CStr) (f : Handler) (server : List (ConnectReply × ExecReply)) :
    World scripted :=
  lastState (call defaults ⟨key, []⟩ f (World.start server))

def deepEnd (server : List (ConnectReply × ExecReply)) : World scripted :=
  endOf "pg.namespace.discovery".toList .PG_NAMESPACE_DISCOVERY server

theorem connections_closed_halfReachable :
    ReleasedOnce Handle.isConn (acts (deepEnd halfReachable).trace) ∧
      UntouchedAfterRelease Handle.isConn (acts (deepEnd halfReachable).trace) ∧
      OneAtATime Handle.isConn (acts (deepEnd halfReachable).trace) := by
  have run : call (S := scripted) defaults ⟨"pg.namespace.discovery".toList, []⟩
      .PG_NAMESPACE_DISCOVERY (World.start halfReachable) =
        .ok .SYSINFO_RET_FAIL (deepEnd halfReachable) := rfl
  exact connections_closed run

end LibZbxPgsql.HandleDiscipline
