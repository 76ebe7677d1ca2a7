import LibZbxPgsql.DriverDialogues
import LibZbxPgsql.ItemKeys

set_option autoImplicit false

/-! A plan says what a handler is for: which parameters it binds, whether it asks for the
server's version first, and which driver runs which query. Running a plan is playing its
dialogue. -/
namespace LibZbxPgsql.HandlerPlans
open StateFaultWp CStrings PrintfFormat AgentModel Connections Drivers Discovery
open ServerKeys QueryKeys IndexKeys ItemKeys
open Dialogues WorldView Sessions DialogueRefinement DriverDialogues

/-- The steps of a handler that builds an array of parameters as it goes. -/
inductive Steps where
  | reject (format : CStr) (args : List Arg)
  | fault (e : Fault)
  | append (param : Option CStr) (next : Steps)
  | version (next : ℤ → Steps)
  | scalar (type : ResultType) (query : CStr)
  | discovery (query : CStr)

inductive Plan where
  | steps (steps : Steps)
  | report (value : CStr)
  | ping
  | wide (query : CStr)
  | setting (name : Option CStr)
  | indexStat (query : CStr) (index : Option CStr)

section Run
variable {S : Server} (request : AGENT_REQUEST)

def Steps.run : Steps → PGparams → Agent S Ret
  | .reject format args, _ => do
    let _ ← set_err_result .given format args
    return .SYSINFO_RET_FAIL
  | .fault e, _ => throw e
  | .append param next, params => do
    let params ← param_append params param
    next.run params
  | .version next, params => do
    let version ← pg_version request
    if 0 = toInt version then
      return .SYSINFO_RET_FAIL
    else
      (next (toInt version)).run params
  | .scalar type query, params => pg_get_result request type query params
  | .discovery query, params => pg_get_discovery request query params

def Plan.run : Plan → Agent S Ret
  | .steps s => s.run request none
  | .report value => do
    SET_STR_RESULT (.text value)
    return .SYSINFO_RET_OK
  | .ping => PG_CONNECT request
  | .wide query => pg_get_discovery_wide request query none
  | .setting name => readSetting request name
  | .indexStat query index => readIndexStat request query index

end Run

def settingValue (value type : CStr) : Value :=
  if 0 = strncmp "integer".toList type 7 then .ui64 (strtoull value)
  else if 0 = strncmp "real".toList type 4 then .dbl value
  else .str (.text value)

def settingEnd : Reply → Except Fault Outcome
  | .refused message => .ok ⟨.error (vsnprintf MAX_STRING_LEN message []), []⟩
  | .answered tuples =>
    match tuples.rows with
    | [] => .ok ⟨.silent, []⟩
    | (value :: type :: _) :: _ =>
      .ok ⟨.value (settingValue (fieldText value) (fieldText type)), []⟩
    | _ => .error .nullPointer
  | reply => .ok ⟨.error (discoveryError reply), []⟩

def indexStatEnd (query : CStr) : Reply → Except Fault Outcome
  | .refused message => .ok ⟨.error (vsnprintf MAX_STRING_LEN message []), []⟩
  | .answered tuples =>
    match tuples.rows with
    | [] => .ok ⟨.error (vsnprintf MAX_STRING_LEN "No results returned for query: %s".toList
        [.string query]), []⟩
    | [] :: _ => .error .nullPointer
    | (value :: _) :: _ => .ok ⟨.value (.ui64 (toUInt64 (atoi (fieldText value)))), []⟩
  | reply => .ok ⟨.error (discoveryError reply), []⟩

def pingEnd : Reply → Outcome
  | .refused _ => ⟨.value (.ui64 0), []⟩
  | _ => ⟨.value (.ui64 1), []⟩

def versionNumber (text : CStr) : ℤ := toInt (atol text)

section Dialogues
variable (request : AGENT_REQUEST)

def settingAsk (name : Option CStr) : Asks Outcome :=
  .ask (.query (requestConnstring request) PGSQL_GET_SETTING (bound name)) fun reply =>
    .done (settingEnd reply)

def indexStatAsk (query : CStr) (index : Option CStr) : Asks Outcome :=
  .ask (.query (requestConnstring request) query (bound index)) fun reply =>
    .done (indexStatEnd query reply)

def pingAsk : Asks Outcome :=
  .ask (.ping (requestConnstring request)) fun reply => .done (.ok (pingEnd reply))

/-- What follows the version query: nothing where it failed or the version reads as 0. -/
def afterVersion (params : List CStr) (next : ℤ → Asks Outcome) : ScalarEnd → Asks Outcome
  | .refused message => .done (.ok ⟨.error message, held params⟩)
  | .failed message => .done (.ok ⟨.error message, held params⟩)
  | .value text =>
    if 0 = versionNumber text then .done (.ok ⟨.silent, held params⟩)
    else next (versionNumber text)

/-- The dialogue of steps that hold these parameters so far. -/
def Steps.dialogue : Steps → List CStr → Asks Outcome
  | .reject format args, params =>
    .done (.ok ⟨.error (vsnprintf MAX_STRING_LEN format args), held params⟩)
  | .fault e, _ => .done (.error e)
  | .append param next, params => next.dialogue (params ++ bound param)
  | .version next, params =>
    andThen (scalarAsk request PGSQL_VERSION_NUM [] MAX_STRING_LEN)
      (afterVersion params fun v => (next v).dialogue params)
  | .scalar type query, params => resultAsk request type query params
  | .discovery query, params => discoveryAsk request query params

def Plan.dialogue : Plan → Asks Outcome
  | .steps s => s.dialogue request []
  | .report value => .done (.ok ⟨.value (.str (.text value)), []⟩)
  | .ping => pingAsk request
  | .wide query => discoveryWideAsk request query
  | .setting name => settingAsk request name
  | .indexStat query index => indexStatAsk request query index

variable {request}

/-- What steps that begin with the version query ask. -/
theorem asked_version {P : Question → Prop} {next : ℤ → Steps} {params : List CStr}
    (first : P (.query (requestConnstring request) PGSQL_VERSION_NUM []))
    (rest : ∀ v, Asked P ((next v).dialogue request params)) :
    Asked P ((Steps.version next).dialogue request params) := by
  refine asked_bind ⟨first, fun _ => trivial⟩ ?_
  intro e
  cases e with
  | error e => trivial
  | ok e =>
    cases e with
    | refused m => trivial
    | failed m => trivial
    | value text =>
      simp only [afterVersion]
      split
      · trivial
      · exact rest _

/-- What a deep discovery asks: for the databases, and the query on each. -/
theorem asked_wide {P : Question → Prop} {query : CStr}
    (listing : P (.query (requestConnstring request) PGSQL_CONNECTABLE_DATABASES []))
    (sent : ∀ connstring, P (.query connstring query [])) :
    Asked P (discoveryWideAsk request query) := by
  have loop : ∀ (connstring : Option CStr) dbs data,
      Asked P (wideAsk connstring query dbs data) := by
    intro connstring dbs
    induction dbs with
    | nil => exact fun _ => trivial
    | cons db dbs ih =>
      intro data
      refine ⟨sent _, ?_⟩
      intro reply
      cases reply with
      | refused m => trivial
      | noResult => trivial
      | failed m => trivial
      | answered tuples => exact ih _
  refine asked_bind ⟨listing, fun _ => trivial⟩ ?_
  intro found
  cases found with
  | error e => trivial
  | ok names =>
    cases names with
    | error m => trivial
    | ok names => exact loop _ _ _

end Dialogues

section Runs
variable {S : Server} {w : World S} {v : View S} {L : List Handle}

theorem set_ui64_spec (h : Shows w v) (n : ℕ) :
    wp (SET_UI64_RESULT n) (fun _ w' => Shows w' { v with result := Value.on v.result (.ui64 n) })
      (fun _ _ => False) w := by
  change Shows { w with result := Value.on w.result (.ui64 n) } _
  rw [h.result]
  exact shows_result h _

theorem ping_realises (h : Shows w v) (hv : v.live = L) (hL : noConn L)
    (request : AGENT_REQUEST) :
    Realises (PG_CONNECT request) (pingAsk request) v.server v.sent
      (Delivered v L) w := by
  have hl : noConn v.live := hv ▸ hL
  cases hr : refusal S v.server (requestConnstring request) with
  | mk message s' =>
    cases message with
    | some message =>
      have asked : session S v.server (.ping (requestConnstring request)) =
          (.refused message, s') := by rw [session, hr]
      refine realises_ask asked ?_
      refine realises_silent (pg_connect_refused h hl hr) ?_
      rintro conn w₁ ⟨rfl, h₁⟩
      apply realises_done
      change ∃ v', Shows { w₁ with result := { w₁.result with ui64 := some 0 } } v' ∧ _
      rw [h₁.result]
      exact ⟨_, shows_result h₁ _, rfl, by simp [sentBy], rfl, rfl, [], hv, rfl⟩
    | none =>
      have asked : session S v.server (.ping (requestConnstring request)) =
          (.noResult, S.finish s') := by rw [session, hr]
      refine realises_ask asked ?_
      refine realises_silent (pg_connect_opened h hl hr) ?_
      rintro conn w₁ ⟨id, rfl, h₁⟩
      refine realises_silent (PQstatus_spec h₁ List.mem_cons_self) ?_
      rintro status w₂ ⟨rfl, h₂⟩
      rw [if_pos rfl]
      apply realises_done
      refine wp_seq (set_ui64_spec h₂ 1) ?_
      intro _ w₃ h₃
      refine wp_seq (PQfinish_spec (K := []) h₃ rfl (fun hm => by cases hm)) ?_
      intro _ w₄ h₄
      exact ⟨_, h₄, rfl, by simp [sentBy], rfl, rfl, [], hv, rfl⟩

theorem setSetting_run (value type : CStr) (w : World S) :
    setSetting value type w =
      .ok () { w with result := (settingValue value type).on w.result } := by
  unfold setSetting settingValue
  split
  · rfl
  · split <;> rfl

/-- The failures that `PG_SETTING` and `PG_STAT_ALL_INDEXES` report alike. -/
theorem reported_failure {res : Option PGresult} {connstring : CStr} {id : ℕ} (h : Shows w v)
    (hv : v.live = resultHandle res ++ .conn id :: L) (format : CStr) (args : List Arg) :
    Realises (do
        let _ ← set_err_result .given format args
        clearAndFinish res (some ⟨id, connstring, .CONNECTION_OK, []⟩)
        return .SYSINFO_RET_FAIL)
      (.done (.ok ⟨.error (vsnprintf MAX_STRING_LEN format args), []⟩)) (S.finish v.server)
      v.sent (Delivered v L) w := by
  apply realises_done
  refine wp_seq (set_err_result_spec h .given format args) ?_
  intro _ w₁ h₁
  refine wp_seq (clearAndFinish_spec h₁ hv) ?_
  intro _ w₂ h₂
  exact ⟨_, h₂, rfl, rfl, rfl, rfl, [], rfl, rfl⟩

theorem readSetting_realises (h : Shows w v) (hv : v.live = L) (hL : noConn L)
    (request : AGENT_REQUEST) (setting : Option CStr) :
    Realises (readSetting request setting) (settingAsk request setting) v.server v.sent
      (Delivered v L) w := by
  refine realises_fetch_new (fun _ => rfl) h hv hL ?_ ?_
  · intro message s' w' h'
    apply realises_done
    exact ⟨_, h', rfl, rfl, rfl, rfl, [], hv, rfl⟩
  · intro reply s' id res w' received h'
    cases reply with
    | refused message => cases received
    | noResult =>
      cases received
      exact reported_failure h' rfl _ _
    | failed message =>
      obtain ⟨rid, rfl⟩ := received
      exact reported_failure h' rfl _ _
    | answered tuples =>
      obtain ⟨rid, rfl⟩ := received
      rw [if_neg (by simp)]
      cases hrows : tuples.rows with
      | nil =>
        rw [if_pos (by simp [hrows]), settingEnd, hrows]
        apply realises_done
        refine wp_seq (clearAndFinish_spec h' rfl) ?_
        intro _ w₁ h₁
        exact ⟨_, h₁, rfl, rfl, rfl, rfl, [], rfl, rfl⟩
      | cons row rows =>
        rw [if_neg (by simp [hrows])]
        match row with
        | [] =>
          simp only [settingEnd, hrows, PQgetvalue_tuples]
          exact realises_fault h'
        | [value] =>
          simp only [settingEnd, hrows, PQgetvalue_tuples]
          refine realises_silent (deref_some (fieldText value) w') ?_
          rintro _ _ ⟨rfl, rfl⟩
          exact realises_fault h'
        | value :: type :: row =>
          simp only [settingEnd, hrows, PQgetvalue_tuples]
          apply realises_done
          refine wp_seq (deref_some (fieldText value) w') ?_
          rintro _ _ ⟨rfl, rfl⟩
          refine wp_seq (deref_some (fieldText type) _) ?_
          rintro _ w' ⟨rfl, rfl⟩
          have set : wp (setSetting (fieldText value) (fieldText type)) (fun _ w₁ => Shows w₁
              ⟨s', (settingValue (fieldText value) (fieldText type)).on v.result,
                v.sent ++ [(PGSQL_GET_SETTING, bound setting)],
                resultHandle (some ⟨rid, some tuples, []⟩) ++ .conn id :: L⟩)
              (fun _ _ => False) w' := by
            rw [wp, setSetting_run, h'.result]
            exact shows_result h' _
          refine wp_seq set ?_
          intro _ w₁ h₁
          refine wp_seq (clearAndFinish_spec h₁ rfl) ?_
          intro _ w₂ h₂
          exact ⟨_, h₂, rfl, rfl, rfl, rfl, [], rfl, rfl⟩

theorem readIndexStat_realises (h : Shows w v) (hv : v.live = L) (hL : noConn L)
    (request : AGENT_REQUEST) (query : CStr) (index : Option CStr) :
    Realises (readIndexStat request query index) (indexStatAsk request query index)
      v.server v.sent (Delivered v L) w := by
  refine realises_fetch_new (fun _ => rfl) h hv hL ?_ ?_
  · intro message s' w' h'
    apply realises_done
    exact ⟨_, h', rfl, rfl, rfl, rfl, [], hv, rfl⟩
  · intro reply s' id res w' received h'
    cases reply with
    | refused message => cases received
    | noResult =>
      cases received
      exact reported_failure h' rfl _ _
    | failed message =>
      obtain ⟨rid, rfl⟩ := received
      exact reported_failure h' rfl _ _
    | answered tuples =>
      obtain ⟨rid, rfl⟩ := received
      rw [if_neg (by simp)]
      cases hrows : tuples.rows with
      | nil =>
        rw [if_pos (by simp [hrows]), indexStatEnd, hrows]
        exact reported_failure h' rfl _ _
      | cons row rows =>
        rw [if_neg (by simp [hrows])]
        cases row with
        | nil =>
          simp only [indexStatEnd, hrows, PQgetvalue_tuples]
          exact realises_fault h'
        | cons value row =>
          simp only [indexStatEnd, hrows, PQgetvalue_tuples]
          apply realises_done
          refine wp_seq (deref_some (fieldText value) w') ?_
          rintro _ _ ⟨rfl, rfl⟩
          refine wp_seq (set_ui64_spec h' _) ?_
          intro _ w₁ h₁
          refine wp_seq (clearAndFinish_spec h₁ rfl) ?_
          intro _ w₂ h₂
          exact ⟨_, h₂, rfl, rfl, rfl, rfl, [], rfl, rfl⟩

/-- Running steps is playing their dialogue. -/
theorem steps_realises (request : AGENT_REQUEST) (steps : Steps) (params : PGparams)
    (h : Shows w v) (hv : v.live = paramsHandle params ++ L) (hL : noConn L)
    (packed : Packed params) :
    Realises (steps.run request params) (steps.dialogue request (cells params))
      v.server v.sent (Delivered v L) w := by
  induction steps generalizing w v params with
  | reject format args =>
    apply realises_done
    refine wp_seq (set_err_result_spec h .given format args) ?_
    intro _ w₁ h₁
    exact ⟨_, h₁, rfl, rfl, rfl, rfl, paramsHandle params, hv, paramsHandle_kinds packed⟩
  | fault e => exact realises_fault h
  | append param next ih =>
    refine realises_silent (param_append_spec params h hv packed param) ?_
    rintro params' w₁ ⟨hc, packed', h₁⟩
    rw [Steps.dialogue, ← hc]
    exact ih params' (v := { v with live := paramsHandle params' ++ L }) h₁ rfl packed'
  | version next ih =>
    have unread : noConn v.live := by
      rw [hv]
      exact noConn_append (noConn_params params) hL
    rw [Steps.run, Steps.dialogue, pg_version, bind_assoc]
    refine realises_bind (pg_scalar_realises none h rfl unread request
      PGSQL_VERSION_NUM MAX_STRING_LEN) ?_
    rintro e ⟨code, text⟩ v' w' done h'
    have failing : ∀ m, v'.result = { v.result with msg := some m } → v'.live = v.live →
        Realises (do
            let version ← pure (0 : ℤ)
            if 0 = toInt version then return .SYSINFO_RET_FAIL
            else (next (toInt version)).run request params)
          (.done (.ok ⟨.error m, held (cells params)⟩)) v'.server v'.sent (Delivered v L) w' := by
      intro m result live
      apply realises_done
      exact ⟨v', h', rfl, rfl, rfl, result, paramsHandle params, live.trans hv,
        paramsHandle_kinds packed⟩
    cases e with
    | refused m =>
      obtain ⟨out, result, live⟩ := done
      cases out
      exact failing m result live
    | failed m =>
      obtain ⟨out, result, live⟩ := done
      cases out
      exact failing m result live
    | value text =>
      obtain ⟨out, result, live⟩ := done
      cases out
      change Realises (if 0 = versionNumber text then _ else _)
        (if 0 = versionNumber text then _ else _) _ _ _ _
      by_cases hz : 0 = versionNumber text
      · rw [if_pos hz, if_pos hz]
        apply realises_done
        exact ⟨v', h', rfl, rfl, rfl, result, paramsHandle params, live.trans hv,
          paramsHandle_kinds packed⟩
      · rw [if_neg hz, if_neg hz]
        refine realises_post (ih _ params h' (live.trans hv) packed) ?_
        rintro o ret v'' ⟨hret, hres, hlive⟩
        exact ⟨hret, result ▸ hres, hlive⟩
  | scalar type query => exact pg_get_result_realises params h hv hL packed request type query
  | discovery query => exact pg_get_discovery_realises params h hv hL packed request query

theorem plan_realises (request : AGENT_REQUEST) (plan : Plan) (h : Shows w v)
    (hv : v.live = L) (hL : noConn L) :
    Realises (plan.run request) (plan.dialogue request) v.server v.sent (Delivered v L) w := by
  cases plan with
  | steps steps => exact steps_realises request steps none h hv hL packed_none
  | report value =>
    exact set_result_realises (.str (.text value)) h hv fun _ => rfl
  | ping => exact ping_realises h hv hL request
  | wide query => exact pg_get_discovery_wide_realises h hv hL request query
  | setting name => exact readSetting_realises h hv hL request name
  | indexStat query index => exact readIndexStat_realises h hv hL request query index

end Runs

end LibZbxPgsql.HandlerPlans
