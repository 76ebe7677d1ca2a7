import LibZbxPgsql.ArrayOwnership

set_option autoImplicit false

namespace LibZbxPgsql.ResultDiscipline
open StateFaultWp CStrings PrintfFormat AgentModel Connections Drivers Discovery
open QueryKeys ItemKeys Dialogues WorldView Sessions DialogueRefinement DriverDialogues
open HandlerPlans KeyPlans HandleDiscipline ActivityClauses Conclusions QueryBinding
open ArrayOwnership

def valuesSet (result : AGENT_RESULT) : ℕ :=
  result.ui64.toList.length + result.dbl.toList.length + result.str.toList.length

/-- One value and no message with success, a message and no value with failure. -/
def Disciplined : Ret → AGENT_RESULT → Prop
  | .SYSINFO_RET_OK, result => valuesSet result = 1 ∧ result.msg = none
  | .SYSINFO_RET_FAIL, result => result.msg ≠ none ∧ valuesSet result = 0

section Conditions
variable (S : Server) (request : AGENT_REQUEST) (s : S.State)

/-- The query for the setting is answered with no row. -/
def SettingMissing : Prop :=
  ∃ tuples s', session S s (.query (requestConnstring request) PGSQL_GET_SETTING
    (bound (get_rparam request PARAM_FIRST))) = (.answered tuples, s') ∧ tuples.rows = []

/-- The handlers that fail without a message. -/
def FailsSilently : Handler → Prop
  | .PG_SETTING => Named request ∧ SettingMissing S request s
  | .PG_BACKENDS_COUNT | Handler.PG_BACKENDS_RATIO | .PG_TABLESPACE_DISCOVERY =>
    versionRead S s request = some 0
  | .PG_QUERIES_LONGEST => ¬ WaitingRejected request ∧ versionRead S s request = some 0
  | _ => False

end Conditions

theorem report_disciplined_iff (r : Report) : Disciplined r.ret (r.on .empty) ↔ r ≠ .silent := by
  cases r with
  | value x =>
    cases x <;> simp [Report.ret, Report.on, Value.on, Disciplined, valuesSet, AGENT_RESULT.empty]
  | error m => simp [Report.ret, Report.on, Disciplined, valuesSet, AGENT_RESULT.empty]
  | silent => simp [Report.ret, Report.on, Disciplined, valuesSet, AGENT_RESULT.empty]

/-- The outcome reports nothing exactly where `C` holds. -/
def SilentIff (C : Prop) (o : Outcome) : Prop := o.report = .silent ↔ C

inductive Unversioned : Steps → Prop where
  | reject (format : CStr) (args : List Arg) : Unversioned (.reject format args)
  | fault (e : Fault) : Unversioned (.fault e)
  | append (param : Option CStr) {next : Steps} (h : Unversioned next) :
    Unversioned (.append param next)
  | scalar (type : ResultType) (query : CStr) : Unversioned (.scalar type query)
  | discovery (query : CStr) : Unversioned (.discovery query)

section Outcomes
variable {S : Server} {s : S.State} {request : AGENT_REQUEST}

theorem silentIff_false {o : Outcome} (h : o.report ≠ .silent) : SilentIff False o := by
  simp [SilentIff, h]

theorem silentIff_error (m : Message) (leaked : List Kind) :
    SilentIff False ⟨.error m, leaked⟩ := silentIff_false (by simp)

theorem silentIff_value (x : Value) (leaked : List Kind) :
    SilentIff False ⟨.value x, leaked⟩ := silentIff_false (by simp)

theorem resultReport_loud (text : CStr) (type : ResultType) :
    resultReport text type ≠ .silent := by
  cases type <;> simp [resultReport]

theorem unversioned_loud (request : AGENT_REQUEST) {steps : Steps} (h : Unversioned steps)
    (params : List CStr) :
    Concludes S (SilentIff False) (steps.dialogue request params) s := by
  induction h generalizing params with
  | reject format args => exact concludes_done (silentIff_error _ _)
  | fault e => exact concludes_fault e
  | append param _ ih => exact ih _
  | scalar type query =>
    exact concludes_result (fun _ _ => silentIff_error _ _) (fun _ _ => silentIff_error _ _)
      fun _ text => silentIff_false (resultReport_loud text type)
  | discovery query =>
    exact concludes_discovery (fun _ _ => silentIff_error _ _) (fun _ _ => silentIff_error _ _)
      fun _ x => silentIff_value x _

theorem wideAsk_loud (connstring : Option CStr) (query : CStr) (dbs : List CStr)
    (data : List Json) : AllOutcomes (SilentIff False) (wideAsk connstring query dbs data) := by
  induction dbs generalizing data with
  | nil => exact allOutcomes_done (silentIff_value _ _)
  | cons db dbs ih =>
    intro reply
    cases reply with
    | refused m | noResult | failed m => exact allOutcomes_done (silentIff_error _ _)
    | answered tuples => exact ih _

theorem discoveryWide_loud (query : CStr) :
    AllOutcomes (SilentIff False) (discoveryWideAsk request query) := by
  apply allOutcomes_andThen
  intro reply e he
  cases e with
  | error m => exact allOutcomes_done (silentIff_error _ _)
  | ok names => exact wideAsk_loud _ _ _ _

theorem mode_loud (query : CStr) :
    Concludes S (SilentIff False) ((modePlan request query).dialogue request) s := by
  unfold modePlan
  dsimp only
  split
  · exact concludes_all (discoveryWide_loud query)
  · split
    · exact unversioned_loud request (.discovery query) []
    · exact unversioned_loud request (.reject _ _) []

theorem ping_loud : AllOutcomes (SilentIff False) (pingAsk request) := by
  intro reply
  cases reply <;> exact allOutcomes_done (silentIff_value _ _)

theorem indexStat_loud (query : CStr) (index : Option CStr) :
    AllOutcomes (SilentIff False) (indexStatAsk request query index) := by
  intro reply o ho
  unfold indexStatEnd at ho
  split at ho
  · cases ho
    exact silentIff_error _ _
  · split at ho <;> cases ho
    · exact silentIff_error _ _
    · exact silentIff_value _ _
  · cases ho
    exact silentIff_error _ _

theorem requireName_loud {message : CStr} {found : Option CStr → Steps}
    (h : ∀ name, Unversioned (found name)) :
    Concludes S (SilentIff False) ((requireNamePlan request message found).dialogue request) s := by
  refine unversioned_loud request ?_ []
  split
  · exact .reject _ _
  · exact h _

theorem optionalName_loud (type : ResultType) (all one : CStr) :
    Concludes S (SilentIff False) ((optionalNamePlan request type all one).dialogue request) s := by
  refine unversioned_loud request ?_ []
  split
  · exact .scalar _ _
  · exact .append _ (.scalar _ _)

theorem bgwriter_loud :
    Concludes S (SilentIff False) ((bgwriterPlan request).dialogue request) s := by
  unfold bgwriterPlan
  dsimp only
  split
  · exact unversioned_loud request (.scalar _ _) []
  · split <;> exact unversioned_loud request (.scalar _ _) []

theorem timeRatio_loud :
    Concludes S (SilentIff False) ((timeRatioPlan request).dialogue request) s := by
  unfold timeRatioPlan
  dsimp only
  split
  · exact unversioned_loud request (.reject _ _) []
  · exact unversioned_loud request (.scalar _ _) []

theorem statDatabase_loud :
    Concludes S (SilentIff False) ((statDatabasePlan request).dialogue request) s := by
  unfold statDatabasePlan
  dsimp only
  split
  · split
    · exact unversioned_loud request (.reject _ _) []
    · exact unversioned_loud request (.append _ (.scalar _ _)) []
  · split <;> exact unversioned_loud request (.append _ (.scalar _ _)) []

theorem statAllTables_loud :
    Concludes S (SilentIff False) ((statAllTablesPlan request).dialogue request) s := by
  unfold statAllTablesPlan
  dsimp only
  split
  · split
    · exact unversioned_loud request (.reject _ _) []
    · exact unversioned_loud request (.append _ (.scalar _ _)) []
  · exact unversioned_loud request (.append _ (.scalar _ _)) []

theorem queryType_unversioned (type query : CStr) : Unversioned (queryTypeSteps type query) := by
  unfold queryTypeSteps
  split
  · exact .scalar _ _
  · split
    · exact .scalar _ _
    · split
      · exact .scalar _ _
      · split
        · exact .discovery _
        · exact .reject _ _

theorem appendAll_unversioned (params : List (Option CStr)) {next : Steps}
    (h : Unversioned next) : Unversioned (appendAll params next) := by
  induction params with
  | nil => exact h
  | cons param params ih => exact .append param ih

theorem query_unversioned (queries : NamedQueries.Table) :
    Unversioned (querySteps queries request) := by
  unfold querySteps
  split
  · exact .reject _ _
  · exact .reject _ _
  · split
    · exact .fault _
    · exact appendAll_unversioned _ (queryType_unversioned _ _)

theorem query_loud (queries : NamedQueries.Table) :
    Concludes S (SilentIff False) ((querySteps queries request).dialogue request []) s :=
  unversioned_loud request (query_unversioned queries) []

theorem version_silent {next : ℤ → Steps} {C : Prop} (params : List CStr)
    (h : versionRead S s request = some 0 ↔ C)
    (loud : ∀ v s', Concludes S (SilentIff False) ((next v).dialogue request params) s') :
    Concludes S (SilentIff C) ((Steps.version next).dialogue request params) s := by
  refine concludes_version ?_ ?_ ?_
  · intro unread m
    rw [SilentIff, ← h, unread]
    simp
  · intro zero
    rw [SilentIff, ← h, zero]
    simp
  · intro v hv nonzero o result
    rw [SilentIff, ← h, hv]
    have not_silent := loud v _ o result
    rw [SilentIff, iff_false] at not_silent
    simp [nonzero, not_silent]

theorem activity_silent {inet_pton : AddressFamily → CStr → Bool} {next : CStr → Steps} {C : Prop}
    (rejected : WaitingRejected request → ¬ C)
    (built : ∀ text, ¬ WaitingRejected request →
      Concludes S (SilentIff C) ((next text).dialogue request (filterParams request)) s) :
    Concludes S (SilentIff C) ((activitySteps inet_pton request next).dialogue request []) s := by
  refine concludes_activity ?_ ?_
  · intro hr m
    have false_iff : C = False := by simpa using rejected ((activityText_none_iff _ _).mp hr)
    rw [false_iff]
    exact silentIff_error _ _
  · intro text ht
    refine built text ?_
    rw [← activityText_none_iff inet_pton, ht]
    simp

theorem setting_silent :
    Concludes S (SilentIff (Named request ∧ SettingMissing S request s))
      ((settingPlan request).dialogue request) s := by
  unfold settingPlan
  dsimp only
  split
  · rename_i missing
    apply concludes_done
    simp [SilentIff, Named, missing]
  · rename_i named
    have given : Named request := by simpa [Named] using named
    refine concludes_ask Prod.mk.eta.symm ?_
    rw [and_iff_right given |> propext, SettingMissing]
    generalize session S s (.query (requestConnstring request) PGSQL_GET_SETTING
      (bound (get_rparam request PARAM_FIRST))) = x
    obtain ⟨reply, s'⟩ := x
    cases reply with
    | refused m => exact concludes_done (by simp [SilentIff])
    | noResult => exact concludes_done (by simp [SilentIff])
    | failed m => exact concludes_done (by simp [SilentIff])
    | answered tuples =>
      rcases hrows : tuples.rows with _ | ⟨_ | ⟨value, _ | ⟨type, row⟩⟩, rows⟩
      · simp only [settingEnd, hrows]
        exact concludes_done (by simp [SilentIff, hrows])
      · simp only [settingEnd, hrows]
        exact concludes_fault _
      · simp only [settingEnd, hrows]
        exact concludes_fault _
      · simp only [settingEnd, hrows]
        exact concludes_done (by simp [SilentIff, hrows])

theorem backendsCount_silent (g : Globals) :
    Concludes S (SilentIff (versionRead S s request = some 0))
      ((Plan.steps (backendsCountSteps g request)).dialogue request) s := by
  refine version_silent [] Iff.rfl ?_
  intro v s'
  exact activity_silent (fun _ h => h) fun _ _ => unversioned_loud request (.scalar _ _) _

theorem queriesLongest_silent (g : Globals) :
    Concludes S (SilentIff (¬ WaitingRejected request ∧ versionRead S s request = some 0))
      ((Plan.steps (queriesLongestSteps g request)).dialogue request) s := by
  refine activity_silent (fun rejected h => h.1 rejected) ?_
  intro text accepted
  exact version_silent _ (by simp [accepted]) fun _ _ => unversioned_loud request (.scalar _ _) _

end Outcomes

section Handlers
variable {S : Server} {g : Globals} {request : AGENT_REQUEST} {f : Handler} {server : S.State}
  {ret : Ret} {w : World S}

theorem plan_silent :
    Concludes S (SilentIff (FailsSilently S request server f))
      ((plan g request f).dialogue request) server := by
  cases f with
  | PG_SETTING => exact setting_silent
  | PG_BACKENDS_COUNT => exact backendsCount_silent g
  | PG_QUERIES_LONGEST => exact queriesLongest_silent g
  | PG_BACKENDS_RATIO =>
    exact version_silent [] Iff.rfl fun _ _ => unversioned_loud request (.scalar _ _) []
  | PG_TABLESPACE_DISCOVERY =>
    exact version_silent [] Iff.rfl fun _ _ => unversioned_loud request (.discovery _) []
  | MODVER => exact concludes_done (silentIff_value _ _)
  | PG_CONNECT => exact concludes_all ping_loud
  | PG_STAT_ALL_INDEXES => exact concludes_all (indexStat_loud _ _)
  | PG_QUERY => exact query_loud g.queries
  | PG_STAT_BGWRITER => exact bgwriter_loud
  | PG_BG_TIME_RATIO => exact timeRatio_loud
  | PG_NAMESPACE_DISCOVERY | PG_TABLE_DISCOVERY => exact mode_loud _
  | PG_INDEX_DISCOVERY =>
    simp only [plan, indexDiscoveryPlan]
    split
    · exact concludes_fault _
    · exact mode_loud _
  | PG_SETTING_DISCOVERY | PG_DB_DISCOVERY => exact unversioned_loud request (.discovery _) []
  | PG_VERSION | PG_STARTTIME | PG_UPTIME | PG_PREPARED_XACTS_RATIO | PG_BACKENDS_FREE
  | PG_BG_AVG_INTERVAL | PG_BG_STATS_RESET_INTERVAL =>
    exact unversioned_loud request (.scalar _ _) []
  | PG_PREPARED_XACTS_COUNT | PG_PREPARED_XACTS_AGE | PG_INDEX_SIZE
  | PG_DB_BLKS_RATIO | PG_TABLE_IDX_SCAN_RATIO | PG_TABLE_HEAP_BLKS_RATIO
  | PG_TABLE_IDX_BLKS_RATIO | PG_TABLE_TOAST_BLKS_RATIO | PG_TABLE_TIDX_BLKS_RATIO
  | PG_INDEX_IDX_BLKS_RATIO => exact optionalName_loud _ _ _
  | PG_TABLE_CHILDREN_DISCOVERY => exact requireName_loud fun _ => .append _ (.discovery _)
  | PG_TABLE_CHILDREN | PG_TABLE_CHILDREN_SIZE | PG_TABLE_CHILDREN_ROWS
  | PG_TABLESPACE_SIZE | PG_NAMESPACE_SIZE =>
    exact requireName_loud fun _ => .append _ (.scalar _ _)
  | PG_DB_SIZE | PG_DB_XID_AGE | PG_TABLE_SIZE | PG_TABLE_ROWS | PG_INDEX_ROWS
  | PG_STATIO_ALL_TABLES | PG_STATIO_ALL_INDEXES =>
    exact unversioned_loud request (.append _ (.scalar _ _)) []
  | PG_STAT_DATABASE => exact statDatabase_loud
  | PG_STAT_ALL_TABLES => exact statAllTables_loud

/-- Every handler keeps the discipline, except where it fails without a message. -/
theorem result_disciplined_iff
    (run : call g request f (World.start server) = .ok ret w) :
    Disciplined ret w.result ↔ ¬ FailsSilently S request server f := by
  obtain ⟨o, v, result, -, hret, hres, -⟩ := call_returned run
  rw [hret, hres, report_disciplined_iff]
  exact not_congr (plan_silent o result)

end Handlers

def noRows : List (ConnectReply × ExecReply) :=
  [(.CONNECTION_OK, .PGRES_TUPLES_OK ⟨["setting".toList, "vartype".toList], [], by decide⟩)]

def settingRequest : AGENT_REQUEST := ⟨"pg.setting".toList, [[], [], "no_such".toList]⟩

def settingDone : World scripted :=
  lastState (call defaults settingRequest .PG_SETTING (World.start (S := scripted) noRows))

theorem result_disciplined_iff_noRows :
    Disciplined .SYSINFO_RET_FAIL settingDone.result ↔
      ¬ FailsSilently scripted settingRequest noRows .PG_SETTING :=
  result_disciplined_iff (S := scripted) (g := defaults) rfl

/-- A setting that does not exist fails without a message. -/
theorem missing_setting_fails_silently :
    call defaults settingRequest .PG_SETTING (World.start (S := scripted) noRows) =
        .ok .SYSINFO_RET_FAIL settingDone ∧
      ¬ Disciplined .SYSINFO_RET_FAIL settingDone.result := by
  refine ⟨rfl, ?_⟩
  rintro ⟨message, -⟩
  exact message rfl

end LibZbxPgsql.ResultDiscipline
