import LibZbxPgsql.QueryBinding

set_option autoImplicit false

namespace LibZbxPgsql.ArrayOwnership
open StateFaultWp HandleLedger CStrings PrintfFormat AgentModel Connections Drivers Discovery
open NamedQueries ItemKeys Dialogues WorldView Sessions DialogueRefinement DriverDialogues
open HandlerPlans KeyPlans HandleDiscipline ActivityClauses Conclusions QueryBinding

section Conditions
variable (S : Server) (request : AGENT_REQUEST) (s : S.State)

def Named : Prop := strisnull (get_rparam request PARAM_FIRST) = false

def VersionKnown : Prop := ∃ v, versionRead S s request = some v ∧ v ≠ 0

/-- The handlers that build an array and stop before a command takes it over. -/
def KeepsArray : Handler → Prop
  | .PG_BACKENDS_COUNT => FilterGiven request ∧ VersionKnown S request s ∧
      (WaitingRejected request ∨ Refused S (afterVersionQuery S s request) request)
  | .PG_QUERIES_LONGEST => FilterGiven request ∧
      (WaitingRejected request ∨ ¬ VersionKnown S request s ∨
        Refused S (afterVersionQuery S s request) request)
  | .PG_QUERY => Named request ∧ (∃ p ∈ request.params.drop 3, p ≠ []) ∧ Refused S s request
  | .PG_PREPARED_XACTS_COUNT | .PG_PREPARED_XACTS_AGE | .PG_TABLE_CHILDREN_DISCOVERY
  | .PG_DB_SIZE | .PG_TABLE_SIZE | .PG_TABLE_ROWS | .PG_TABLE_CHILDREN
  | .PG_TABLE_CHILDREN_SIZE | .PG_TABLE_CHILDREN_ROWS | .PG_INDEX_SIZE | .PG_INDEX_ROWS
  | .PG_TABLESPACE_SIZE | .PG_NAMESPACE_SIZE | .PG_STAT_DATABASE | Handler.PG_DB_BLKS_RATIO
  | .PG_DB_XID_AGE | .PG_STAT_ALL_TABLES | Handler.PG_TABLE_IDX_SCAN_RATIO | .PG_STATIO_ALL_TABLES
  | Handler.PG_TABLE_HEAP_BLKS_RATIO | Handler.PG_TABLE_IDX_BLKS_RATIO
  | Handler.PG_TABLE_TOAST_BLKS_RATIO | Handler.PG_TABLE_TIDX_BLKS_RATIO
  | .PG_STATIO_ALL_INDEXES | Handler.PG_INDEX_IDX_BLKS_RATIO =>
    Named request ∧ Refused S s request
  | _ => False

end Conditions

/-- The outcome leaves an array live exactly where `C` holds. -/
def KeepsIff (C : Prop) (o : Outcome) : Prop := .params ∈ o.leaked ↔ C

theorem held_iff (params : List CStr) : Kind.params ∈ held params ↔ params ≠ [] := by
  cases params <;> simp [held]

section Drivers
variable {S : Server} {s : S.State} {request : AGENT_REQUEST} {query : CStr}
  {params : List CStr} {C : Prop}

theorem result_keeps (type : ResultType) (h : params ≠ [] ∧ Refused S s request ↔ C) :
    Concludes S (KeepsIff C) (resultAsk request type query params) s := by
  refine concludes_result ?_ ?_ ?_
  · intro refused m
    rw [KeepsIff, held_iff, ← h]
    simp [refused]
  · intro reached m
    rw [KeepsIff, ← h]
    simp [reached]
  · intro reached text
    rw [KeepsIff, ← h]
    simp [reached]

theorem discovery_keeps (h : params ≠ [] ∧ Refused S s request ↔ C) :
    Concludes S (KeepsIff C) (discoveryAsk request query params) s := by
  refine concludes_discovery ?_ ?_ ?_
  · intro refused m
    rw [KeepsIff, held_iff, ← h]
    simp [refused]
  · intro reached m
    rw [KeepsIff, ← h]
    simp [reached]
  · intro reached x
    rw [KeepsIff, ← h]
    simp [reached]

theorem driver_keeps {steps : Steps} (driver : QueryDriver steps query)
    (h : params ≠ [] ∧ Refused S s request ↔ C) :
    Concludes S (KeepsIff C) (steps.dialogue request params) s := by
  cases driver with
  | scalar type query => exact result_keeps type h
  | discovery query => exact discovery_keeps h

theorem reject_keeps (request : AGENT_REQUEST) (format : CStr) (args : List Arg)
    (h : params ≠ [] ↔ C) :
    Concludes S (KeepsIff C) ((Steps.reject format args).dialogue request params) s := by
  apply concludes_done
  rw [KeepsIff, held_iff]
  exact h

theorem keeps_none {o : Outcome} (h : .params ∉ o.leaked) : KeepsIff False o := by
  rw [KeepsIff, iff_false]
  exact h

theorem plain_keeps (type : ResultType) :
    Concludes S (KeepsIff False) (resultAsk request type query []) s :=
  result_keeps type (by simp)

theorem plainDiscovery_keeps :
    Concludes S (KeepsIff False) (discoveryAsk request query []) s :=
  discovery_keeps (by simp)

theorem bound_ne_nil_iff (param : Option CStr) : bound param ≠ [] ↔ strisnull param = false := by
  rw [ne_eq, bound_eq_nil_iff, Bool.not_eq_true]

theorem named_keeps (type : ResultType) :
    Concludes S (KeepsIff (Named request ∧ Refused S s request))
      (resultAsk request type query (bound (get_rparam request PARAM_FIRST))) s :=
  result_keeps type (by rw [bound_ne_nil_iff, Named])

theorem unnamed_keeps (type : ResultType) (h : strisnull (get_rparam request PARAM_FIRST) = true) :
    Concludes S (KeepsIff (Named request ∧ Refused S s request))
      (resultAsk request type query []) s :=
  result_keeps type (by simp [Named, h])

end Drivers

section Families
variable {S : Server} {s : S.State} {request : AGENT_REQUEST}

theorem mode_keeps (query : CStr) :
    Concludes S (KeepsIff False) ((modePlan request query).dialogue request) s := by
  unfold modePlan
  dsimp only
  split
  · intro o result
    exact keeps_none (concludes_all (discoveryWide_noConnNorParams request query) o result).2
  · split
    · exact plainDiscovery_keeps
    · exact reject_keeps request _ _ (by simp)

theorem requireName_keeps {message : CStr} {found : Option CStr → Steps}
    (driver : ∀ name, ∃ next query, found name = .append name next ∧ QueryDriver next query) :
    Concludes S (KeepsIff (Named request ∧ Refused S s request))
      ((requireNamePlan request message found).dialogue request) s := by
  unfold requireNamePlan
  dsimp only
  split
  · rename_i missing
    exact reject_keeps request _ _ (by simp [Named, missing])
  · obtain ⟨next, query, hf, hd⟩ := driver (get_rparam request PARAM_FIRST)
    rw [hf]
    change Concludes S _ (next.dialogue request ([] ++ bound _)) s
    exact driver_keeps hd (by rw [List.nil_append, bound_ne_nil_iff, Named])

theorem boundScalar_keeps (message query : CStr) :
    Concludes S (KeepsIff (Named request ∧ Refused S s request))
      ((requireNamePlan request message (boundScalar .AR_UINT64 query)).dialogue request) s :=
  requireName_keeps fun _ => ⟨_, query, rfl, .scalar _ _⟩

theorem boundDiscovery_keeps (message query : CStr) :
    Concludes S (KeepsIff (Named request ∧ Refused S s request))
      ((requireNamePlan request message (boundDiscovery query)).dialogue request) s :=
  requireName_keeps fun _ => ⟨_, query, rfl, .discovery _⟩

theorem bound_ifNamed :
    bound (if strisnull (get_rparam request PARAM_FIRST) then none
        else get_rparam request PARAM_FIRST) = bound (get_rparam request PARAM_FIRST) := by
  split
  · rename_i missing
    rw [(bound_eq_nil_iff _).mpr missing]
    rfl
  · rfl

theorem databaseInt_keeps (all one : CStr) :
    Concludes S (KeepsIff (Named request ∧ Refused S s request))
      ((databaseIntPlan request all one).dialogue request) s := by
  change Concludes S _ (resultAsk request _ _ ([] ++ bound _)) s
  rw [bound_ifNamed]
  exact named_keeps _

theorem optionalName_keeps (type : ResultType) (all one : CStr) :
    Concludes S (KeepsIff (Named request ∧ Refused S s request))
      ((optionalNamePlan request type all one).dialogue request) s := by
  unfold optionalNamePlan
  dsimp only
  split
  · rename_i missing
    exact unnamed_keeps type missing
  · exact named_keeps type

theorem statDatabase_keeps :
    Concludes S (KeepsIff (Named request ∧ Refused S s request))
      ((statDatabasePlan request).dialogue request) s := by
  have one : ∀ type query, Concludes S (KeepsIff (Named request ∧ Refused S s request))
      (resultAsk request type query ([] ++ bound (if strisnull (get_rparam request PARAM_FIRST)
        then none else get_rparam request PARAM_FIRST))) s := by
    intro type query
    rw [bound_ifNamed]
    exact named_keeps type
  unfold statDatabasePlan
  dsimp only
  split
  · split
    · rename_i missing
      exact reject_keeps request _ _ (by simp [Named, missing])
    · exact named_keeps _
  · split
    · exact one _ _
    · exact one _ _

theorem statAllTables_keeps :
    Concludes S (KeepsIff (Named request ∧ Refused S s request))
      ((statAllTablesPlan request).dialogue request) s := by
  unfold statAllTablesPlan
  dsimp only
  split
  · split
    · rename_i missing
      exact reject_keeps request _ _ (by simp [Named, missing])
    · exact named_keeps _
  · exact named_keeps _

theorem setting_keeps :
    Concludes S (KeepsIff False) ((settingPlan request).dialogue request) s := by
  unfold settingPlan
  dsimp only
  split
  · exact reject_keeps request _ _ (by simp)
  · intro o result
    have clean := concludes_all (settingAsk_clean request _) o result
    exact keeps_none (by simp [clean])

theorem bgwriter_keeps :
    Concludes S (KeepsIff False) ((bgwriterPlan request).dialogue request) s := by
  unfold bgwriterPlan
  dsimp only
  split
  · exact plain_keeps _
  · split <;> exact plain_keeps _

theorem timeRatio_keeps :
    Concludes S (KeepsIff False) ((timeRatioPlan request).dialogue request) s := by
  unfold timeRatioPlan
  dsimp only
  split
  · exact reject_keeps request _ _ (by simp)
  · exact plain_keeps _

theorem version_keeps {next : ℤ → Steps}
    (h : ∀ v s', Concludes S (KeepsIff False) ((next v).dialogue request []) s') :
    Concludes S (KeepsIff False) ((Plan.steps (.version next)).dialogue request) s :=
  concludes_version (fun _ _ => keeps_none (by simp [held])) (fun _ => keeps_none (by simp [held]))
    fun v _ _ => h v _

end Families

section Built
variable {S : Server} {s : S.State} {request : AGENT_REQUEST} (g : Globals)

theorem versionKnown_none (h : versionRead S s request = none) : ¬ VersionKnown S request s := by
  rintro ⟨v, hv, -⟩
  rw [h] at hv
  cases hv

theorem versionKnown_zero (h : versionRead S s request = some 0) :
    ¬ VersionKnown S request s := by
  rintro ⟨v, hv, hz⟩
  rw [h] at hv
  cases hv
  exact hz rfl

theorem backendsCount_keeps :
    Concludes S (KeepsIff (KeepsArray S request s .PG_BACKENDS_COUNT))
      ((Plan.steps (backendsCountSteps g request)).dialogue request) s := by
  refine concludes_version ?_ ?_ ?_
  · intro unread m
    have unknown := versionKnown_none unread
    simp [KeepsIff, KeepsArray, held, unknown]
  · intro zero
    have unknown := versionKnown_zero zero
    simp [KeepsIff, KeepsArray, held, unknown]
  · intro v hv nonzero
    have known : VersionKnown S request s := ⟨v, hv, nonzero⟩
    refine concludes_activity ?_ ?_
    · intro rejected m
      rw [activityText_none_iff] at rejected
      rw [KeepsIff, held_iff, List.nil_append, filterParams_iff, KeepsArray]
      simp [known, rejected]
    · intro text built
      have accepted : ¬ WaitingRejected request := by
        rw [← activityText_none_iff g.inet_pton, built]
        simp
      refine result_keeps _ ?_
      rw [List.nil_append, filterParams_iff, KeepsArray]
      simp [known, accepted]

theorem queriesLongest_keeps :
    Concludes S (KeepsIff (KeepsArray S request s .PG_QUERIES_LONGEST))
      ((Plan.steps (queriesLongestSteps g request)).dialogue request) s := by
  refine concludes_activity ?_ ?_
  · intro rejected m
    rw [activityText_none_iff] at rejected
    rw [KeepsIff, held_iff, List.nil_append, filterParams_iff, KeepsArray]
    simp [rejected]
  · intro text built
    have accepted : ¬ WaitingRejected request := by
      rw [← activityText_none_iff g.inet_pton, built]
      simp
    rw [List.nil_append]
    refine concludes_version ?_ ?_ ?_
    · intro unread m
      have unknown := versionKnown_none unread
      rw [KeepsIff, held_iff, filterParams_iff, KeepsArray]
      simp [unknown]
    · intro zero
      have unknown := versionKnown_zero zero
      rw [KeepsIff, held_iff, filterParams_iff, KeepsArray]
      simp [unknown]
    · intro v hv nonzero
      have known : VersionKnown S request s := ⟨v, hv, nonzero⟩
      refine result_keeps _ ?_
      rw [filterParams_iff, KeepsArray]
      simp [known, accepted]

theorem query_keeps {metric : ZBX_METRIC} (listed : metric ∈ keys)
    (hf : metric.function = .PG_QUERY) (asked : request.key = metric.key) :
    Concludes S (KeepsIff (KeepsArray S request s .PG_QUERY))
      ((Plan.steps (querySteps g.queries request)).dialogue request) s := by
  change Concludes S _ ((querySteps g.queries request).dialogue request []) s
  unfold querySteps
  split
  · rename_i missing
    exact reject_keeps request _ _ (by simp [KeepsArray, Named, missing])
  · rename_i missing
    exact reject_keeps request _ _ (by simp [KeepsArray, Named, missing])
  · rename_i c key given
    split
    · exact concludes_fault _
    · rw [userQuery_dialogue, asked]
      refine driver_keeps (queryType_driver listed hf _) ?_
      simp [KeepsArray, Named, given, givenParams]

end Built

section Handlers
variable {S : Server} {g : Globals} {request : AGENT_REQUEST} {metric : ZBX_METRIC}
  {server : S.State} {ret : Ret} {w : World S}

theorem plan_keeps (listed : metric ∈ keys) (asked : request.key = metric.key) :
    Concludes S (KeepsIff (KeepsArray S request server metric.function))
      ((plan g request metric.function).dialogue request) server := by
  cases hf : metric.function with
  | MODVER => exact concludes_done (keeps_none (by simp))
  | PG_CONNECT =>
    intro o result
    have clean := concludes_all (pingAsk_clean request) o result
    exact keeps_none (by simp [clean])
  | PG_STAT_ALL_INDEXES =>
    intro o result
    have clean := concludes_all (indexStatAsk_clean request _ _) o result
    exact keeps_none (by simp [clean])
  | PG_BACKENDS_COUNT => exact backendsCount_keeps g
  | PG_QUERIES_LONGEST => exact queriesLongest_keeps g
  | PG_QUERY => exact query_keeps g listed hf asked
  | PG_SETTING => exact setting_keeps
  | PG_STAT_BGWRITER => exact bgwriter_keeps
  | PG_BG_TIME_RATIO => exact timeRatio_keeps
  | PG_BACKENDS_RATIO => exact version_keeps fun _ _ => plain_keeps _
  | PG_TABLESPACE_DISCOVERY => exact version_keeps fun _ _ => plainDiscovery_keeps
  | PG_NAMESPACE_DISCOVERY | PG_TABLE_DISCOVERY => exact mode_keeps _
  | PG_INDEX_DISCOVERY =>
    simp only [plan, indexDiscoveryPlan]
    split
    · exact concludes_fault _
    · exact mode_keeps _
  | PG_SETTING_DISCOVERY | PG_DB_DISCOVERY => exact plainDiscovery_keeps
  | PG_VERSION | PG_STARTTIME | PG_UPTIME | PG_PREPARED_XACTS_RATIO | PG_BACKENDS_FREE
  | PG_BG_AVG_INTERVAL | PG_BG_STATS_RESET_INTERVAL => exact plain_keeps _
  | PG_PREPARED_XACTS_COUNT | PG_PREPARED_XACTS_AGE | PG_INDEX_SIZE
  | PG_DB_BLKS_RATIO | PG_TABLE_IDX_SCAN_RATIO | PG_TABLE_HEAP_BLKS_RATIO
  | PG_TABLE_IDX_BLKS_RATIO | PG_TABLE_TOAST_BLKS_RATIO | PG_TABLE_TIDX_BLKS_RATIO
  | PG_INDEX_IDX_BLKS_RATIO => exact optionalName_keeps _ _ _
  | PG_TABLE_CHILDREN_DISCOVERY => exact boundDiscovery_keeps _ _
  | PG_TABLE_CHILDREN | PG_TABLE_CHILDREN_SIZE | PG_TABLE_CHILDREN_ROWS
  | PG_TABLESPACE_SIZE | PG_NAMESPACE_SIZE => exact boundScalar_keeps _ _
  | PG_DB_SIZE | PG_DB_XID_AGE => exact databaseInt_keeps _ _
  | PG_TABLE_SIZE | PG_TABLE_ROWS | PG_INDEX_ROWS | PG_STATIO_ALL_TABLES
  | PG_STATIO_ALL_INDEXES => exact named_keeps _
  | PG_STAT_DATABASE => exact statDatabase_keeps
  | PG_STAT_ALL_TABLES => exact statAllTables_keeps

/-- Every array is released exactly once and not read afterwards, except where the
    handler stops before a command takes it over. -/
theorem arrays_released_iff (listed : metric ∈ keys) (asked : request.key = metric.key)
    (run : call g request metric.function (World.start server) = .ok ret w) :
    (ReleasedOnce Handle.isParams (acts w.trace) ∧
        UntouchedAfterRelease Handle.isParams (acts w.trace)) ↔
      ¬ KeepsArray S request server metric.function := by
  obtain ⟨o, v, result, shows, -, -, kinds⟩ := call_returned run
  have keeps : KeepsIff (KeepsArray S request server metric.function) o :=
    plan_keeps listed asked o result
  rw [and_iff_left (shows_untouchedAfterRelease shows _), isParams_ofKind,
    releasedOnce_ofKind .params shows kinds]
  exact not_congr keeps

end Handlers

def refusing : List (ConnectReply × ExecReply) :=
  [(.CONNECTION_BAD "could not connect to server".toList, .outOfMemory)]

def sizeRequest : AGENT_REQUEST := ⟨"pg.db.size".toList, [[], [], "postgres".toList]⟩

def sizeEnd (server : List (ConnectReply × ExecReply)) : World scripted :=
  lastState (call defaults sizeRequest .PG_DB_SIZE (World.start server))

theorem arrays_released_iff_refusing :
    (ReleasedOnce Handle.isParams (acts (sizeEnd refusing).trace) ∧
        UntouchedAfterRelease Handle.isParams (acts (sizeEnd refusing).trace)) ↔
      ¬ KeepsArray scripted sizeRequest refusing .PG_DB_SIZE := by
  have listed : ⟨"pg.db.size".toList, .PG_DB_SIZE⟩ ∈ keys := List.mem_of_getElem? (i := 39) rfl
  have run : call (S := scripted) defaults sizeRequest .PG_DB_SIZE (World.start refusing) =
      .ok .SYSINFO_RET_FAIL (sizeEnd refusing) := rfl
  exact arrays_released_iff listed rfl run

/-- The array built for the name of the database is not released when the connection fails. -/
theorem array_kept_when_refused :
    ¬ (ReleasedOnce Handle.isParams (acts (sizeEnd refusing).trace) ∧
      UntouchedAfterRelease Handle.isParams (acts (sizeEnd refusing).trace)) := by
  rintro ⟨once, -⟩
  have built : Act.acquire (.params 0) ∈ acts (sizeEnd refusing).trace := by decide
  have released := once (.params 0) rfl built
  revert released
  decide

end LibZbxPgsql.ArrayOwnership
