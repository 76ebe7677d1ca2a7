import LibZbxPgsql.QueryBinding

set_option autoImplicit false

namespace LibZbxPgsql.AbsentParameters
open StateFaultWp CStrings AgentModel Connections Drivers JsonBuilder Discovery
open ServerKeys QueryKeys IndexKeys ItemKeys NamedQueries Sessions HandlerPlans KeyPlans
open QueryBinding HandleDiscipline

def given : Option CStr → Option CStr
  | none => none
  | some [] => none
  | some (c :: s) => some (c :: s)

/-- The requests agree on the key and on every parameter, empty ones being none. -/
structure SameParameters (request request' : AGENT_REQUEST) : Prop where
  key : request.key = request'.key
  params : ∀ i, given (get_rparam request i) = given (get_rparam request' i)

theorem given_eq_none_iff (p : Option CStr) : given p = none ↔ strisnull p = true := by
  rcases p with _ | _ | ⟨c, s⟩ <;> simp [given]

theorem given_of_some {p : Option CStr} {s : CStr} (h : given p = some s) : p = some s := by
  rcases p with _ | _ | ⟨c, s'⟩ <;> simp_all [given]

/-- Either both are absent or they are the same text. -/
theorem given_cases {p p' : Option CStr} (h : given p = given p') :
    strisnull p = true ∧ strisnull p' = true ∨ p = p' := by
  cases hp : given p with
  | none => exact .inl ⟨(given_eq_none_iff p).mp hp, (given_eq_none_iff p').mp (h ▸ hp)⟩
  | some s => exact .inr ((given_of_some hp).trans (given_of_some (h ▸ hp)).symm)

def trim : Steps → Steps
  | .reject format args => .reject format args
  | .fault e => .fault e
  | .append none next => trim next
  | .append (some []) next => trim next
  | .append (some (c :: s)) next => .append (some (c :: s)) (trim next)
  | .version next => .version fun version => trim (next version)
  | .scalar type query => .scalar type query
  | .discovery query => .discovery query

def trimPlan : Plan → Plan
  | .steps steps => .steps (trim steps)
  | .report value => .report value
  | .ping => .ping
  | .wide query => .wide query
  | .setting name => .setting (given name)
  | .indexStat query index => .indexStat query (given index)

section Trim
variable {S : Server} (request : AGENT_REQUEST)

theorem trim_run (steps : Steps) (params : PGparams) :
    ((trim steps).run request params : Agent S Ret) = steps.run request params := by
  induction steps generalizing params with
  | append param next ih =>
    rcases param with _ | _ | ⟨c, s⟩
    · exact ih params
    · exact ih params
    · simp only [trim, Steps.run, ih]
  | version next ih => simp only [trim, Steps.run, ih]
  | reject format args => rfl
  | fault e => rfl
  | scalar type query => rfl
  | discovery query => rfl

theorem param_new_given (name : Option CStr) :
    (param_new (given name) : Agent S PGparams) = param_new name := by
  rcases name with _ | _ | ⟨c, s⟩ <;> rfl

theorem trimPlan_run (plan : Plan) :
    ((trimPlan plan).run request : Agent S Ret) = plan.run request := by
  cases plan with
  | steps steps => exact trim_run request steps none
  | setting name => simp only [trimPlan, Plan.run, readSetting, param_new_given]
  | indexStat query index => simp only [trimPlan, Plan.run, readIndexStat, param_new_given]
  | report value => rfl
  | ping => rfl
  | wide query => rfl

theorem trim_append_absent {name : Option CStr} (h : strisnull name = true) (next : Steps) :
    trim (.append name next) = trim next := by
  rcases name with _ | _ | ⟨c, s⟩
  · rfl
  · rfl
  · cases h

end Trim

section Requests
variable {S : Server} {request request' : AGENT_REQUEST}

theorem build_connstring_same {p p' d d' : Option CStr} (hp : given p = given p')
    (hd : given d = given d') : build_connstring p d = build_connstring p' d' := by
  rcases given_cases hp with ⟨a, a'⟩ | rfl <;> rcases given_cases hd with ⟨b, b'⟩ | rfl <;>
    simp [build_connstring, *]

theorem wideLoop_same {p p' : Option CStr} (hp : given p = given p') (query : CStr)
    (params : PGparams) (dbs : List CStr) (j : zbx_json) :
    (wideLoop p query params dbs j : Agent S _) = wideLoop p' query params dbs j := by
  induction dbs generalizing j with
  | nil => rfl
  | cons db dbs ih => simp only [wideLoop, build_connstring_same hp rfl, ih]

theorem requestConnstring_same (h : SameParameters request request') :
    requestConnstring request = requestConnstring request' :=
  build_connstring_same (h.params _) (h.params _)

theorem connect_same (h : SameParameters request request') (r : ResultArg) :
    (pg_connect_request request r : Agent S _) = pg_connect_request request' r := by
  rw [pg_connect_request, pg_connect_request, requestConnstring_same h]

theorem scalar_same (h : SameParameters request request') (query : CStr) (params : PGparams)
    (n : ℕ) :
    (pg_scalar request query params n : Agent S _) = pg_scalar request' query params n := by
  rw [pg_scalar, pg_scalar, connect_same h]

theorem steps_same (h : SameParameters request request') (steps : Steps) (params : PGparams) :
    (steps.run request params : Agent S Ret) = steps.run request' params := by
  induction steps generalizing params with
  | append param next ih => simp only [Steps.run, ih]
  | version next ih => simp only [Steps.run, ih, pg_version, scalar_same h]
  | reject format args => rfl
  | fault e => rfl
  | scalar type query => simp only [Steps.run, pg_get_result, scalar_same h]
  | discovery query => simp only [Steps.run, pg_get_discovery, connect_same h]

theorem run_same (h : SameParameters request request') (plan : Plan) :
    (plan.run request : Agent S Ret) = plan.run request' := by
  cases plan with
  | steps steps => exact steps_same h steps none
  | report value => rfl
  | ping => simp only [Plan.run, PG_CONNECT, connect_same h]
  | wide query =>
    have loop := fun query params dbs j =>
      wideLoop_same (S := S) (h.params PARAM_CONN_STRING) query params dbs j
    simp only [Plan.run, pg_get_discovery_wide, pg_get_databases, connect_same h, loop]
  | setting name => simp only [Plan.run, readSetting, connect_same h]
  | indexStat query index => simp only [Plan.run, readIndexStat, connect_same h]

end Requests

section Plans
variable {g : Globals} {request request' : AGENT_REQUEST} {queries : Table}
  (h : SameParameters request request')
include h

theorem first_cases :
    strisnull (get_rparam request PARAM_FIRST) = true ∧
        strisnull (get_rparam request' PARAM_FIRST) = true ∨
      get_rparam request PARAM_FIRST = get_rparam request' PARAM_FIRST :=
  given_cases (h.params PARAM_FIRST)

theorem mode_same (query : CStr) : modePlan request query = modePlan request' query := by
  rcases first_cases h with ⟨a, a'⟩ | e
  · simp [modePlan, a, a']
  · rw [modePlan, modePlan, e]

theorem requireName_same {message : CStr} (found : Option CStr → Steps) :
    requireNamePlan request message found = requireNamePlan request' message found := by
  rcases first_cases h with ⟨a, a'⟩ | e
  · simp [requireNamePlan, a, a']
  · rw [requireNamePlan, requireNamePlan, e]

theorem intByName_same (all one : CStr) :
    trimPlan (intByNamePlan request all one) = trimPlan (intByNamePlan request' all one) := by
  rcases first_cases h with ⟨a, a'⟩ | e
  · simp [intByNamePlan, trimPlan, trim_append_absent, a, a']
  · rw [intByNamePlan, intByNamePlan, e]

theorem databaseInt_same (all one : CStr) :
    databaseIntPlan request all one = databaseIntPlan request' all one := by
  rcases first_cases h with ⟨a, a'⟩ | e
  · simp [databaseIntPlan, a, a']
  · rw [databaseIntPlan, databaseIntPlan, e]

theorem optionalName_same (type : ResultType) (all one : CStr) :
    optionalNamePlan request type all one = optionalNamePlan request' type all one := by
  rcases first_cases h with ⟨a, a'⟩ | e
  · simp [optionalNamePlan, a, a']
  · rw [optionalNamePlan, optionalNamePlan, e]

theorem timeRatio_same : timeRatioPlan request = timeRatioPlan request' := by
  rcases first_cases h with ⟨a, a'⟩ | e
  · simp [timeRatioPlan, ServerKeys.timeRatioField, a, a']
  · rw [timeRatioPlan, timeRatioPlan, e]

theorem setting_same : settingPlan request = settingPlan request' := by
  rcases first_cases h with ⟨a, a'⟩ | e
  · simp [settingPlan, a, a']
  · rw [settingPlan, settingPlan, e]

theorem statDatabase_same : statDatabasePlan request = statDatabasePlan request' := by
  rcases first_cases h with ⟨a, a'⟩ | e
  · rw [statDatabasePlan, statDatabasePlan]
    simp only [a, a', h.key, if_true]
  · rw [statDatabasePlan, statDatabasePlan, e, h.key]

theorem statAllTables_same :
    trimPlan (statAllTablesPlan request) = trimPlan (statAllTablesPlan request') := by
  rcases first_cases h with ⟨a, a'⟩ | e
  · rw [statAllTablesPlan, statAllTablesPlan]
    simp only [a, a', h.key, boundScalar]
    split
    · rfl
    · simp only [trimPlan, trim_append_absent a, trim_append_absent a']
  · rw [statAllTablesPlan, statAllTablesPlan, e, h.key]

theorem statAllIndexes_same :
    trimPlan (statAllIndexesPlan request) = trimPlan (statAllIndexesPlan request') := by
  rcases first_cases h with ⟨a, a'⟩ | e
  · rw [statAllIndexesPlan, statAllIndexesPlan]
    rw [a, a', h.key, trimPlan, trimPlan, (given_eq_none_iff _).mpr a, (given_eq_none_iff _).mpr a']
  · rw [statAllIndexesPlan, statAllIndexesPlan, e, h.key]

theorem filteredQuery_same (query column : CStr) (i : ℕ) :
    filteredQuery query column (get_rparam request i) =
      filteredQuery query column (get_rparam request' i) := by
  have absent : ∀ {p : Option CStr}, strisnull p = true →
      filteredQuery query column p = some query := by
    intro p hp
    rcases p with _ | _ | ⟨c, s⟩
    · rfl
    · rfl
    · cases hp
  rcases given_cases (h.params i) with ⟨a, a'⟩ | e
  · rw [absent a, absent a']
  · rw [e]

theorem indexDiscovery_same : indexDiscoveryPlan request = indexDiscoveryPlan request' := by
  simp only [indexDiscoveryPlan, indexDiscoveryQuery, filteredQuery_same h, mode_same h]

theorem filterSteps_same (inet_pton : AddressFamily → CStr → Bool) (is : List ℕ)
    (buf clause : CStr) (pgi : ℕ) (next : CStr → Steps) :
    filterSteps inet_pton request is buf clause pgi next =
      filterSteps inet_pton request' is buf clause pgi next := by
  have skipped : ∀ {request : AGENT_REQUEST} {i : ℕ} {is : List ℕ} {buf clause : CStr} {pgi : ℕ},
      strisnull (get_rparam request (PARAM_FIRST + i)) = true →
      filterSteps inet_pton request (i :: is) buf clause pgi next =
        filterSteps inet_pton request is buf clause pgi next := by
    intro request i is buf clause pgi hp
    rw [filterSteps]
    rcases hq : get_rparam request (PARAM_FIRST + i) with _ | _ | ⟨c, s⟩
    · rfl
    · rfl
    · rw [hq] at hp
      cases hp
  induction is generalizing buf clause pgi with
  | nil => rfl
  | cons i is ih =>
    rcases given_cases (h.params (PARAM_FIRST + i)) with ⟨a, a'⟩ | e
    · rw [skipped a, skipped a', ih]
    · simp only [filterSteps, e, ih, h.key]

end Plans

theorem filter_absent {l : List CStr} (h : ∀ i : ℕ, given l[i]? = none) :
    l.filter (· ≠ []) = [] := by
  rw [List.filter_eq_nil_iff]
  intro p hp
  obtain ⟨i, hi⟩ := List.mem_iff_getElem?.mp hp
  have absent := h i
  rw [hi, given_eq_none_iff] at absent
  simpa using absent

theorem filter_same {l l' : List CStr} (h : ∀ i : ℕ, given l[i]? = given l'[i]?) :
    l.filter (· ≠ []) = l'.filter (· ≠ []) := by
  induction l generalizing l' with
  | nil =>
    rw [List.filter_nil, filter_absent]
    exact fun i => (h i).symm
  | cons p l ih =>
    cases l' with
    | nil =>
      rw [List.filter_nil, filter_absent]
      exact h
    | cons p' l' =>
      have rest : l.filter (· ≠ []) = l'.filter (· ≠ []) := ih fun i => h (i + 1)
      have first : given (some p) = given (some p') := h 0
      rcases given_cases first with ⟨a, a'⟩ | e
      · simp only [strisnull_some, List.isEmpty_iff] at a a'
        rw [a, a']
        simpa using rest
      · cases e
        simp only [List.filter_cons, rest]

theorem trim_appendAll (l : List CStr) (next : Steps) :
    trim (appendAll (l.map some) next) =
      appendAll ((l.filter (· ≠ [])).map some) (trim next) := by
  induction l with
  | nil => rfl
  | cons p l ih =>
    rcases p with _ | ⟨c, s⟩
    · simpa [appendAll, trim] using ih
    · simpa [appendAll, trim] using ih

theorem query_same {request request' : AGENT_REQUEST} (queries : Table)
    (h : SameParameters request request') :
    trim (querySteps queries request) = trim (querySteps queries request') := by
  have rest : ∀ next, trim (appendAll (userParams request) next) =
      trim (appendAll (userParams request') next) := by
    intro next
    rw [userParams_eq, userParams_eq, trim_appendAll, trim_appendAll, filter_same]
    intro i
    have same := h.params (3 + i)
    simpa [get_rparam, List.getElem?_drop] using same
  rcases first_cases h with ⟨a, a'⟩ | e
  · have rejected : ∀ {request : AGENT_REQUEST}, strisnull (get_rparam request PARAM_FIRST) = true →
        querySteps queries request = .reject "No query or query-key specified".toList [] := by
      intro request hq
      rw [querySteps]
      rcases hp : get_rparam request PARAM_FIRST with _ | _ | ⟨c, s⟩
      · rfl
      · rfl
      · rw [hp] at hq
        cases hq
    rw [rejected a, rejected a']
  · rw [querySteps, querySteps, e, h.key]
    rcases get_rparam request' PARAM_FIRST with _ | _ | ⟨c, s⟩
    · rfl
    · rfl
    · dsimp only
      cases get_query_by_name queries (c :: s) with
      | none => rfl
      | some found => exact rest _

/-- The plans differ only in appends that add nothing. -/
theorem plan_same {request request' : AGENT_REQUEST} (g : Globals)
    (h : SameParameters request request') (f : Handler) :
    trimPlan (plan g request f) = trimPlan (plan g request' f) := by
  cases f with
  | PG_QUERY => exact congrArg Plan.steps (query_same g.queries h)
  | PG_SETTING => exact congrArg trimPlan (setting_same h)
  | PG_BACKENDS_COUNT =>
    simp only [plan, backendsCountSteps, activitySteps, filterSteps_same h]
  | PG_QUERIES_LONGEST =>
    simp only [plan, queriesLongestSteps, activitySteps, filterSteps_same h]
  | PG_STAT_BGWRITER => simp only [plan, bgwriterPlan, h.key]
  | PG_BG_TIME_RATIO => exact congrArg trimPlan (timeRatio_same h)
  | PG_NAMESPACE_DISCOVERY | PG_TABLE_DISCOVERY => exact congrArg trimPlan (mode_same h _)
  | PG_INDEX_DISCOVERY => exact congrArg trimPlan (indexDiscovery_same h)
  | PG_TABLE_CHILDREN_DISCOVERY | PG_TABLE_CHILDREN | PG_TABLE_CHILDREN_SIZE
  | PG_TABLE_CHILDREN_ROWS | PG_TABLESPACE_SIZE | PG_NAMESPACE_SIZE =>
    exact congrArg trimPlan (requireName_same h _)
  | PG_DB_SIZE | PG_DB_XID_AGE => exact congrArg trimPlan (databaseInt_same h _ _)
  | PG_TABLE_SIZE | PG_TABLE_ROWS | PG_INDEX_ROWS => exact intByName_same h _ _
  | PG_STATIO_ALL_TABLES | PG_STATIO_ALL_INDEXES =>
    simp only [plan, h.key]
    exact intByName_same h _ _
  | PG_PREPARED_XACTS_COUNT | PG_PREPARED_XACTS_AGE | PG_INDEX_SIZE
  | PG_DB_BLKS_RATIO | PG_TABLE_IDX_SCAN_RATIO | PG_TABLE_HEAP_BLKS_RATIO
  | PG_TABLE_IDX_BLKS_RATIO | PG_TABLE_TOAST_BLKS_RATIO | PG_TABLE_TIDX_BLKS_RATIO
  | PG_INDEX_IDX_BLKS_RATIO => exact congrArg trimPlan (optionalName_same h _ _ _)
  | PG_STAT_DATABASE => exact congrArg trimPlan (statDatabase_same h)
  | PG_STAT_ALL_TABLES => exact statAllTables_same h
  | PG_STAT_ALL_INDEXES => exact statAllIndexes_same h
  | _ => rfl

/-- Every handler serves two such requests by the same run, whatever the server. -/
theorem absent_is_empty {S : Server} {request request' : AGENT_REQUEST} (g : Globals)
    (h : SameParameters request request') (f : Handler) :
    (call g request f : Agent S Ret) = call g request' f := by
  rw [call_run, call_run, run_same h, ← trimPlan_run request', plan_same g h f,
    trimPlan_run request']

/-- A request with no parameter at all, and one with five empty ones. -/
theorem absent_is_empty_backends :
    (call defaults ⟨"pg.backends.count".toList, []⟩ .PG_BACKENDS_COUNT : Agent scripted Ret) =
      call defaults ⟨"pg.backends.count".toList, [[], [], [], [], []]⟩ .PG_BACKENDS_COUNT := by
  refine absent_is_empty defaults ⟨rfl, ?_⟩ .PG_BACKENDS_COUNT
  intro i
  rcases i with _ | _ | _ | _ | _ | i <;> rfl

end LibZbxPgsql.AbsentParameters
