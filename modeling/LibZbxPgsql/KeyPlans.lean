import LibZbxPgsql.HandlerPlans

set_option autoImplicit false

namespace LibZbxPgsql.KeyPlans
open StateFaultWp CStrings PrintfFormat AgentModel Connections Drivers Discovery
open KeyFamilies ServerKeys BackendKeys QueryKeys DatabaseKeys TableKeys IndexKeys ItemKeys
open NamedQueries Dialogues WorldView Sessions DialogueRefinement DriverDialogues HandlerPlans

section Families
variable (request : AGENT_REQUEST)

def modePlan (query : CStr) : Plan :=
  let mode := get_rparam request PARAM_FIRST
  if strisnull mode ∨ mode = some "deep".toList then .wide query
  else if mode = some "shallow".toList then .steps (.discovery query)
  else .steps (.reject "Invalid search mode parameter: %s".toList [.string (mode.getD [])])

def requireNamePlan (message : CStr) (found : Option CStr → Steps) : Plan :=
  let name := get_rparam request PARAM_FIRST
  .steps (if strisnull name then .reject message [] else found name)

def intByNamePlan (all one : CStr) : Plan :=
  let name := get_rparam request PARAM_FIRST
  .steps (.append name (.scalar .AR_UINT64 (if strisnull name then all else one)))

def databaseIntPlan (all one : CStr) : Plan :=
  let datname := get_rparam request PARAM_FIRST
  .steps (.append (if strisnull datname then none else datname)
    (.scalar .AR_UINT64 (if strisnull datname then all else one)))

def optionalNamePlan (type : ResultType) (all one : CStr) : Plan :=
  let name := get_rparam request PARAM_FIRST
  .steps (if strisnull name then .scalar type all else .append name (.scalar type one))

def ratioByNamePlan (table sum1 sum2 col1 col2 colFilter : CStr) : Plan :=
  optionalNamePlan request .AR_DOUBLE (percentageQuery table sum1 sum2 none)
    (percentageQuery table col1 col2 (some colFilter))

def boundScalar (type : ResultType) (query : CStr) (name : Option CStr) : Steps :=
  .append name (.scalar type query)

def boundDiscovery (query : CStr) (name : Option CStr) : Steps :=
  .append name (.discovery query)

end Families

section Activity
variable (inet_pton : AddressFamily → CStr → Bool) (request : AGENT_REQUEST)

def writeSteps (buf formatted : CStr) (next : CStr → Steps) : Steps :=
  let buf := buf ++ zbx_snprintf MAX_CLAUSE_LEN formatted
  if MAX_CLAUSE_LEN < buf.length + 1 then .fault .bufferOverrun else next buf

def filterText (clause column cast : CStr) (n : ℕ) : CStr :=
  ' ' :: clause ++ ' ' :: column ++ " = $".toList ++ intDigits n ++ cast

def filterColumn (param : CStr) : ℕ → CStr × CStr
  | 0 => (if is_oid param then "datid".toList else "datname".toList, [])
  | 1 => (if is_oid param then "usesysid".toList else "usename".toList, [])
  | _ => if is_valid_ip inet_pton param then ("client_addr".toList, "::inet".toList)
    else ("client_hostname".toList, [])

def waitingText (param : CStr) : Option CStr :=
  if 0 = strncmp "true".toList param 5 then some "waiting = TRUE".toList
  else if 0 = strncmp "false".toList param 6 then some "waiting = FALSE".toList
  else none

def filterSteps : List ℕ → CStr → CStr → ℕ → (CStr → Steps) → Steps
  | [], buf, _, _, next => next buf
  | i :: is, buf, clause, pgi, next =>
    match get_rparam request (PARAM_FIRST + i) with
    | none => filterSteps is buf clause pgi next
    | some [] => filterSteps is buf clause pgi next
    | some (d :: param) =>
      if i < 3 then
        let (column, cast) := filterColumn inet_pton (d :: param) i
        .append (some (d :: param)) (writeSteps buf (filterText clause column cast (pgi + 1))
          fun buf => filterSteps is buf PG_AND (pgi + 1) next)
      else
        match waitingText (d :: param) with
        | none => .reject "Unsupported parameter value: \"%s\" in %s".toList
            [.string (d :: param), .string request.key]
        | some condition => writeSteps buf (' ' :: clause ++ ' ' :: condition)
            fun buf => filterSteps is buf PG_AND pgi next

def activitySteps (next : CStr → Steps) : Steps :=
  filterSteps inet_pton request [0, 1, 2, 3] [] PG_AND 0 next

end Activity

def appendAll : List (Option CStr) → Steps → Steps
  | [], next => next
  | param :: params, next => .append param (appendAll params next)

def queryTypeSteps (type query : CStr) : Steps :=
  if 0 = strncmp type "string".toList 5 then .scalar .AR_STRING query
  else if 0 = strncmp type "integer".toList 7 then .scalar .AR_UINT64 query
  else if 0 = strncmp type "double".toList 6 then .scalar .AR_DOUBLE query
  else if 0 = strncmp type "discovery".toList 9 then .discovery query
  else .reject "Unsupported query type: %s".toList
    [.int (((type[0]?).map fun c => (c.toNat : ℤ)).getD 0)]

def userParams (request : AGENT_REQUEST) : List (Option CStr) :=
  (List.range' 3 (request.nparam - 3)).map (get_rparam request)

def querySteps (queries : Table) (request : AGENT_REQUEST) : Steps :=
  match get_rparam request PARAM_FIRST with
  | none => .reject "No query or query-key specified".toList []
  | some [] => .reject "No query or query-key specified".toList []
  | some (c :: queryKey) =>
    match get_query_by_name queries (c :: queryKey) with
    | none => .fault .nullPointer
    | some found =>
      appendAll (userParams request)
        (queryTypeSteps (request.key.drop 9) (found.getD (c :: queryKey)))

/-- A filter of `pg.index.discovery` appended to the query, `none` where it does not fit. -/
def filteredQuery (query column : CStr) (param : Option CStr) : Option CStr :=
  match param with
  | none => some query
  | some [] => some query
  | some (c :: name) =>
    let buffer := zbx_snprintf MAX_STRING_LEN
      (" AND ".toList ++ column ++ " = '".toList ++ (c :: name) ++ "'".toList)
    if MAX_STRING_LEN < query.length + buffer.length + 1 then none else some (query ++ buffer)

def indexDiscoveryQuery (request : AGENT_REQUEST) : Option CStr :=
  (filteredQuery (zbx_strlcpy PGSQL_DISCOVER_INDEXES MAX_STRING_LEN) "n.nspname".toList
    (get_rparam request (PARAM_FIRST + 1))).bind fun query =>
  filteredQuery query "t.relname".toList (get_rparam request (PARAM_FIRST + 2))

section Plans
variable (g : Globals) (request : AGENT_REQUEST)

def bgwriterPlan : Plan :=
  let field := request.key.drop 3
  let query := zbx_snprintf MAX_STRING_LEN (pgsql_bgwriter_stat field)
  if 0 = strncmp field "checkpoint_".toList 11 then .steps (.scalar .AR_DOUBLE query)
  else if 0 = strncmp field "stats_reset".toList 11 then .steps (.scalar .AR_STRING query)
  else .steps (.scalar .AR_UINT64 query)

def timeRatioPlan : Plan :=
  let action := get_rparam request PARAM_FIRST
  match timeRatioField action with
  | none => .steps (.reject "Invalid action parameter: %s".toList [.string (action.getD [])])
  | some field =>
    .steps (.scalar .AR_DOUBLE (zbx_snprintf MAX_STRING_LEN (pgsql_bg_time_ratio field)))

def statDatabasePlan : Plan :=
  let field := request.key.drop 6
  let datname := get_rparam request PARAM_FIRST
  let query := zbx_snprintf MAX_STRING_LEN
    (if strisnull datname then PGSQL_GET_DB_STAT_SUM field else PGSQL_GET_DB_STAT field)
  let datname := if strisnull datname then none else datname
  if 0 = strncmp field "stats_reset".toList 11 then
    if strisnull datname then .steps (.reject "No database specified".toList [])
    else .steps (boundScalar .AR_STRING query datname)
  else if 0 = strncmp field "blk_".toList 4 then .steps (boundScalar .AR_DOUBLE query datname)
  else .steps (boundScalar .AR_UINT64 query datname)

def statAllTablesPlan : Plan :=
  let field := request.key.drop 9
  let tablename := get_rparam request PARAM_FIRST
  let query := zbx_snprintf MAX_STRING_LEN
    (if strisnull tablename then PGSQL_GET_TABLE_STAT_SUM field else PGSQL_GET_TABLE_STAT field)
  if 0 = strncmp field "last_".toList 5 then
    if strisnull tablename then .steps (.reject "No table name specified".toList [])
    else .steps (boundScalar .AR_STRING query tablename)
  else .steps (boundScalar .AR_UINT64 query tablename)

def statAllIndexesPlan : Plan :=
  let field := request.key.drop 9
  let index := get_rparam request PARAM_FIRST
  .indexStat (zbx_snprintf MAX_STRING_LEN
    (if strisnull index then indexStatSum field else indexStat field)) index

def settingPlan : Plan :=
  let setting := get_rparam request PARAM_FIRST
  if strisnull setting then .steps (.reject "No setting name specified".toList [])
  else .setting setting

def pidColumn (version : ℤ) : CStr :=
  if version < 90200 then "procpid".toList else "pid".toList

def backendsCountSteps : Steps :=
  .version fun version => activitySteps g.inet_pton request fun clause =>
    .scalar .AR_UINT64 (zbx_snprintf MAX_QUERY_LEN (PGSQL_GET_BACKENDS (pidColumn version) clause))

def queriesLongestSteps : Steps :=
  activitySteps g.inet_pton request fun clause => .version fun version =>
    .scalar .AR_DOUBLE (zbx_snprintf MAX_QUERY_LEN
      (if version < 90200 then PGSQL_GET_LONGEST_QUERY clause
        else PGSQL_GET_LONGEST_QUERY_92 clause))

def indexDiscoveryPlan : Plan :=
  match indexDiscoveryQuery request with
  | none => .steps (.fault .bufferOverrun)
  | some query => modePlan request query

def plan : Handler → Plan
  | .MODVER => .report (zbx_snprintf MAX_STRING_LEN
      (PACKAGE_STRING ++ ", compiled for Zabbix ".toList ++ g.ZABBIX_VERSION))
  | .PG_CONNECT => .ping
  | .PG_VERSION => .steps (.scalar .AR_STRING PGSQL_GET_VERSION)
  | .PG_STARTTIME => .steps (.scalar .AR_STRING PGSQL_GET_STARTTIME)
  | .PG_UPTIME => .steps (.scalar .AR_UINT64 PGSQL_GET_UPTIME)
  | .PG_PREPARED_XACTS_COUNT =>
    optionalNamePlan request .AR_UINT64 preparedXactsCount preparedXactsCountOf
  | Handler.PG_PREPARED_XACTS_RATIO => .steps (.scalar .AR_DOUBLE preparedXactsRatio)
  | .PG_PREPARED_XACTS_AGE =>
    optionalNamePlan request .AR_UINT64 preparedXactsAge preparedXactsAgeOf
  | .PG_SETTING => settingPlan request
  | .PG_SETTING_DISCOVERY => .steps (.discovery PGSQL_DISCOVER_SETTINGS)
  | .PG_QUERY => .steps (querySteps g.queries request)
  | .PG_BACKENDS_COUNT => .steps (backendsCountSteps g request)
  | .PG_BACKENDS_FREE => .steps (.scalar .AR_DOUBLE backendsFree)
  | Handler.PG_BACKENDS_RATIO => .steps (.version fun version =>
      .scalar .AR_DOUBLE (zbx_snprintf MAX_QUERY_LEN (backendsRatio (pidColumn version))))
  | .PG_QUERIES_LONGEST => .steps (queriesLongestSteps g request)
  | .PG_STAT_BGWRITER => bgwriterPlan request
  | .PG_BG_AVG_INTERVAL => .steps (.scalar .AR_DOUBLE pgsql_bg_avg_interval)
  | Handler.PG_BG_TIME_RATIO => timeRatioPlan request
  | .PG_BG_STATS_RESET_INTERVAL => .steps (.scalar .AR_UINT64 pgsql_stats_reset_interval)
  | .PG_DB_DISCOVERY => .steps (.discovery PGSQL_DISCOVER_DBS)
  | .PG_NAMESPACE_DISCOVERY => modePlan request PGSQL_DISCOVER_NAMESPACES
  | .PG_TABLESPACE_DISCOVERY => .steps (.version fun version =>
      .discovery (if version ≥ 90200 then PGSQL_DISCOVER_TABLESPACES_92
        else PGSQL_DISCOVER_TABLESPACES))
  | .PG_TABLE_DISCOVERY => modePlan request PGSQL_DISCOVER_TABLES
  | .PG_TABLE_CHILDREN_DISCOVERY => requireNamePlan request "No table name specified".toList
      (boundDiscovery PGSQL_DISCOVER_TABLE_CHILDREN)
  | .PG_INDEX_DISCOVERY => indexDiscoveryPlan request
  | .PG_DB_SIZE => databaseIntPlan request PGSQL_GET_DB_SIZE_SUM PGSQL_GET_DB_SIZE
  | .PG_TABLE_SIZE => intByNamePlan request PGSQL_GET_TABLE_SIZE_SUM PGSQL_GET_TABLE_SIZE
  | .PG_TABLE_ROWS => intByNamePlan request PGSQL_GET_TABLE_ROWS_SUM PGSQL_GET_TABLE_ROWS
  | .PG_TABLE_CHILDREN => requireNamePlan request tableNameMissing
      (boundScalar .AR_UINT64 PGSQL_GET_TABLE_CHILD_COUNT)
  | .PG_TABLE_CHILDREN_SIZE => requireNamePlan request tableNameMissing
      (boundScalar .AR_UINT64 PGSQL_GET_CHILDREN_SIZE)
  | .PG_TABLE_CHILDREN_ROWS => requireNamePlan request tableNameMissing
      (boundScalar .AR_UINT64 PGSQL_GET_CHILDREN_ROWS)
  | .PG_INDEX_SIZE =>
    optionalNamePlan request .AR_UINT64 PGSQL_GET_INDEX_SIZE_SUM PGSQL_GET_INDEX_SIZE
  | .PG_INDEX_ROWS => intByNamePlan request PGSQL_GET_INDEX_ROWS_SUM PGSQL_GET_INDEX_ROWS
  | .PG_TABLESPACE_SIZE => requireNamePlan request "No tablespace specified".toList
      (boundScalar .AR_UINT64 PGSQL_GET_TS_SIZE)
  | .PG_NAMESPACE_SIZE => requireNamePlan request "No schema name specified".toList
      (boundScalar .AR_UINT64 PGSQL_GET_NS_SIZE)
  | .PG_STAT_DATABASE => statDatabasePlan request
  | Handler.PG_DB_BLKS_RATIO => ratioByNamePlan request "pg_stat_database".toList
      "sum(blks_hit)".toList "sum(blks_hit) + sum(blks_read)".toList
      "blks_hit".toList "blks_hit + blks_read".toList "datname".toList
  | .PG_DB_XID_AGE => databaseIntPlan request dbXidAgeMax dbXidAge
  | .PG_STAT_ALL_TABLES => statAllTablesPlan request
  | Handler.PG_TABLE_IDX_SCAN_RATIO => ratioByNamePlan request "pg_stat_all_tables".toList
      "sum(idx_scan)".toList "sum(seq_scan) + sum(idx_scan)".toList
      "idx_scan".toList "seq_scan + idx_scan".toList "relname".toList
  | .PG_STATIO_ALL_TABLES => intByNamePlan request
      (zbx_snprintf MAX_STRING_LEN (PGSQL_GET_TABLE_STATIO_SUM (request.key.drop 9)))
      (zbx_snprintf MAX_STRING_LEN ( PGSQL_GET_TABLE_STATIO (request.key.drop 9)))
  | Handler.PG_TABLE_HEAP_BLKS_RATIO => ratioByNamePlan request "pg_statio_all_tables".toList
      "sum(heap_blks_hit)".toList "sum(heap_blks_hit) + sum(heap_blks_read)".toList
      "heap_blks_hit".toList "heap_blks_hit + heap_blks_read".toList "relname".toList
  | Handler.PG_TABLE_IDX_BLKS_RATIO => ratioByNamePlan request "pg_statio_all_tables".toList
      "sum(idx_blks_hit)".toList "sum(idx_blks_hit) + sum(idx_blks_read)".toList
      "idx_blks_hit".toList "idx_blks_hit + idx_blks_read".toList "relname".toList
  | Handler.PG_TABLE_TOAST_BLKS_RATIO => ratioByNamePlan request "pg_statio_all_tables".toList
      "sum(toast_blks_hit)".toList "sum(toast_blks_hit) + sum(toast_blks_read)".toList
      "toast_blks_hit".toList "toast_blks_hit + toast_blks_read".toList "relname".toList
  | Handler.PG_TABLE_TIDX_BLKS_RATIO => ratioByNamePlan request "pg_statio_all_tables".toList
      "sum(tidx_blks_hit)".toList "sum(tidx_blks_hit) + sum(tidx_blks_read)".toList
      "tidx_blks_hit".toList "tidx_blks_hit + tidx_blks_read".toList "relname".toList
  | .PG_STAT_ALL_INDEXES => statAllIndexesPlan request
  | .PG_STATIO_ALL_INDEXES => intByNamePlan request
      (zbx_snprintf MAX_STRING_LEN (PGSQL_GET_INDEX_STATIO_SUM (request.key.drop 9)))
      (zbx_snprintf MAX_STRING_LEN (indexStatio (request.key.drop 9)))
  | Handler.PG_INDEX_IDX_BLKS_RATIO => ratioByNamePlan request "pg_statio_all_indexes".toList
      "sum(idx_blks_hit)".toList "sum(idx_blks_hit) + sum(idx_blks_read)".toList
      "idx_blks_hit".toList "idx_blks_hit + idx_blks_read".toList "indexrelname".toList

end Plans

section Runs
variable {S : Server} (request : AGENT_REQUEST)

theorem discoverByMode_run (query : CStr) :
    (discoverByMode request query : Agent S Ret) = (modePlan request query).run request := by
  unfold discoverByMode modePlan
  dsimp only
  split
  · rfl
  · split <;> rfl

theorem requireName_run {message : CStr} {handler : Option CStr → Agent S Ret}
    {found : Option CStr → Steps} (h : ∀ name, handler name = (found name).run request none) :
    requireName request message handler = (requireNamePlan request message found).run request := by
  unfold requireName requireNamePlan
  dsimp only
  split
  · rfl
  · exact h _

theorem boundName_run (message query : CStr) :
    (requireName request message fun name => do
        let params ← param_new name
        pg_get_int request query params : Agent S Ret) =
      (requireNamePlan request message (boundScalar .AR_UINT64 query)).run request :=
  requireName_run request fun _ => rfl

theorem boundDiscovery_run (message query : CStr) :
    (requireName request message fun name => do
        let params ← param_new name
        pg_get_discovery request query params : Agent S Ret) =
      (requireNamePlan request message (boundDiscovery query)).run request :=
  requireName_run request fun _ => rfl

theorem optionalName_run (type : ResultType) (all one : CStr) :
    (if strisnull (get_rparam request PARAM_FIRST) then pg_get_result request type all none
      else do
        let params ← param_new (get_rparam request PARAM_FIRST)
        pg_get_result request type one params : Agent S Ret) =
      (optionalNamePlan request type all one).run request := by
  unfold optionalNamePlan
  split
  · rename_i hn
    simp only [hn, if_true]
    rfl
  · rename_i hn
    simp only [hn]
    rfl

theorem ratioByName_run (table sum1 sum2 col1 col2 colFilter : CStr) :
    (ratioByName request table sum1 sum2 col1 col2 colFilter : Agent S Ret) =
      (ratioByNamePlan request table sum1 sum2 col1 col2 colFilter).run request :=
  optionalName_run request .AR_DOUBLE (percentageQuery table sum1 sum2 none)
    (percentageQuery table col1 col2 (some colFilter))

theorem statDatabase_run :
    (PG_STAT_DATABASE request : Agent S Ret) = (statDatabasePlan request).run request := by
  unfold PG_STAT_DATABASE statDatabasePlan
  dsimp only
  split
  · split <;> rfl
  · split <;> rfl

theorem statAllTables_run :
    (PG_STAT_ALL_TABLES request : Agent S Ret) = (statAllTablesPlan request).run request := by
  unfold PG_STAT_ALL_TABLES statAllTablesPlan
  dsimp only
  split
  · split <;> rfl
  · rfl

theorem bgwriter_run :
    (PG_STAT_BGWRITER request : Agent S Ret) = (bgwriterPlan request).run request := by
  unfold PG_STAT_BGWRITER bgwriterPlan
  dsimp only
  split
  · rfl
  · split <;> rfl

theorem timeRatio_run :
    ( PG_BG_TIME_RATIO request : Agent S Ret) = (timeRatioPlan request).run request := by
  unfold PG_BG_TIME_RATIO timeRatioPlan
  dsimp only
  cases timeRatioField (get_rparam request PARAM_FIRST) <;> rfl

theorem setting_run :
    (PG_SETTING request : Agent S Ret) = (settingPlan request).run request := by
  unfold PG_SETTING settingPlan
  dsimp only
  split <;> rfl

theorem appendFilter_run (query column : CStr) (param : Option CStr) :
    (appendFilter query column param : Agent S CStr) =
      match filteredQuery query column param with
      | none => throw .bufferOverrun
      | some query => pure query := by
  match param with
  | none => rfl
  | some [] => rfl
  | some (c :: name) =>
    simp only [appendFilter, appendWithin, filteredQuery]
    split <;> rfl

theorem indexDiscovery_run :
    (PG_INDEX_DISCOVERY request : Agent S Ret) = (indexDiscoveryPlan request).run request := by
  rw [PG_INDEX_DISCOVERY, indexDiscoveryPlan, indexDiscoveryQuery, appendFilter_run]
  cases filteredQuery (zbx_strlcpy PGSQL_DISCOVER_INDEXES MAX_STRING_LEN) "n.nspname".toList
      (get_rparam request (PARAM_FIRST + 1)) with
  | none => rfl
  | some query =>
    simp only [pure_bind, Option.bind_some, appendFilter_run]
    cases filteredQuery query "t.relname".toList (get_rparam request (PARAM_FIRST + 2)) with
    | none => rfl
    | some query =>
      simp only [pure_bind]
      exact discoverByMode_run request query

theorem appendAll_run (l : List (Option CStr)) (next : Steps) (params : PGparams) :
    ((appendAll l next).run request params : Agent S Ret) =
      l.foldlM param_append params >>= fun params => next.run request params := by
  induction l generalizing params with
  | nil => rfl
  | cons param l ih =>
    rw [List.foldlM_cons, bind_assoc, appendAll, Steps.run]
    congr 1
    funext params
    exact ih params

theorem queryType_run (type query : CStr) (params : PGparams) :
    ((queryTypeSteps type query).run request params : Agent S Ret) =
      if 0 = strncmp type "string".toList 5 then pg_get_string request query params
      else if 0 = strncmp type "integer".toList 7 then pg_get_int request query params
      else if 0 = strncmp type "double".toList 6 then pg_get_dbl request query params
      else if 0 = strncmp type "discovery".toList 9 then pg_get_discovery request query params
      else do
        let _ ← set_err_result .given "Unsupported query type: %s".toList
          [.int (((type[0]?).map fun c => (c.toNat : ℤ)).getD 0)]
        return .SYSINFO_RET_FAIL := by
  unfold queryTypeSteps
  split
  · rfl
  · split
    · rfl
    · split
      · rfl
      · split <;> rfl

theorem query_run (queries : Table) :
    (PG_QUERY queries request : Agent S Ret) =
      (Plan.steps (querySteps queries request)).run request := by
  unfold PG_QUERY querySteps
  dsimp only
  match get_rparam request PARAM_FIRST with
  | none => rfl
  | some [] => rfl
  | some (c :: queryKey) =>
    simp only [resolveQuery]
    cases get_query_by_name queries (c :: queryKey) with
    | none => rfl
    | some found =>
      have rest : ∀ query, (do
            let params ← appendParams request
            if 0 = strncmp (request.key.drop 9) "string".toList 5 then
              pg_get_string request query params
            else if 0 = strncmp (request.key.drop 9) "integer".toList 7 then
              pg_get_int request query params
            else if 0 = strncmp (request.key.drop 9) "double".toList 6 then
              pg_get_dbl request query params
            else if 0 = strncmp (request.key.drop 9) "discovery".toList 9 then
              pg_get_discovery request query params
            else do
              let _ ← set_err_result .given "Unsupported query type: %s".toList
                [.int ((((request.key.drop 9)[0]?).map fun c => (c.toNat : ℤ)).getD 0)]
              return .SYSINFO_RET_FAIL : Agent S Ret) =
          (appendAll (userParams request)
            (queryTypeSteps (request.key.drop 9) query)).run request none := by
        intro query
        rw [appendAll_run, userParams, List.foldlM_map]
        congr 1
        funext params
        exact (queryType_run request _ _ _).symm
      cases found with
      | none =>
        rw [pure_bind]
        exact rest _
      | some query =>
        rw [pure_bind]
        exact rest query

/-- What a handler does once its activity clause is built. -/
def withClause (next : CStr → Steps) (done : Except PGparams ActivityClause) : Agent S Ret :=
  match done with
  | .error _ => return .SYSINFO_RET_FAIL
  | .ok c => (next c.buf).run request c.params

theorem write_run (c : ActivityClause) (formatted : CStr) (next : CStr → Steps)
    (rest : ActivityClause → Agent S Ret)
    (h : ∀ buf, (next buf).run request c.params = rest { c with buf := buf, clause := PG_AND }) :
    ((writeSteps c.buf formatted next).run request c.params : Agent S Ret) =
      write c formatted >>= rest := by
  unfold writeSteps write
  dsimp only
  split
  · rfl
  · rw [pure_bind]
    exact h _

theorem activityFilter_bound (inet_pton : AddressFamily → CStr → Bool) (c : ActivityClause)
    (param : CStr) {i : ℕ} (hi : i < 3) :
    (activityFilter inet_pton request c param i : Agent S (Except PGparams ActivityClause)) = do
      let params ← param_append c.params (some param)
      let c ← write { c with params := params, pgi := c.pgi + 1 }
        (filterText c.clause (filterColumn inet_pton param i).1
          (filterColumn inet_pton param i).2 (c.pgi + 1))
      return .ok c := by
  match i, hi with
  | 0, _ => rfl
  | 1, _ => rfl
  | 2, _ =>
    simp only [activityFilter, filterColumn]
    congr 1
    funext params
    split <;> rfl

theorem activityFilter_waiting (inet_pton : AddressFamily → CStr → Bool) (c : ActivityClause)
    (param : CStr) {i : ℕ} (hi : ¬ i < 3) :
    (activityFilter inet_pton request c param i : Agent S (Except PGparams ActivityClause)) =
      match waitingText param with
      | none => do
        let _ ← set_err_result .given "Unsupported parameter value: \"%s\" in %s".toList
          [.string param, .string request.key]
        return .error c.params
      | some condition => do
        let c ← write c (' ' :: c.clause ++ ' ' :: condition)
        return .ok c := by
  match i, hi with
  | n + 3, _ =>
    change (if 0 = strncmp "true".toList param 5 then _
      else if 0 = strncmp "false".toList param 6 then _ else _) = _
    rw [waitingText]
    by_cases yes : 0 = strncmp "true".toList param 5
    · rw [if_pos yes, if_pos yes]
      rfl
    · rw [if_neg yes, if_neg yes]
      by_cases no : 0 = strncmp "false".toList param 6
      · rw [if_pos no, if_pos no]
        rfl
      · rw [if_neg no, if_neg no]

theorem activityFilters_run (inet_pton : AddressFamily → CStr → Bool) (next : CStr → Steps)
    (is : List ℕ) (c : ActivityClause) :
    ((filterSteps inet_pton request is c.buf c.clause c.pgi next).run request c.params :
        Agent S Ret) =
      activityFilters inet_pton request is c >>= withClause request next := by
  induction is generalizing c with
  | nil => rfl
  | cons i is ih =>
    unfold filterSteps activityFilters
    match get_rparam request (PARAM_FIRST + i) with
    | none => exact ih c
    | some [] => exact ih c
    | some (d :: param) =>
      dsimp only
      by_cases hi : i < 3
      · rw [if_pos hi, activityFilter_bound request inet_pton c (d :: param) hi, Steps.run]
        simp only [bind_assoc, pure_bind]
        congr 1
        funext params
        exact write_run request { c with params := params, pgi := c.pgi + 1 } _ _ _
          fun buf => ih { c with buf := buf, params := params, clause := PG_AND, pgi := c.pgi + 1 }
      · rw [if_neg hi, activityFilter_waiting request inet_pton c (d :: param) hi]
        cases waitingText (d :: param) with
        | none => rfl
        | some condition =>
          simp only [bind_assoc, pure_bind]
          exact write_run request c _ _ _ fun buf => ih { c with buf := buf, clause := PG_AND }

theorem build_activity_clause_run (inet_pton : AddressFamily → CStr → Bool)
    (next : CStr → Steps) :
    ((activitySteps inet_pton request next).run request none : Agent S Ret) =
      build_activity_clause inet_pton request none true >>= withClause request next :=
  activityFilters_run request inet_pton next [0, 1, 2, 3] ⟨[], none, PG_AND, 0⟩

theorem backendsCount_run (g : Globals) :
    (PG_BACKENDS_COUNT g.inet_pton request : Agent S Ret) =
      (Plan.steps (backendsCountSteps g request)).run request := by
  unfold PG_BACKENDS_COUNT backendsCountSteps
  simp only [Plan.run, Steps.run]
  congr 1
  funext version
  split
  · rfl
  · rw [build_activity_clause_run]
    rfl

theorem queriesLongest_run (g : Globals) :
    (PG_QUERIES_LONGEST g.inet_pton request : Agent S Ret) =
      (Plan.steps (queriesLongestSteps g request)).run request := by
  unfold PG_QUERIES_LONGEST queriesLongestSteps
  rw [Plan.run, build_activity_clause_run]
  congr 1
  funext done
  cases done with
  | error params => rfl
  | ok c =>
    simp only [withClause, Steps.run]
    congr 1
    funext version
    split
    · rfl
    · split <;> rfl

theorem backendsRatio_run :
    ( PG_BACKENDS_RATIO request : Agent S Ret) = (Plan.steps (.version fun version =>
      .scalar .AR_DOUBLE (zbx_snprintf MAX_QUERY_LEN (backendsRatio (pidColumn version))))).run
        request := rfl

theorem tablespaceDiscovery_run :
    (PG_TABLESPACE_DISCOVERY request : Agent S Ret) = (Plan.steps (.version fun version =>
      .discovery (if version ≥ 90200 then PGSQL_DISCOVER_TABLESPACES_92
        else PGSQL_DISCOVER_TABLESPACES))).run request := by
  unfold PG_TABLESPACE_DISCOVERY
  simp only [Plan.run, Steps.run]
  congr 1
  funext version
  split
  · rfl
  · split <;> rfl

/-- Every handler of the table runs its plan. -/
theorem call_run (g : Globals) (f : Handler) :
    (call g request f : Agent S Ret) = (plan g request f).run request := by
  cases f with
  | PG_PREPARED_XACTS_COUNT | PG_PREPARED_XACTS_AGE | PG_INDEX_SIZE =>
    exact optionalName_run request .AR_UINT64 _ _
  | PG_SETTING => exact setting_run request
  | PG_QUERY => exact query_run request g.queries
  | PG_BACKENDS_COUNT => exact backendsCount_run request g
  | PG_BACKENDS_RATIO => exact backendsRatio_run request
  | PG_QUERIES_LONGEST => exact queriesLongest_run request g
  | PG_STAT_BGWRITER => exact bgwriter_run request
  | PG_BG_TIME_RATIO => exact timeRatio_run request
  | PG_NAMESPACE_DISCOVERY | PG_TABLE_DISCOVERY => exact discoverByMode_run request _
  | PG_TABLESPACE_DISCOVERY => exact tablespaceDiscovery_run request
  | PG_INDEX_DISCOVERY => exact indexDiscovery_run request
  | PG_TABLE_CHILDREN_DISCOVERY => exact boundDiscovery_run request _ _
  | PG_TABLE_CHILDREN | PG_TABLE_CHILDREN_SIZE | PG_TABLE_CHILDREN_ROWS
  | PG_TABLESPACE_SIZE | PG_NAMESPACE_SIZE =>
    exact boundName_run request _ _
  | PG_STAT_DATABASE => exact statDatabase_run request
  | PG_STAT_ALL_TABLES => exact statAllTables_run request
  | PG_DB_BLKS_RATIO | PG_TABLE_IDX_SCAN_RATIO | PG_TABLE_HEAP_BLKS_RATIO
  | PG_TABLE_IDX_BLKS_RATIO | PG_TABLE_TOAST_BLKS_RATIO | PG_TABLE_TIDX_BLKS_RATIO
  | PG_INDEX_IDX_BLKS_RATIO => exact ratioByName_run request _ _ _ _ _ _
  | _ => rfl

end Runs

/-- What a discovery that looks at its search mode asks. -/
theorem asked_mode {request : AGENT_REQUEST} {query : CStr} {P : Question → Prop}
    (listing : P (.query (requestConnstring request) PGSQL_CONNECTABLE_DATABASES []))
    (sent : ∀ connstring, P (.query connstring query [])) :
    Asked P ((modePlan request query).dialogue request) := by
  unfold modePlan
  dsimp only
  split
  · exact asked_wide listing sent
  · split
    · exact ⟨sent _, fun _ => trivial⟩
    · trivial

section Outcomes
variable (S : Server) (g : Globals) (request : AGENT_REQUEST) (f : Handler) (server : S.State)

/-- The play of a handler's dialogue against a server. -/
def played : Play Question Reply (Except Fault Outcome) S.State :=
  play (session S) ((plan g request f).dialogue request) server

theorem call_realises :
    Realises (call g request f) ((plan g request f).dialogue request) server []
      (Delivered ⟨server, .empty, [], []⟩ []) (World.start server) := by
  rw [call_run]
  exact plan_realises request (plan g request f) (shows_start server) rfl
    (fun _ hx => by cases hx)

variable {S g request f server}

theorem call_returned {ret : Ret} {w : World S}
    (run : call g request f (World.start server) = .ok ret w) :
    ∃ o v, (played S g request f server).result = .ok o ∧ Shows w v ∧
      ret = o.report.ret ∧ w.result = o.report.on .empty ∧ v.live.map kindOf = o.leaked := by
  obtain ⟨o, v, result, shows, -, -, hret, hres, new, live, kinds⟩ :=
    wp_ok (call_realises S g request f server) run
  refine ⟨o, v, result, shows, hret, shows.result.trans hres, ?_⟩
  rw [live, List.append_nil]
  exact kinds

theorem call_sent :
    commands (lastState (call g request f (World.start server))).trace =
      sentOf (played S g request f server).exchanges := by
  have sent : wp (call g request f)
      (fun _ w => commands w.trace = sentOf (played S g request f server).exchanges)
      (fun _ w => commands w.trace = sentOf (played S g request f server).exchanges)
      (World.start server) := by
    refine wp_mono (call_realises S g request f server) ?_ ?_
    · rintro ret w ⟨o, v, -, shows, -, hs, -⟩
      rw [shows.sent, hs, List.nil_append]
      rfl
    · rintro e w ⟨-, hs⟩
      rw [hs, List.nil_append]
      rfl
  exact wp_lastState sent

/-- Every command of a run is one its dialogue can ask for. -/
theorem call_asked {P : Question → Prop} (asked : Asked P ((plan g request f).dialogue request)) :
    ∀ sent ∈ commands (lastState (call g request f (World.start server))).trace,
      ∃ connstring, P (.query connstring sent.1 sent.2) := by
  intro sent hs
  rw [call_sent] at hs
  obtain ⟨⟨q, reply⟩, he, hq⟩ := List.mem_filterMap.mp hs
  have known := asked_play (session S) asked server _ he
  cases q with
  | ping connstring => cases hq
  | query connstring command params =>
    cases reply with
    | refused m => cases hq
    | noResult | failed _ | answered _ =>
      cases hq
      exact ⟨connstring, known⟩

end Outcomes

end LibZbxPgsql.KeyPlans
