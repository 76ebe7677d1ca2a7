import LibZbxPgsql.Discovery

set_option autoImplicit false

/-! `pg_backends.c`. -/
namespace LibZbxPgsql.BackendKeys
open CStrings PrintfFormat AgentModel Connections Drivers
variable {S : Server}

def MAX_QUERY_LEN : ℕ := 4096
def MAX_CLAUSE_LEN : ℕ := 4096

def PG_WHERE : CStr := "WHERE".toList
def PG_AND : CStr := "AND".toList

def PGSQL_GET_BACKENDS (pid clause : CStr) : CStr :=
  "SELECT COUNT(datid) FROM pg_stat_activity WHERE ".toList ++ pid ++
    " != pg_backend_pid()".toList ++ clause ++ ";".toList

def PGSQL_GET_LONGEST_QUERY_92 (clause : CStr) : CStr :=
  literal
    ["SELECT ",
     "  COALESCE( ",
     "    (SELECT ",
     "      EXTRACT(EPOCH FROM NOW()) - EXTRACT(EPOCH FROM query_start) AS duration ",
     "    FROM pg_stat_activity ",
     "    WHERE ",
     "      state = 'active' ",
     "      AND pid != pg_backend_pid() "] ++ clause ++
  literal
    ["    ORDER BY duration DESC ",
     "    LIMIT 1), 0);"]

def PGSQL_GET_LONGEST_QUERY (clause : CStr) : CStr :=
  literal
    ["SELECT ",
     "  COALESCE( ",
     "    (SELECT ",
     "      EXTRACT(EPOCH FROM NOW()) - EXTRACT(EPOCH FROM query_start) AS duration ",
     "    FROM pg_stat_activity ",
     "    WHERE ",
     "      current_query NOT IN ('', '<IDLE>', '<insufficient privilege>') ",
     "      AND procpid != pg_backend_pid() "] ++ clause ++
  literal
    ["    ORDER BY duration DESC ",
     "    LIMIT 1), 0);"]

/-- The variables of `build_activity_clause` that its loop changes: `buf` is the text
    up to the pointer of that name. -/
structure ActivityClause where
  buf : CStr
  params : PGparams
  clause : CStr
  pgi : ℕ

/-- `zbx_snprintf(buf, MAX_CLAUSE_LEN, ...)` at the moving pointer, and the end of the
    loop's body. The bound given is that of the whole array, wherever the pointer is. -/
def write (c : ActivityClause) (formatted : CStr) : Agent S ActivityClause :=
  let buf := c.buf ++ zbx_snprintf MAX_CLAUSE_LEN formatted
  if MAX_CLAUSE_LEN < buf.length + 1 then throw .bufferOverrun
  else return { c with buf := buf, clause := PG_AND }

def writeFilter (c : ActivityClause) (column cast : CStr) : Agent S ActivityClause :=
  write { c with pgi := c.pgi + 1 }
    (' ' :: c.clause ++ ' ' :: column ++ " = $".toList ++ intDigits (c.pgi + 1) ++ cast)

def writeConstant (c : ActivityClause) (condition : CStr) : Agent S ActivityClause :=
  write c (' ' :: c.clause ++ ' ' :: condition)

/-- The `switch`. Where the function returns 0 the array built so far is left in
    `*params`. -/
def activityFilter (inet_pton : AddressFamily → CStr → Bool) (request : AGENT_REQUEST)
    (c : ActivityClause) (param : CStr) : ℕ → Agent S (Except PGparams ActivityClause)
  | 0 => do
    let params ← param_append c.params (some param)
    let column := if is_oid param then "datid".toList else "datname".toList
    let c ← writeFilter { c with params := params } column []
    return .ok c
  | 1 => do
    let params ← param_append c.params (some param)
    let column := if is_oid param then "usesysid".toList else "usename".toList
    let c ← writeFilter { c with params := params } column []
    return .ok c
  | 2 => do
    let params ← param_append c.params (some param)
    if is_valid_ip inet_pton param then
      let c ← writeFilter { c with params := params } "client_addr".toList "::inet".toList
      return .ok c
    else
      -- requires v9.1+
      let c ← writeFilter { c with params := params } "client_hostname".toList []
      return .ok c
  | _ => do
    if 0 = strncmp "true".toList param 5 then
      let c ← writeConstant c "waiting = TRUE".toList
      return .ok c
    else if 0 = strncmp "false".toList param 6 then
      let c ← writeConstant c "waiting = FALSE".toList
      return .ok c
    else
      let _ ← set_err_result .given "Unsupported parameter value: \"%s\" in %s".toList
        [.string param, .string request.key]
      return .error c.params

def activityFilters (inet_pton : AddressFamily → CStr → Bool) (request : AGENT_REQUEST) :
    List ℕ → ActivityClause → Agent S (Except PGparams ActivityClause)
  | [], c => return .ok c
  | i :: is, c =>
    match get_rparam request (PARAM_FIRST + i) with
    | none => activityFilters inet_pton request is c
    | some [] => activityFilters inet_pton request is c
    | some (d :: param) => do
      let done ← activityFilter inet_pton request c (d :: param) i
      match done with
      | .error params => return .error params
      | .ok c => activityFilters inet_pton request is c

def build_activity_clause (inet_pton : AddressFamily → CStr → Bool) (request : AGENT_REQUEST)
    (params : PGparams) (has_clause : Bool) : Agent S (Except PGparams ActivityClause) :=
  activityFilters inet_pton request [0, 1, 2, 3]
    ⟨[], params, if has_clause then PG_AND else PG_WHERE, 0⟩

def PG_BACKENDS_COUNT (inet_pton : AddressFamily → CStr → Bool) (request : AGENT_REQUEST) :
    Agent S Ret := do
  -- pid column is named 'procpid' in < v9.2
  let version := toInt (← pg_version request)
  if 0 = version then
    return .SYSINFO_RET_FAIL
  else
    let pid := if version < 90200 then "procpid".toList else "pid".toList
    let done ← build_activity_clause inet_pton request none true
    match done with
    | .error _ => return .SYSINFO_RET_FAIL
    | .ok c =>
      let query := zbx_snprintf MAX_QUERY_LEN (PGSQL_GET_BACKENDS pid c.buf)
      pg_get_int request query c.params

def backendsRatio (pid : CStr) : CStr :=
  literal
    ["SELECT ",
     "  CASE ",
     "    WHEN COUNT(datid) = 0 THEN 0.00 ",
     "    ELSE (COUNT(datid)::float / current_setting('max_connections')::integer) ",
     "  END ",
     "FROM pg_stat_activity ",
     "WHERE "] ++ pid ++ " != pg_backend_pid();".toList

def PG_BACKENDS_RATIO (request : AGENT_REQUEST) : Agent S Ret := do
  -- pid column is named 'procpid' in < v9.2
  let version := toInt (← pg_version request)
  if 0 = version then
    return .SYSINFO_RET_FAIL
  else
    let pid := if version < 90200 then "procpid".toList else "pid".toList
    let query := zbx_snprintf MAX_QUERY_LEN (backendsRatio pid)
    pg_get_dbl request query none

def backendsFree : CStr :=
  literal
    ["SELECT ",
     "  current_setting('max_connections')::integer - COUNT(datid) ",
     "FROM pg_stat_activity;"]

def PG_BACKENDS_FREE (request : AGENT_REQUEST) : Agent S Ret :=
  pg_get_dbl request backendsFree none

def PG_QUERIES_LONGEST (inet_pton : AddressFamily → CStr → Bool) (request : AGENT_REQUEST) :
    Agent S Ret := do
  let done ← build_activity_clause inet_pton request none true
  match done with
  | .error _ => return .SYSINFO_RET_FAIL
  | .ok c =>
    let version := toInt (← pg_version request)
    if 0 = version then
      return .SYSINFO_RET_FAIL
    else if version < 90200 then
      let query := zbx_snprintf MAX_QUERY_LEN (PGSQL_GET_LONGEST_QUERY c.buf)
      pg_get_dbl request query c.params
    else
      let query := zbx_snprintf MAX_QUERY_LEN (PGSQL_GET_LONGEST_QUERY_92 c.buf)
      pg_get_dbl request query c.params

end LibZbxPgsql.BackendKeys
