import LibZbxPgsql.Connections

set_option autoImplicit false

/-! The drivers of `libzbxpgsql.c`. -/
namespace LibZbxPgsql.Drivers
open CStrings PrintfFormat AgentModel Connections
variable {S : Server}

def pg_exec (conn : PGconn) (command : CStr) (params : PGparams) :
    Agent S (Option PGresult) := do
  let _ ← param_len params
  let res ← PQexecParams conn command params
  -- free up the params array which would have been alloc'ed for this request
  param_free params
  return res

/-- The `out:` label of the functions that hold one result and one connection. -/
def clearAndFinish (res : Option PGresult) (conn : Option PGconn) : Agent S Unit := do
  PQclear res
  PQfinish conn

/-- The text copied to the caller's buffer is returned beside the code. -/
def pg_scalar (request : AGENT_REQUEST) (query : CStr) (params : PGparams) (bufferlen : ℕ) :
    Agent S (Ret × CStr) := do
  let conn ← pg_connect_request request .given
  match conn with
  | none =>
    clearAndFinish none none
    return (.SYSINFO_RET_FAIL, [])
  | some conn =>
    let res ← pg_exec conn query params
    if PQresultStatus res ≠ .PGRES_TUPLES_OK then
      let _ ← set_err_result .given "PostgreSQL error for query \"%s\": %s".toList
        [.string query, .string (PQresultErrorMessage res)]
      clearAndFinish res (some conn)
      return (.SYSINFO_RET_FAIL, [])
    else if 0 = PQntuples res then
      let _ ← set_err_result .given "No results returned for query \"%s\"".toList [.string query]
      clearAndFinish res (some conn)
      return (.SYSINFO_RET_FAIL, [])
    else
      let value ← deref (PQgetvalue res 0 0)
      let buffer := zbx_strlcpy value bufferlen
      clearAndFinish res (some conn)
      return (.SYSINFO_RET_OK, buffer)

inductive ResultType where
  | AR_STRING
  | AR_UINT64
  | AR_DOUBLE
  | unsupported (type : ℕ)

/-- The conversion of `pg_get_result` to an unsigned integer. What C leaves undefined, a
    `double` down from `-1` or up from `2 ^ 64`, keeps its low bits here. -/
def readUInt64 (value : CStr) : ℕ :=
  if 1 < value.length ∧ value[1]? = some '.' then
    toUInt64 (truncate (strtod value))
  else
    strtoull value

def pg_get_result (request : AGENT_REQUEST) (type : ResultType) (query : CStr)
    (params : PGparams) : Agent S Ret := do
  let (code, value) ← pg_scalar request query params MAX_STRING_LEN
  if code = .SYSINFO_RET_FAIL then
    return .SYSINFO_RET_FAIL
  else
    match type with
    | .AR_STRING =>
      SET_STR_RESULT (.text value)
      return .SYSINFO_RET_OK
    | .AR_UINT64 =>
      SET_UI64_RESULT (readUInt64 value)
      return .SYSINFO_RET_OK
    | .AR_DOUBLE =>
      SET_DBL_RESULT value
      return .SYSINFO_RET_OK
    | .unsupported type =>
      let _ ← set_err_result .given "Unsupported result type: 0x%0X in %s".toList
        [.int type, .string "pg_get_result".toList]
      return .SYSINFO_RET_FAIL

def pg_get_string (request : AGENT_REQUEST) (query : CStr) (params : PGparams) : Agent S Ret :=
  pg_get_result request .AR_STRING query params

def pg_get_int (request : AGENT_REQUEST) (query : CStr) (params : PGparams) : Agent S Ret :=
  pg_get_result request .AR_UINT64 query params

def pg_get_dbl (request : AGENT_REQUEST) (query : CStr) (params : PGparams) : Agent S Ret :=
  pg_get_result request .AR_DOUBLE query params

def percentageQuery (table col1 col2 : CStr) (colFilter : Option CStr) : CStr :=
  let query := zbx_snprintf MAX_STRING_LEN
    ("SELECT CASE WHEN (".toList ++ col2 ++ ") = 0 THEN 1 ELSE (".toList ++ col1 ++
      ")::float / (".toList ++ col2 ++ ") END FROM ".toList ++ table)
  match colFilter with
  | none => query
  | some [] => query
  | some (c :: column) =>
    query ++ zbx_snprintf (MAX_STRING_LEN - query.length)
      (" WHERE ".toList ++ (c :: column) ++ " = $1".toList)

def pg_get_percentage (request : AGENT_REQUEST) (table col1 col2 : CStr)
    (colFilter filter : Option CStr) : Agent S Ret := do
  let params ← param_new filter
  pg_get_dbl request (percentageQuery table col1 col2 colFilter) params

def PGSQL_VERSION_NUM : CStr :=
  "SELECT setting FROM pg_settings WHERE name='server_version_num'".toList

/-- 0 where the query failed. -/
def pg_version (request : AGENT_REQUEST) : Agent S ℤ := do
  let (code, buffer) ← pg_scalar request PGSQL_VERSION_NUM none MAX_STRING_LEN
  if code = .SYSINFO_RET_OK then
    return atol buffer
  else
    return 0

end LibZbxPgsql.Drivers
