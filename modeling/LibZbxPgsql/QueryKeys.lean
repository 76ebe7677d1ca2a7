import LibZbxPgsql.Discovery
import LibZbxPgsql.NamedQueries

set_option autoImplicit false

/-! `pg_query.c` and `pg_setting.c`. -/
namespace LibZbxPgsql.QueryKeys
open CStrings PrintfFormat AgentModel Connections Drivers Discovery NamedQueries
variable {S : Server}

/-- The query of a `pg.query.*` key: the configured one of that name, if there is one. -/
def resolveQuery (queries : Table) (queryKey : CStr) : Agent S CStr :=
  match get_query_by_name queries queryKey with
  | none => throw .nullPointer
  | some none => return queryKey
  | some (some query) => return query

def appendParams (request : AGENT_REQUEST) : Agent S PGparams :=
  (List.range' 3 (request.nparam - 3)).foldlM
    (fun params i => param_append params (get_rparam request i)) none

def PG_QUERY (queries : Table) (request : AGENT_REQUEST) : Agent S Ret := do
  let queryKey := get_rparam request PARAM_FIRST
  match queryKey with
  | none =>
    let _ ← set_err_result .given "No query or query-key specified".toList []
    return .SYSINFO_RET_FAIL
  | some [] =>
    let _ ← set_err_result .given "No query or query-key specified".toList []
    return .SYSINFO_RET_FAIL
  | some (c :: queryKey) =>
    let query ← resolveQuery queries (c :: queryKey)
    let params ← appendParams request
    let type := request.key.drop 9
    if 0 = strncmp type "string".toList 5 then
      pg_get_string request query params
    else if 0 = strncmp type "integer".toList 7 then
      pg_get_int request query params
    else if 0 = strncmp type "double".toList 6 then
      pg_get_dbl request query params
    else if 0 = strncmp type "discovery".toList 9 then
      pg_get_discovery request query params
    else
      -- the argument of `%s` is a character
      let _ ← set_err_result .given "Unsupported query type: %s".toList
        [.int (((type[0]?).map fun c => (c.toNat : ℤ)).getD 0)]
      return .SYSINFO_RET_FAIL

def PGSQL_DISCOVER_SETTINGS : CStr :=
  literal
    ["SELECT ",
     "    name AS setting",
     "    , unit AS unit ",
     "    , category AS category ",
     "    , short_desc AS description ",
     "    , context AS context ",
     "    , vartype AS vartype ",
     "FROM pg_settings;"]

def PGSQL_GET_SETTING : CStr :=
  "SELECT setting,vartype FROM pg_settings WHERE name=$1;".toList

def PG_SETTING_DISCOVERY (request : AGENT_REQUEST) : Agent S Ret :=
  pg_get_discovery request PGSQL_DISCOVER_SETTINGS none

/-- The result is set by the setting's `vartype`. -/
def setSetting (value type : CStr) : Agent S Unit :=
  if 0 = strncmp "integer".toList type 7 then
    SET_UI64_RESULT (strtoull value)
  else if 0 = strncmp "real".toList type 4 then
    SET_DBL_RESULT value
  else
    SET_STR_RESULT (.text value)

def readSetting (request : AGENT_REQUEST) (setting : Option CStr) : Agent S Ret := do
  let conn ← pg_connect_request request .given
  match conn with
  | none =>
    clearAndFinish none none
    return .SYSINFO_RET_FAIL
  | some conn =>
    let params ← param_new setting
    let res ← pg_exec conn PGSQL_GET_SETTING params
    if PQresultStatus res ≠ .PGRES_TUPLES_OK then
      let _ ← set_err_result .given "PostgreSQL query error: %s".toList
        [.string (PQresultErrorMessage res)]
      clearAndFinish res (some conn)
      return .SYSINFO_RET_FAIL
    else if 0 = PQntuples res then
      clearAndFinish res (some conn)
      return .SYSINFO_RET_FAIL
    else
      let value ← deref (PQgetvalue res 0 0)
      let type ← deref (PQgetvalue res 0 1)
      setSetting value type
      clearAndFinish res (some conn)
      return .SYSINFO_RET_OK

def PG_SETTING (request : AGENT_REQUEST) : Agent S Ret := do
  let setting := get_rparam request PARAM_FIRST
  if strisnull setting then
    let _ ← set_err_result .given "No setting name specified".toList []
    clearAndFinish none none
    return .SYSINFO_RET_FAIL
  else
    readSetting request setting

end LibZbxPgsql.QueryKeys
