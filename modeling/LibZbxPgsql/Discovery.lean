import LibZbxPgsql.Drivers
import LibZbxPgsql.JsonBuilder

set_option autoImplicit false

/-! `pg_discovery.c`. -/
namespace LibZbxPgsql.Discovery
open CStrings PrintfFormat AgentModel Connections Drivers JsonBuilder
variable {S : Server}

def PGSQL_CONNECTABLE_DATABASES : CStr :=
  literal
    ["SELECT datname FROM pg_database WHERE datallowconn = 't' AND ",
     "pg_catalog.has_database_privilege(current_user, oid, 'CONNECT');"]

/-- The multi-string `strcat2` fills: each name with its terminator, and an empty
    string at the end. -/
def multiString : List CStr → CStr
  | [] => ['\x00']
  | name :: names => name ++ '\x00' :: multiString names

def readNames (res : Option PGresult) : ℕ → Agent S (List CStr)
  | 0 => return []
  | rows + 1 => do
    let names ← readNames res rows
    let name ← deref (PQgetvalue res rows 0)
    return names ++ [name]

def pg_get_databases (request : AGENT_REQUEST) : Agent S (Option CStr) := do
  let conn ← pg_connect_request request .given
  match conn with
  | none =>
    clearAndFinish none none
    return none
  | some conn =>
    let res ← pg_exec conn PGSQL_CONNECTABLE_DATABASES none
    if 0 = PQntuples res then
      let _ ← set_err_result .given
        "Failed to enumerate connectable PostgreSQL databases".toList []
      clearAndFinish res (some conn)
      return none
    else
      let names ← readNames res (PQntuples res)
      clearAndFinish res (some conn)
      return some (multiString names)

/-- The discovery macro of a column, as formatted into `buffer`. -/
def macroName (field : CStr) : CStr :=
  (zbx_snprintf MAX_STRING_LEN ('{' :: '#' :: field ++ ['}'])).map toupper

def addRow (fields : List CStr) (j : zbx_json) (row : List (Option CStr)) : zbx_json :=
  let j := zbx_json_addobject j
  let j := (fields.zip row).foldl
    (fun j (field, value) => zbx_json_addstring j (macroName field) (fieldText value)) j
  zbx_json_close j

def addRows (j : zbx_json) (tuples : Tuples) : zbx_json :=
  tuples.rows.foldl (addRow tuples.fields) j

def ZBX_PROTO_TAG_DATA : CStr := "data".toList

def pg_get_discovery (request : AGENT_REQUEST) (query : CStr) (params : PGparams) :
    Agent S Ret := do
  let conn ← pg_connect_request request .given
  match conn with
  | none =>
    clearAndFinish none none
    return .SYSINFO_RET_FAIL
  | some conn =>
    let res ← pg_exec conn query params
    match resultTuples res with
    | none =>
      let _ ← set_err_result .given "PostgreSQL query error: %s".toList
        [.string (PQresultErrorMessage res)]
      clearAndFinish res (some conn)
      return .SYSINFO_RET_FAIL
    | some tuples =>
      let j ← zbx_json_init
      let j := zbx_json_addarray j ZBX_PROTO_TAG_DATA
      let j := addRows j tuples
      let j := zbx_json_close j
      SET_STR_RESULT (.json (buffer j))
      zbx_json_free j
      clearAndFinish res (some conn)
      return .SYSINFO_RET_OK

/-- The `out:` label of `pg_get_discovery_wide`: neither the result nor the JSON buffer
    is in its reach. -/
def wideOut (conn : Option PGconn) (ret : Ret) : Agent S Ret := do
  PQfinish conn
  return ret

/-- The strings that `for (db = databases; *db; db += strlen(db) + 1)` visits. A step
    takes at least two characters off the buffer, so that its length is fuel enough. -/
def walkStrings : ℕ → CStr → List CStr
  | 0, _ => []
  | fuel + 1, databases =>
    match databases.takeWhile (· ≠ '\x00') with
    | [] => []
    | db => db :: walkStrings fuel (databases.drop (db.length + 1))

/-- The body of that loop, once for each database. The loop runs to its end with the
    buffer filled, or leaves for `out:` with the connection held there. -/
def wideLoop (connstring : Option CStr) (query : CStr) (params : PGparams) :
    List CStr → zbx_json → Agent S (Except (Option PGconn) zbx_json)
  | [], j => return .ok j
  | db :: dbs, j => do
    let conn ← pg_connect (build_connstring connstring (some db)) .given
    match conn with
    | none => return .error none
    | some conn =>
      let res ← pg_exec conn query params
      match resultTuples res with
      | none =>
        let _ ← set_err_result .given "PostgreSQL query error: %s".toList
          [.string (PQresultErrorMessage res)]
        return .error (some conn)
      | some tuples =>
        let j := addRows j tuples
        PQclear res
        PQfinish (some conn)
        wideLoop connstring query params dbs j

def pg_get_discovery_wide (request : AGENT_REQUEST) (query : CStr) (params : PGparams) :
    Agent S Ret := do
  let databases ← pg_get_databases request
  match databases with
  | none => wideOut none .SYSINFO_RET_FAIL
  | some databases =>
    let j ← zbx_json_init
    let j := zbx_json_addarray j ZBX_PROTO_TAG_DATA
    let done ← wideLoop (get_rparam request PARAM_CONN_STRING) query params
      (walkStrings databases.length databases) j
    match done with
    | .error conn => wideOut conn .SYSINFO_RET_FAIL
    | .ok j =>
      let j := zbx_json_close j
      SET_STR_RESULT (.json (buffer j))
      zbx_json_free j
      wideOut none .SYSINFO_RET_OK

end LibZbxPgsql.Discovery
