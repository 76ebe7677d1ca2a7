import LibZbxPgsql.AgentModel

set_option autoImplicit false

/-! `pg_params.c` and `pg_connect.c`. -/
namespace LibZbxPgsql.Connections
open CStrings AgentModel
variable {S : Server}

def param_len (params : PGparams) : Agent S ℕ :=
  match params with
  | none => return 0
  | some array => do
    emit (.param_read array.id)
    return array.cells.length

def param_append (params : PGparams) (s : Option CStr) : Agent S PGparams :=
  -- never append nulls or empty strings
  match s with
  | none => return params
  | some [] => return params
  | some (c :: s) =>
    match params with
    | none => do
      let id ← acquire .param_alloc
      return some ⟨id, [c :: s]⟩
    | some array => do
      let len ← param_len params
      return some { array with cells := array.cells.take len ++ [c :: s] }

def param_new (s : Option CStr) : Agent S PGparams := param_append none s

def param_free (params : PGparams) : Agent S Unit :=
  match params with
  | none => return ()
  | some array => emit (.param_free array.id)

def DEFAULT_CONN_STRING : CStr := []
def DEFAULT_CONN_DBNAME : Option CStr := none

def build_connstring (connstring dbname : Option CStr) : CStr :=
  let c := []
  let c := strcat2 c (if strisnull connstring then some DEFAULT_CONN_STRING else connstring)
  let c := strcat2 c (if strisnull connstring then none else some " ".toList)
  let c := strcat2 c (some "dbname=".toList)
  strcat2 c (if strisnull dbname then DEFAULT_CONN_DBNAME else dbname)

def pg_connect (connstring : CStr) (result : ResultArg) : Agent S (Option PGconn) := do
  let conn ← PQconnectdb connstring
  let status ← PQstatus conn
  if status ≠ .CONNECTION_OK then
    -- the error text stands where the format does
    let message ← PQerrorMessage conn
    let _ ← set_err_result result message []
    PQfinish conn
    return none
  else
    return conn

def requestConnstring (request : AGENT_REQUEST) : CStr :=
  build_connstring (get_rparam request PARAM_CONN_STRING) (get_rparam request PARAM_DBNAME)

def pg_connect_request (request : AGENT_REQUEST) (result : ResultArg) :
    Agent S (Option PGconn) :=
  pg_connect (requestConnstring request) result

end LibZbxPgsql.Connections
