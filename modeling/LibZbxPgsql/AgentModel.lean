import LibZbxPgsql.StateFaultWp
import LibZbxPgsql.HandleLedger
import LibZbxPgsql.PrintfFormat
import LibZbxPgsql.CStrings

set_option autoImplicit false

/-! A handler runs against a server, a state machine that answers each connection attempt and
each command as it likes. The run keeps the agent's result structure and the trace of every
call that acquires, uses or releases something. -/
namespace LibZbxPgsql.AgentModel
open HandleLedger PrintfFormat CStrings

inductive Ret where
  | SYSINFO_RET_OK
  | SYSINFO_RET_FAIL
  deriving DecidableEq

structure AGENT_REQUEST where
  key : CStr
  params : List CStr

def AGENT_REQUEST.nparam (request : AGENT_REQUEST) : ℕ := request.params.length

def get_rparam (request : AGENT_REQUEST) (i : ℕ) : Option CStr := request.params[i]?

def PARAM_CONN_STRING : ℕ := 0
def PARAM_DBNAME : ℕ := 1
def PARAM_FIRST : ℕ := 2

inductive ConnectReply where
  | outOfMemory
  | CONNECTION_BAD (message : CStr)
  | CONNECTION_OK

/-- A table of text values; `none` is an SQL `NULL`. -/
structure Tuples where
  fields : List CStr
  rows : List (List (Option CStr))
  width : ∀ row ∈ rows, row.length = fields.length

/-- `notTuples` is every status other than `PGRES_TUPLES_OK`, with its message. -/
inductive ExecReply where
  | outOfMemory
  | notTuples (message : CStr)
  | PGRES_TUPLES_OK (tuples : Tuples)

structure Server where
  State : Type
  connect : State → CStr → ConnectReply × State
  /-- The connection string of the session, the command and its parameters. -/
  exec : State → CStr → CStr → List CStr → ExecReply × State
  finish : State → State

inductive ConnStatusType where
  | CONNECTION_OK
  | CONNECTION_BAD
  deriving DecidableEq

inductive ExecStatusType where
  | PGRES_TUPLES_OK
  | other
  deriving DecidableEq

structure PGconn where
  id : ℕ
  connstring : CStr
  status : ConnStatusType
  errorMessage : CStr

/-- A result that is not `NULL`: its tuples, if its status is `PGRES_TUPLES_OK`. -/
structure PGresult where
  id : ℕ
  tuples : Option Tuples
  errorMessage : CStr

/-- The cells of a `NULL`-terminated array, without the terminator. -/
structure ParamArray where
  id : ℕ
  cells : List CStr

abbrev PGparams := Option ParamArray

def cells (params : PGparams) : List CStr :=
  match params with
  | none => []
  | some array => array.cells

inductive Json where
  | string (s : CStr)
  | object (members : List (CStr × Json))
  | array (elements : List Json)

/-- A string result is a text, or the serialisation of a document. -/
inductive StrValue where
  | text (s : CStr)
  | json (document : Json)

/-- The text `vsnprintf` produced. `none` where the call was undefined: what the process does
    from there on is not in the model. -/
abbrev Message := Option CStr

/-- A double result is kept as the text it was read from. -/
structure AGENT_RESULT where
  ui64 : Option ℕ
  dbl : Option CStr
  str : Option StrValue
  msg : Option Message

def AGENT_RESULT.empty : AGENT_RESULT := ⟨none, none, none, none⟩

/-- The `result` argument of the functions that report errors. -/
inductive ResultArg where
  | NULL
  | given

inductive Event where
  | PQconnectdb (connstring : CStr) (conn : Option ℕ)
  | PQstatus (conn : ℕ)
  | PQerrorMessage (conn : ℕ) (message : CStr)
  | PQexecParams (conn : ℕ) (command : CStr) (params : PGparams) (result : Option ℕ)
  | PQclear (result : ℕ)
  | PQfinish (conn : ℕ)
  | param_alloc (array : ℕ)
  | param_read (array : ℕ)
  | param_free (array : ℕ)
  | zbx_json_init (json : ℕ)
  | zbx_json_free (json : ℕ)
  | set_err_result (result : ResultArg) (format : CStr) (args : List Arg)

inductive Handle where
  | conn (id : ℕ)
  | result (id : ℕ)
  | json (id : ℕ)
  | params (id : ℕ)
  deriving DecidableEq

def Handle.id : Handle → ℕ
  | .conn id => id
  | .result id => id
  | .json id => id
  | .params id => id

def Handle.isConn : Handle → Bool
  | .conn _ => true
  | _ => false

def Handle.isResult : Handle → Bool
  | .result _ => true
  | _ => false

def Handle.isJson : Handle → Bool
  | .json _ => true
  | _ => false

def Handle.isParams : Handle → Bool
  | .params _ => true
  | _ => false

def paramsHandle (params : PGparams) : List Handle :=
  match params with
  | none => []
  | some array => [.params array.id]

def Event.acts : Event → List (Act Handle)
  | .PQconnectdb _ none => []
  | .PQconnectdb _ (some conn) => [.acquire (.conn conn)]
  | .PQstatus conn => [.use (.conn conn)]
  | .PQerrorMessage conn _ => [.use (.conn conn)]
  | .PQexecParams conn _ params none =>
    .use (.conn conn) :: (paramsHandle params).map .use
  | .PQexecParams conn _ params (some result) =>
    .use (.conn conn) :: (paramsHandle params).map .use ++ [.acquire (.result result)]
  | .PQclear result => [.release (.result result)]
  | .PQfinish conn => [.release (.conn conn)]
  | .param_alloc array => [.acquire (.params array)]
  | .param_read array => [.use (.params array)]
  | .param_free array => [.release (.params array)]
  | .zbx_json_init json => [.acquire (.json json)]
  | .zbx_json_free json => [.release (.json json)]
  | .set_err_result _ _ _ => []

def acts (trace : List Event) : List (Act Handle) := trace.flatMap Event.acts

def Event.command : Event → List (CStr × List CStr)
  | .PQexecParams _ command params _ => [(command, cells params)]
  | _ => []

def commands (trace : List Event) : List (CStr × List CStr) := trace.flatMap Event.command

/-- Undefined behaviour that stops the run. -/
inductive Fault where
  | nullPointer
  | bufferOverrun
  | badArgument
  deriving DecidableEq

structure World (S : Server) where
  server : S.State
  fresh : ℕ
  result : AGENT_RESULT
  trace : List Event

def World.start {S : Server} (server : S.State) : World S := ⟨server, 0, .empty, []⟩

abbrev Agent (S : Server) := EStateM Fault (World S)

section Calls
variable {S : Server}

def emit (e : Event) : Agent S Unit := modify fun w => { w with trace := w.trace ++ [e] }

def acquire (e : ℕ → Event) : Agent S ℕ := fun w =>
  .ok w.fresh { w with fresh := w.fresh + 1, trace := w.trace ++ [e w.fresh] }

def connectServer (connstring : CStr) : Agent S ConnectReply := fun w =>
  let (reply, server) := S.connect w.server connstring
  .ok reply { w with server := server }

def execServer (conn : PGconn) (command : CStr) (params : List CStr) : Agent S ExecReply :=
  fun w =>
    let (reply, server) := S.exec w.server conn.connstring command params
    .ok reply { w with server := server }

def PQconnectdb (connstring : CStr) : Agent S (Option PGconn) := do
  let reply ← connectServer connstring
  match reply with
  | .outOfMemory =>
    emit (.PQconnectdb connstring none)
    return none
  | .CONNECTION_BAD message =>
    let id ← acquire fun id => .PQconnectdb connstring (some id)
    return some ⟨id, connstring, .CONNECTION_BAD, message⟩
  | .CONNECTION_OK =>
    let id ← acquire fun id => .PQconnectdb connstring (some id)
    return some ⟨id, connstring, .CONNECTION_OK, []⟩

def PQstatus (conn : Option PGconn) : Agent S ConnStatusType :=
  match conn with
  | none => return .CONNECTION_BAD
  | some conn => do
    emit (.PQstatus conn.id)
    return conn.status

def PQerrorMessage (conn : Option PGconn) : Agent S CStr :=
  match conn with
  | none => return "connection pointer is NULL\n".toList
  | some conn => do
    emit (.PQerrorMessage conn.id conn.errorMessage)
    return conn.errorMessage

def PQfinish (conn : Option PGconn) : Agent S Unit :=
  match conn with
  | none => return ()
  | some conn => do
    emit (.PQfinish conn.id)
    modify fun w => { w with server := S.finish w.server }

def PQexecParams (conn : PGconn) (command : CStr) (params : PGparams) :
    Agent S (Option PGresult) := do
  let reply ← execServer conn command (cells params)
  match reply with
  | .outOfMemory =>
    emit (.PQexecParams conn.id command params none)
    return none
  | .notTuples message =>
    let id ← acquire fun id => .PQexecParams conn.id command params (some id)
    return some ⟨id, none, message⟩
  | .PGRES_TUPLES_OK tuples =>
    let id ← acquire fun id => .PQexecParams conn.id command params (some id)
    return some ⟨id, some tuples, []⟩

def PQclear (res : Option PGresult) : Agent S Unit :=
  match res with
  | none => return ()
  | some res => emit (.PQclear res.id)

def resultTuples (res : Option PGresult) : Option Tuples := res.bind PGresult.tuples

def PQresultStatus (res : Option PGresult) : ExecStatusType :=
  match resultTuples res with
  | none => .other
  | some _ => .PGRES_TUPLES_OK

def PQresultErrorMessage (res : Option PGresult) : CStr :=
  match res with
  | none => []
  | some res => res.errorMessage

def PQntuples (res : Option PGresult) : ℕ :=
  match resultTuples res with
  | none => 0
  | some tuples => tuples.rows.length

/-- The text of an SQL value: empty for `NULL`. -/
def fieldText (value : Option CStr) : CStr := value.getD []

def PQgetvalue (res : Option PGresult) (row column : ℕ) : Option CStr :=
  (resultTuples res).bind fun tuples =>
    (tuples.rows[row]?).bind fun fields => (fields[column]?).map fieldText

/-- Reading a string through a pointer that may be `NULL`. -/
def deref (pointer : Option CStr) : Agent S CStr :=
  match pointer with
  | none => throw .nullPointer
  | some s => return s

def SET_UI64_RESULT (value : ℕ) : Agent S Unit :=
  modify fun w => { w with result := { w.result with ui64 := some value } }

def SET_DBL_RESULT (text : CStr) : Agent S Unit :=
  modify fun w => { w with result := { w.result with dbl := some text } }

def SET_STR_RESULT (value : StrValue) : Agent S Unit :=
  modify fun w => { w with result := { w.result with str := some value } }

def SET_MSG_RESULT (message : Message) : Agent S Unit :=
  modify fun w => { w with result := { w.result with msg := some message } }

def set_err_result (result : ResultArg) (format : CStr) (args : List Arg) : Agent S Ret := do
  emit (.set_err_result result format args)
  let msg := vsnprintf MAX_STRING_LEN format args
  match result with
  | .NULL => return .SYSINFO_RET_FAIL
  | .given =>
    SET_MSG_RESULT msg
    return .SYSINFO_RET_FAIL

end Calls

end LibZbxPgsql.AgentModel
