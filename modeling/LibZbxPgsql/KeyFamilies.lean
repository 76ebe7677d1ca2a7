import LibZbxPgsql.Discovery

set_option autoImplicit false

namespace LibZbxPgsql.KeyFamilies
open CStrings PrintfFormat AgentModel Connections Drivers Discovery
variable {S : Server}

/-- The search modes of a discovery key: deep by default, or shallow. -/
def discoverByMode (request : AGENT_REQUEST) (query : CStr) : Agent S Ret :=
  let mode := get_rparam request PARAM_FIRST
  if strisnull mode ∨ mode = some "deep".toList then
    -- search all connectable databases
    pg_get_discovery_wide request query none
  else if mode = some "shallow".toList then
    -- search only connected database
    pg_get_discovery request query none
  else do
    let _ ← set_err_result .given "Invalid search mode parameter: %s".toList
      [.string (mode.getD [])]
    return .SYSINFO_RET_FAIL

/-- The keys that need the name of an object: its absence is an error of its own. -/
def requireName (request : AGENT_REQUEST) (message : CStr) (found : Option CStr → Agent S Ret) :
    Agent S Ret :=
  let name := get_rparam request PARAM_FIRST
  if strisnull name then do
    let _ ← set_err_result .given message []
    return .SYSINFO_RET_FAIL
  else found name

def intByName (request : AGENT_REQUEST) (all one : CStr) : Agent S Ret := do
  let name := get_rparam request PARAM_FIRST
  let query := if strisnull name then all else one
  let params ← param_new name
  pg_get_int request query params

def ratioByName (request : AGENT_REQUEST) (table sum1 sum2 col1 col2 colFilter : CStr) :
    Agent S Ret :=
  let name := get_rparam request PARAM_FIRST
  if strisnull name then
    pg_get_percentage request table sum1 sum2 none none
  else
    pg_get_percentage request table col1 col2 (some colFilter) name

end LibZbxPgsql.KeyFamilies
