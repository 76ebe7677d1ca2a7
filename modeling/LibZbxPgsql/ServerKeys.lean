import LibZbxPgsql.Discovery

set_option autoImplicit false

/-! `pg_server.c`, `pg_bgwriter.c` and `pg.modver`. -/
namespace LibZbxPgsql.ServerKeys
open CStrings PrintfFormat AgentModel Connections Drivers
variable {S : Server}

def PACKAGE_STRING : CStr := "libzbxpgsql 1.1.0".toList

def MODVER (ZABBIX_VERSION : CStr) (_request : AGENT_REQUEST) : Agent S Ret := do
  let buffer := zbx_snprintf MAX_STRING_LEN
    (PACKAGE_STRING ++ ", compiled for Zabbix ".toList ++ ZABBIX_VERSION)
  SET_STR_RESULT (.text buffer)
  return .SYSINFO_RET_OK

def PGSQL_GET_VERSION : CStr := "SELECT version();".toList

def PGSQL_GET_STARTTIME : CStr := "SELECT pg_postmaster_start_time();".toList

def PGSQL_GET_UPTIME : CStr :=
  "SELECT EXTRACT(EPOCH FROM NOW()) - EXTRACT(EPOCH FROM pg_postmaster_start_time());".toList

def PG_CONNECT (request : AGENT_REQUEST) : Agent S Ret := do
  -- connect without setting an error message on failure
  let conn ← pg_connect_request request .NULL
  match conn with
  | none =>
    SET_UI64_RESULT 0
    return .SYSINFO_RET_OK
  | some conn =>
    let status ← PQstatus (some conn)
    if status = .CONNECTION_OK then
      SET_UI64_RESULT 1
      PQfinish (some conn)
      return .SYSINFO_RET_OK
    else
      SET_UI64_RESULT 0
      return .SYSINFO_RET_OK

def PG_VERSION (request : AGENT_REQUEST) : Agent S Ret :=
  pg_get_string request PGSQL_GET_VERSION none

def PG_STARTTIME (request : AGENT_REQUEST) : Agent S Ret :=
  pg_get_string request PGSQL_GET_STARTTIME none

def PG_UPTIME (request : AGENT_REQUEST) : Agent S Ret :=
  pg_get_int request PGSQL_GET_UPTIME none

def preparedXactsCount : CStr := "SELECT COUNT (transaction) FROM pg_prepared_xacts;".toList

def preparedXactsCountOf : CStr :=
  "SELECT COUNT (transaction) FROM pg_prepared_xacts WHERE database = $1;".toList

def PG_PREPARED_XACTS_COUNT (request : AGENT_REQUEST) : Agent S Ret := do
  let datname := get_rparam request PARAM_FIRST
  if strisnull datname then
    pg_get_int request preparedXactsCount none
  else
    let params ← param_new datname
    pg_get_int request preparedXactsCountOf params

def preparedXactsRatio : CStr :=
  literal
    ["SELECT ",
     "  CASE ",
     "    WHEN setting::integer = 0 THEN 0.00 ",
     "    ELSE ((SELECT COUNT (transaction) FROM pg_prepared_xacts)::float / ",
     "setting::integer) ",
     "  END ",
     "FROM pg_settings ",
     "WHERE name = 'max_prepared_transactions';"]

def PG_PREPARED_XACTS_RATIO (request : AGENT_REQUEST) : Agent S Ret :=
  pg_get_dbl request preparedXactsRatio none

def preparedXactsAge : CStr :=
  literal
    ["SELECT ",
     "  COALESCE(MAX((EXTRACT(EPOCH FROM NOW()) - EXTRACT(EPOCH FROM prepared))::integer), ",
     "0) ",
     "FROM pg_prepared_xacts;"]

def preparedXactsAgeOf : CStr :=
  literal
    ["SELECT ",
     "  COALESCE(MAX((EXTRACT(EPOCH FROM NOW()) - EXTRACT(EPOCH FROM prepared))::integer), ",
     "0) ",
     "FROM pg_prepared_xacts ",
     "WHERE database = $1;"]

def PG_PREPARED_XACTS_AGE (request : AGENT_REQUEST) : Agent S Ret := do
  let datname := get_rparam request PARAM_FIRST
  if strisnull datname then
    pg_get_int request preparedXactsAge none
  else
    let params ← param_new datname
    pg_get_int request preparedXactsAgeOf params

def pgsql_bgwriter_stat (field : CStr) : CStr :=
  "SELECT ".toList ++ field ++ " FROM pg_stat_bgwriter;".toList

def PG_STAT_BGWRITER (request : AGENT_REQUEST) : Agent S Ret :=
  let field := request.key.drop 3
  let query := zbx_snprintf MAX_STRING_LEN (pgsql_bgwriter_stat field)
  if 0 = strncmp field "checkpoint_".toList 11 then
    pg_get_dbl request query none
  else if 0 = strncmp field "stats_reset".toList 11 then
    pg_get_string request query none
  else
    pg_get_int request query none

def pgsql_stats_reset_interval : CStr :=
  "SELECT EXTRACT(EPOCH FROM NOW() - stats_reset) from pg_stat_bgwriter;".toList

def PG_BG_STATS_RESET_INTERVAL (request : AGENT_REQUEST) : Agent S Ret :=
  pg_get_int request pgsql_stats_reset_interval none

def pgsql_bg_avg_interval : CStr :=
  literal
    ["SELECT ",
     "    CASE checkpoints_timed + checkpoints_req ",
     "        WHEN 0 THEN 0 ",
     "        ELSE EXTRACT(EPOCH FROM (NOW() - stats_reset)) / (checkpoints_timed + ",
     "checkpoints_req) ",
     "    END ",
     "FROM pg_stat_bgwriter;"]

def PG_BG_AVG_INTERVAL (request : AGENT_REQUEST) : Agent S Ret :=
  pg_get_dbl request pgsql_bg_avg_interval none

def pgsql_bg_time_ratio (field : CStr) : CStr :=
  literal
    ["SELECT ",
     "    ("] ++ field ++
    literal
    [" / 1000) / EXTRACT(EPOCH FROM NOW() - stats_reset) ",
     "FROM pg_stat_bgwriter;"]

/-- The expression an action stands for. -/
def timeRatioField (action : Option CStr) : Option CStr :=
  if strisnull action ∨ action = some "all".toList then
    some "(checkpoint_write_time + checkpoint_sync_time)".toList
  else if action = some "write".toList then
    some "checkpoint_write_time".toList
  else if action = some "sync".toList then
    some "checkpoint_sync_time".toList
  else none

def PG_BG_TIME_RATIO (request : AGENT_REQUEST) : Agent S Ret := do
  let action := get_rparam request PARAM_FIRST
  match timeRatioField action with
  | none =>
    let _ ← set_err_result .given "Invalid action parameter: %s".toList
      [.string (action.getD [])]
    return .SYSINFO_RET_FAIL
  | some field =>
    let query := zbx_snprintf MAX_STRING_LEN (pgsql_bg_time_ratio field)
    pg_get_dbl request query none

end LibZbxPgsql.ServerKeys
