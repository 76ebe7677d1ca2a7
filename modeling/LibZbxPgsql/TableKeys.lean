import LibZbxPgsql.KeyFamilies

set_option autoImplicit false

/-! `pg_table.c`. -/
namespace LibZbxPgsql.TableKeys
open CStrings PrintfFormat AgentModel Connections Drivers Discovery KeyFamilies
variable {S : Server}

def PGSQL_DISCOVER_TABLES : CStr :=
  literal
    ["SELECT ",
     "    c.oid AS oid ",
     "    , current_database() || '.' || n.nspname || '.' || c.relname AS path",
     "    , current_database() AS database ",
     "    , n.nspname AS schema ",
     "    , CASE c.reltablespace ",
     "        WHEN 0 THEN (SELECT ds.spcname FROM pg_tablespace ds JOIN pg_database d ON ",
     "d.dattablespace = ds.oid WHERE d.datname = current_database()) ",
     "        ELSE (SELECT spcname FROM pg_tablespace WHERE oid = c.reltablespace) ",
     "        END AS tablespace ",
     "    , c.relname AS table ",
     "    ,t.typname AS type ",
     "    , pg_catalog.pg_get_userbyid(c.relowner) AS owner ",
     "    , (SELECT COUNT(inhparent) FROM pg_inherits WHERE inhrelid = c.oid) AS issubclass ",
     "    , pg_catalog.obj_description(c.oid, 'pg_class') as description ",
     "FROM pg_class c ",
     "JOIN pg_namespace n ON c.relnamespace = n.oid ",
     "JOIN pg_type t ON c.reltype = t.oid ",
     "WHERE ",
     "    c.relkind='r' ",
     "    AND n.nspname <> 'pg_catalog' ",
     "    AND n.nspname <> 'information_schema' ",
     "    AND n.nspname !~ '^pg_toast' ",
     "ORDER BY c.relname;"]

def PGSQL_DISCOVER_TABLE_CHILDREN : CStr :=
  literal
    ["SELECT ",
     "    c.oid AS oid ",
     "    , current_database() || '.' || n.nspname || '.' || c.relname AS path ",
     "    , c.relname AS table ",
     "    , n.nspname AS schema ",
     "FROM pg_inherits i ",
     "JOIN pg_class c ON i.inhrelid = c.oid ",
     "JOIN pg_namespace n ON c.relnamespace = n.oid ",
     "WHERE i.inhparent = $1::regclass"]

def PGSQL_GET_TABLE_STAT_SUM (field : CStr) : CStr :=
  "SELECT SUM(".toList ++ field ++
  literal
    ["::bigint) FROM pg_stat_all_tables ",
     "WHERE ",
     "    schemaname <> 'pg_catalog' ",
     "    AND schemaname <> 'information_schema' ",
     "    AND schemaname !~ '^pg_toast'"]

def PGSQL_GET_TABLE_STAT (field : CStr) : CStr :=
  "SELECT ".toList ++ field ++ " FROM pg_stat_all_tables WHERE relname = $1".toList

def PGSQL_GET_TABLE_STATIO (field : CStr) : CStr :=
  "SELECT ".toList ++ field ++ " FROM pg_statio_all_tables WHERE relname = $1".toList

def PGSQL_GET_TABLE_STATIO_SUM (field : CStr) : CStr :=
  "SELECT SUM(".toList ++ field ++
  literal
    ["::bigint) FROM pg_statio_all_tables ",
     "WHERE ",
     "    schemaname <> 'pg_catalog' ",
     "    AND schemaname <> 'information_schema' ",
     "    AND schemaname !~ '^pg_toast'"]

def PGSQL_GET_TABLE_SIZE : CStr :=
  literal
    ["SELECT ",
     "    relpages::bigint * 8192 ",
     "FROM pg_class ",
     "WHERE relkind='r' AND relname = $1"]

def PGSQL_GET_TABLE_SIZE_SUM : CStr :=
  literal
    ["SELECT ",
     "    SUM(relpages::bigint) * 8192 ",
     "FROM pg_class t ",
     "JOIN pg_namespace n ON n.oid = t.relnamespace ",
     "WHERE ",
     "    t.relkind = 'r' ",
     "    AND n.nspname <> 'pg_catalog' ",
     "    AND n.nspname <> 'information_schema' ",
     "    AND n.nspname !~ '^pg_toast'"]

def PGSQL_GET_TABLE_ROWS_SUM : CStr :=
  literal
    ["SELECT ",
     "    SUM(reltuples::bigint) ",
     "FROM pg_class t ",
     "JOIN pg_namespace n ON n.oid = t.relnamespace ",
     "WHERE ",
     "    t.relkind = 'r' ",
     "    AND n.nspname <> 'pg_catalog' ",
     "    AND n.nspname <> 'information_schema' ",
     "    AND n.nspname !~ '^pg_toast'"]

def PGSQL_GET_TABLE_ROWS : CStr :=
  literal
    ["SELECT reltuples ",
     "FROM pg_class ",
     "WHERE ",
     "    relkind='r' ",
     "    AND relname = $1"]

def PGSQL_GET_TABLE_CHILD_COUNT : CStr :=
  literal
    ["SELECT ",
     "    COUNT(i.inhrelid) ",
     "FROM pg_inherits i ",
     "WHERE i.inhparent = $1::regclass"]

def PGSQL_GET_CHILDREN_SIZE : CStr :=
  literal
    ["SELECT ",
     "    SUM(c.relpages::bigint) * 8192 ",
     "FROM pg_inherits i ",
     "JOIN pg_class c ON inhrelid = c.oid ",
     "WHERE i.inhparent = $1::regclass"]

def PGSQL_GET_CHILDREN_ROWS : CStr :=
  literal
    ["SELECT ",
     "    SUM(c.reltuples::bigint) ",
     "FROM pg_inherits i ",
     "JOIN pg_class c ON inhrelid = c.oid ",
     "WHERE i.inhparent = $1::regclass"]

def PG_TABLE_DISCOVERY (request : AGENT_REQUEST) : Agent S Ret :=
  discoverByMode request PGSQL_DISCOVER_TABLES

def PG_TABLE_CHILDREN_DISCOVERY (request : AGENT_REQUEST) : Agent S Ret :=
  requireName request "No table name specified".toList fun tablename => do
    let params ← param_new tablename
    pg_get_discovery request PGSQL_DISCOVER_TABLE_CHILDREN params

def PG_STAT_ALL_TABLES (request : AGENT_REQUEST) : Agent S Ret := do
  let field := request.key.drop 9
  let tablename := get_rparam request PARAM_FIRST
  let query := zbx_snprintf MAX_STRING_LEN
    (if strisnull tablename then PGSQL_GET_TABLE_STAT_SUM field else PGSQL_GET_TABLE_STAT field)
  if 0 = strncmp field "last_".toList 5 then
    if strisnull tablename then
      -- Can't do SUMs on text fields!
      let _ ← set_err_result .given "No table name specified".toList []
      return .SYSINFO_RET_FAIL
    else
      let params ← param_new tablename
      pg_get_string request query params
  else
    let params ← param_new tablename
    pg_get_int request query params

def PG_TABLE_IDX_SCAN_RATIO (request : AGENT_REQUEST) : Agent S Ret :=
  ratioByName request "pg_stat_all_tables".toList
    "sum(idx_scan)".toList "sum(seq_scan) + sum(idx_scan)".toList
    "idx_scan".toList "seq_scan + idx_scan".toList "relname".toList

def PG_STATIO_ALL_TABLES (request : AGENT_REQUEST) : Agent S Ret :=
  let field := request.key.drop 9
  intByName request (zbx_snprintf MAX_STRING_LEN (PGSQL_GET_TABLE_STATIO_SUM field))
    (zbx_snprintf MAX_STRING_LEN ( PGSQL_GET_TABLE_STATIO field))

def PG_TABLE_HEAP_BLKS_RATIO (request : AGENT_REQUEST) : Agent S Ret :=
  ratioByName request "pg_statio_all_tables".toList
    "sum(heap_blks_hit)".toList "sum(heap_blks_hit) + sum(heap_blks_read)".toList
    "heap_blks_hit".toList "heap_blks_hit + heap_blks_read".toList "relname".toList

def PG_TABLE_IDX_BLKS_RATIO (request : AGENT_REQUEST) : Agent S Ret :=
  ratioByName request "pg_statio_all_tables".toList
    "sum(idx_blks_hit)".toList "sum(idx_blks_hit) + sum(idx_blks_read)".toList
    "idx_blks_hit".toList "idx_blks_hit + idx_blks_read".toList "relname".toList

def PG_TABLE_TOAST_BLKS_RATIO (request : AGENT_REQUEST) : Agent S Ret :=
  ratioByName request "pg_statio_all_tables".toList
    "sum(toast_blks_hit)".toList "sum(toast_blks_hit) + sum(toast_blks_read)".toList
    "toast_blks_hit".toList "toast_blks_hit + toast_blks_read".toList "relname".toList

def PG_TABLE_TIDX_BLKS_RATIO (request : AGENT_REQUEST) : Agent S Ret :=
  ratioByName request "pg_statio_all_tables".toList
    "sum(tidx_blks_hit)".toList "sum(tidx_blks_hit) + sum(tidx_blks_read)".toList
    "tidx_blks_hit".toList "tidx_blks_hit + tidx_blks_read".toList "relname".toList

def PG_TABLE_SIZE (request : AGENT_REQUEST) : Agent S Ret :=
  intByName request PGSQL_GET_TABLE_SIZE_SUM PGSQL_GET_TABLE_SIZE

def PG_TABLE_ROWS (request : AGENT_REQUEST) : Agent S Ret :=
  intByName request PGSQL_GET_TABLE_ROWS_SUM PGSQL_GET_TABLE_ROWS

def tableNameMissing : CStr := "Invalid parameter count. Please specify a table name.".toList

def PG_TABLE_CHILDREN (request : AGENT_REQUEST) : Agent S Ret :=
  requireName request tableNameMissing fun tablename => do
    let params ← param_new tablename
    pg_get_int request PGSQL_GET_TABLE_CHILD_COUNT params

def PG_TABLE_CHILDREN_SIZE (request : AGENT_REQUEST) : Agent S Ret :=
  requireName request tableNameMissing fun tablename => do
    let params ← param_new tablename
    pg_get_int request PGSQL_GET_CHILDREN_SIZE params

def PG_TABLE_CHILDREN_ROWS (request : AGENT_REQUEST) : Agent S Ret :=
  requireName request tableNameMissing fun tablename => do
    let params ← param_new tablename
    pg_get_int request PGSQL_GET_CHILDREN_ROWS params

end LibZbxPgsql.TableKeys
