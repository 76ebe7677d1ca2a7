import LibZbxPgsql.KeyFamilies

set_option autoImplicit false

/-! `pg_database.c`, `pg_namespace.c` and `pg_tablespace.c`. -/
namespace LibZbxPgsql.DatabaseKeys
open CStrings PrintfFormat AgentModel Connections Drivers Discovery KeyFamilies
variable {S : Server}

def PGSQL_DISCOVER_DBS : CStr :=
  literal
    ["SELECT ",
     "    d.oid as oid, ",
     "    d.datname as path, ",
     "    d.datname as database, ",
     "    pg_catalog.pg_encoding_to_char(d.encoding) as encoding, ",
     "    d.datcollate as lc_collate, ",
     "    d.datctype as lc_ctype, ",
     "    pg_catalog.pg_get_userbyid(d.datdba) as owner, ",
     "    t.spcname as tablespace, ",
     "    pg_catalog.shobj_description(d.oid, 'pg_database') as description ",
     "FROM pg_catalog.pg_database d ",
     "    JOIN pg_catalog.pg_tablespace t on d.dattablespace = t.oid ",
     "WHERE ",
     "    d.datallowconn = 't' ",
     "    AND d.datistemplate = 'n' ",
     "ORDER BY 1;"]

def PGSQL_GET_DB_STAT (field : CStr) : CStr :=
  "SELECT ".toList ++ field ++ " FROM pg_stat_database WHERE datname = $1".toList

def PGSQL_GET_DB_STAT_SUM (field : CStr) : CStr :=
  "SELECT SUM(".toList ++ field ++ "::bigint) FROM pg_stat_database".toList

def PGSQL_GET_DB_SIZE : CStr :=
  literal
    ["SELECT pg_catalog.pg_database_size(d.datname) FROM pg_catalog.pg_database d WHERE ",
     "d.datname = $1"]

def PGSQL_GET_DB_SIZE_SUM : CStr :=
  literal
    ["SELECT SUM(pg_catalog.pg_database_size(d.datname)::bigint) FROM ",
     "pg_catalog.pg_database d"]

def PG_DB_DISCOVERY (request : AGENT_REQUEST) : Agent S Ret :=
  pg_get_discovery request PGSQL_DISCOVER_DBS none

def PG_STAT_DATABASE (request : AGENT_REQUEST) : Agent S Ret := do
  -- No escaping needed as the fields are hard coded
  let field := request.key.drop 6
  let datname := get_rparam request PARAM_FIRST
  let query := zbx_snprintf MAX_STRING_LEN
    (if strisnull datname then PGSQL_GET_DB_STAT_SUM field else PGSQL_GET_DB_STAT field)
  let datname := if strisnull datname then none else datname
  if 0 = strncmp field "stats_reset".toList 11 then
    if strisnull datname then
      -- Can't do SUMs on text fields!
      let _ ← set_err_result .given "No database specified".toList []
      return .SYSINFO_RET_FAIL
    else
      let params ← param_new datname
      pg_get_string request query params
  else if 0 = strncmp field "blk_".toList 4 then
    let params ← param_new datname
    pg_get_dbl request query params
  else
    let params ← param_new datname
    pg_get_int request query params

def PG_DB_BLKS_RATIO (request : AGENT_REQUEST) : Agent S Ret :=
  ratioByName request "pg_stat_database".toList
    "sum(blks_hit)".toList "sum(blks_hit) + sum(blks_read)".toList
    "blks_hit".toList "blks_hit + blks_read".toList "datname".toList

/-- `datname` is made NULL where it is empty. -/
def databaseInt (request : AGENT_REQUEST) (all one : CStr) : Agent S Ret := do
  let datname := get_rparam request PARAM_FIRST
  let query := if strisnull datname then all else one
  let datname := if strisnull datname then none else datname
  let params ← param_new datname
  pg_get_int request query params

def PG_DB_SIZE (request : AGENT_REQUEST) : Agent S Ret :=
  databaseInt request PGSQL_GET_DB_SIZE_SUM PGSQL_GET_DB_SIZE

def dbXidAgeMax : CStr := "SELECT MAX(AGE(datfrozenxid)) FROM pg_database;".toList

def dbXidAge : CStr := "SELECT AGE(datfrozenxid) FROM pg_database WHERE datname = $1;".toList

def PG_DB_XID_AGE (request : AGENT_REQUEST) : Agent S Ret :=
  databaseInt request dbXidAgeMax dbXidAge

def PGSQL_DISCOVER_NAMESPACES : CStr :=
  literal
    ["SELECT  ",
     "  n.oid AS oid, ",
     "  current_database() || '.' || n.nspname AS path, ",
     "  n.nspname AS schema, ",
     "  n.nspname AS namespace, ",
     "  current_database() AS database, ",
     "  pg_catalog.pg_get_userbyid(n.nspowner) AS owner, ",
     "  pg_catalog.obj_description(n.oid, 'pg_namespace') AS description ",
     "FROM pg_catalog.pg_namespace n ",
     "WHERE  ",
     "  n.nspname !~ '^pg_'  ",
     "  AND n.nspname <> 'information_schema' ",
     "ORDER BY namespace;"]

def PGSQL_GET_NS_SIZE : CStr :=
  literal
    ["SELECT ",
     "  SUM(pg_relation_size(quote_ident(schemaname) || '.' || ",
     "quote_ident(tablename))::bigint) ",
     "FROM pg_tables ",
     "WHERE schemaname = $1"]

def PG_NAMESPACE_DISCOVERY (request : AGENT_REQUEST) : Agent S Ret :=
  discoverByMode request PGSQL_DISCOVER_NAMESPACES

def PG_NAMESPACE_SIZE (request : AGENT_REQUEST) : Agent S Ret :=
  requireName request "No schema name specified".toList fun schema => do
    let params ← param_new schema
    pg_get_int request PGSQL_GET_NS_SIZE params

def PGSQL_DISCOVER_TABLESPACES : CStr :=
  literal
    ["SELECT  ",
     "  t.oid AS oid ",
     "  , t.spcname AS tablespace ",
     "  , pg_catalog.pg_get_userbyid(spcowner) AS owner ",
     "  , pg_catalog.shobj_description(oid, 'pg_tablespace') AS description ",
     "FROM pg_catalog.pg_tablespace t ",
     "ORDER BY t.spcname;"]

def PGSQL_DISCOVER_TABLESPACES_92 : CStr :=
  literal
    ["SELECT  ",
     "  t.oid AS oid ",
     "  , t.spcname AS tablespace ",
     "  , pg_catalog.pg_get_userbyid(spcowner) AS owner ",
     "  , pg_catalog.pg_tablespace_location(oid) AS location ",
     "  , pg_catalog.shobj_description(oid, 'pg_tablespace') AS description ",
     "FROM pg_catalog.pg_tablespace t ",
     "ORDER BY t.spcname;"]

def PGSQL_GET_TS_SIZE : CStr :=
  "SELECT pg_tablespace_size($1)".toList

def PG_TABLESPACE_DISCOVERY (request : AGENT_REQUEST) : Agent S Ret := do
  let version := toInt (← pg_version request)
  if 0 = version then
    return .SYSINFO_RET_FAIL
  else if version ≥ 90200 then
    -- tablespace location introduced in v9.2
    pg_get_discovery request PGSQL_DISCOVER_TABLESPACES_92 none
  else
    pg_get_discovery request PGSQL_DISCOVER_TABLESPACES none

def PG_TABLESPACE_SIZE (request : AGENT_REQUEST) : Agent S Ret :=
  requireName request "No tablespace specified".toList fun tablespace => do
    let params ← param_new tablespace
    pg_get_int request PGSQL_GET_TS_SIZE params

end LibZbxPgsql.DatabaseKeys
