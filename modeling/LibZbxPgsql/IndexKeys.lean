import LibZbxPgsql.KeyFamilies

set_option autoImplicit false

/-! `pg_index.c`. -/
namespace LibZbxPgsql.IndexKeys
open CStrings PrintfFormat AgentModel Connections Drivers Discovery KeyFamilies
variable {S : Server}

def PGSQL_DISCOVER_INDEXES : CStr :=
  literal
    ["SELECT ",
     "    ic.oid AS oid ",
     "    , current_database() || '.' || n.nspname || '.' || t.relname || '.' || ic.relname ",
     "AS path ",
     "    , ic.relname AS index ",
     "    , current_database() AS database ",
     "    , n.nspname AS schema ",
     "    , t.relname AS table ",
     "    , a.rolname AS owner ",
     "    , m.amname AS access ",
     "FROM pg_index i ",
     "JOIN pg_class ic ON ic.oid = i.indexrelid ",
     "JOIN pg_namespace n ON n.oid = ic.relnamespace ",
     "JOIN pg_roles a ON a.oid = ic.relowner ",
     "JOIN pg_class t ON t.oid = i.indrelid ",
     "JOIN pg_am m ON m.oid = ic.relam ",
     "WHERE ",
     "    n.nspname <> 'pg_catalog' ",
     "    AND n.nspname <> 'information_schema' ",
     "    AND n.nspname !~ '^pg_toast'"]

def PGSQL_GET_INDEX_STATIO_SUM (field : CStr) : CStr :=
  "SELECT SUM(".toList ++ field ++
  literal
    ["::bigint) FROM pg_statio_all_indexes ",
     "WHERE ",
     "    schemaname !~ '^pg_toast' ",
     "    AND schemaname <> 'pg_catalog' ",
     "    AND schemaname <> 'information_schema'"]

def PGSQL_GET_INDEX_SIZE : CStr :=
  literal
    ["SELECT ",
     "    relpages::bigint * 8192 ",
     "FROM pg_class ",
     "WHERE ",
     "    relkind='i' ",
     "    AND relname = $1"]

def PGSQL_GET_INDEX_SIZE_SUM : CStr :=
  literal
    ["SELECT ",
     "    SUM(relpages::bigint * 8192) ",
     "FROM pg_class WHERE relkind='i'"]

def PGSQL_GET_INDEX_ROWS : CStr :=
  literal
    ["SELECT ",
     "    reltuples ",
     "FROM pg_class ",
     "WHERE ",
     "    relkind='i' ",
     "    AND relname = $1"]

def PGSQL_GET_INDEX_ROWS_SUM : CStr :=
  literal
    ["SELECT ",
     "    SUM(reltuples::bigint) ",
     "FROM pg_class ",
     "WHERE relkind='i'"]

def appendWithin (size : ℕ) (query buffer : CStr) : Agent S CStr :=
  if size < query.length + buffer.length + 1 then throw .bufferOverrun
  else return strcat2 query (some buffer)

/-- A filter by name, through the array `buffer`. -/
def appendFilter (query : CStr) (column : CStr) (param : Option CStr) : Agent S CStr :=
  match param with
  | none => return query
  | some [] => return query
  | some (c :: name) =>
    let buffer := zbx_snprintf MAX_STRING_LEN
      (" AND ".toList ++ column ++ " = '".toList ++ (c :: name) ++ "'".toList)
    appendWithin MAX_STRING_LEN query buffer

def PG_INDEX_DISCOVERY (request : AGENT_REQUEST) : Agent S Ret := do
  let query := zbx_strlcpy PGSQL_DISCOVER_INDEXES MAX_STRING_LEN
  -- filter by schema name
  let query ← appendFilter query "n.nspname".toList (get_rparam request (PARAM_FIRST + 1))
  -- filter by table name
  let query ← appendFilter query "t.relname".toList (get_rparam request (PARAM_FIRST + 2))
  discoverByMode request query

def indexStatSum (field : CStr) : CStr :=
  "SELECT SUM(".toList ++ field ++ ") FROM pg_stat_all_indexes".toList

def indexStat (field : CStr) : CStr :=
  "SELECT ".toList ++ field ++ " FROM pg_stat_all_indexes WHERE indexrelname = $1".toList

/-- The part of `PG_STAT_ALL_INDEXES` after its query is built. -/
def readIndexStat (request : AGENT_REQUEST) (query : CStr) (index : Option CStr) :
    Agent S Ret := do
  let conn ← pg_connect_request request .given
  match conn with
  | none =>
    clearAndFinish none none
    return .SYSINFO_RET_FAIL
  | some conn =>
    let params ← param_new index
    let res ← pg_exec conn query params
    if PQresultStatus res ≠ .PGRES_TUPLES_OK then
      let _ ← set_err_result .given "PostgreSQL query error: %s".toList
        [.string (PQresultErrorMessage res)]
      clearAndFinish res (some conn)
      return .SYSINFO_RET_FAIL
    else if 0 = PQntuples res then
      let _ ← set_err_result .given "No results returned for query: %s".toList [.string query]
      clearAndFinish res (some conn)
      return .SYSINFO_RET_FAIL
    else
      let buffer ← deref (PQgetvalue res 0 0)
      SET_UI64_RESULT (toUInt64 (atoi buffer))
      clearAndFinish res (some conn)
      return .SYSINFO_RET_OK

def PG_STAT_ALL_INDEXES (request : AGENT_REQUEST) : Agent S Ret :=
  let field := request.key.drop 9
  let index := get_rparam request PARAM_FIRST
  let query := zbx_snprintf MAX_STRING_LEN
    (if strisnull index then indexStatSum field else indexStat field)
  readIndexStat request query index

def indexStatio (field : CStr) : CStr :=
  "SELECT ".toList ++ field ++ " FROM pg_statio_all_indexes WHERE indexrelname = $1".toList

def PG_STATIO_ALL_INDEXES (request : AGENT_REQUEST) : Agent S Ret :=
  let field := request.key.drop 9
  intByName request (zbx_snprintf MAX_STRING_LEN (PGSQL_GET_INDEX_STATIO_SUM field))
    (zbx_snprintf MAX_STRING_LEN (indexStatio field))

def PG_INDEX_IDX_BLKS_RATIO (request : AGENT_REQUEST) : Agent S Ret :=
  ratioByName request "pg_statio_all_indexes".toList
    "sum(idx_blks_hit)".toList "sum(idx_blks_hit) + sum(idx_blks_read)".toList
    "idx_blks_hit".toList "idx_blks_hit + idx_blks_read".toList "indexrelname".toList

def PG_INDEX_SIZE (request : AGENT_REQUEST) : Agent S Ret := do
  let index := get_rparam request PARAM_FIRST
  if strisnull index then
    pg_get_int request PGSQL_GET_INDEX_SIZE_SUM none
  else
    let params ← param_new index
    pg_get_int request PGSQL_GET_INDEX_SIZE params

def PG_INDEX_ROWS (request : AGENT_REQUEST) : Agent S Ret :=
  intByName request PGSQL_GET_INDEX_ROWS_SUM PGSQL_GET_INDEX_ROWS

end LibZbxPgsql.IndexKeys
