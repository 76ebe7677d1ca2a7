import LibZbxPgsql.ServerKeys
import LibZbxPgsql.BackendKeys
import LibZbxPgsql.QueryKeys
import LibZbxPgsql.DatabaseKeys
import LibZbxPgsql.TableKeys
import LibZbxPgsql.IndexKeys

set_option autoImplicit false

/-! `keys[]` of `libzbxpgsql.c`. -/
namespace LibZbxPgsql.ItemKeys
open CStrings AgentModel NamedQueries
open ServerKeys BackendKeys QueryKeys DatabaseKeys TableKeys IndexKeys

inductive Handler where
  | MODVER
  | PG_CONNECT
  | PG_VERSION
  | PG_STARTTIME
  | PG_UPTIME
  | PG_PREPARED_XACTS_COUNT
  | PG_PREPARED_XACTS_RATIO
  | PG_PREPARED_XACTS_AGE
  | PG_SETTING
  | PG_SETTING_DISCOVERY
  | PG_QUERY
  | PG_BACKENDS_COUNT
  | PG_BACKENDS_FREE
  | PG_BACKENDS_RATIO
  | PG_QUERIES_LONGEST
  | PG_STAT_BGWRITER
  | PG_BG_AVG_INTERVAL
  | PG_BG_TIME_RATIO
  | PG_BG_STATS_RESET_INTERVAL
  | PG_DB_DISCOVERY
  | PG_NAMESPACE_DISCOVERY
  | PG_TABLESPACE_DISCOVERY
  | PG_TABLE_DISCOVERY
  | PG_TABLE_CHILDREN_DISCOVERY
  | PG_INDEX_DISCOVERY
  | PG_DB_SIZE
  | PG_TABLE_SIZE
  | PG_TABLE_ROWS
  | PG_TABLE_CHILDREN
  | PG_TABLE_CHILDREN_SIZE
  | PG_TABLE_CHILDREN_ROWS
  | PG_INDEX_SIZE
  | PG_INDEX_ROWS
  | PG_TABLESPACE_SIZE
  | PG_NAMESPACE_SIZE
  | PG_STAT_DATABASE
  | PG_DB_BLKS_RATIO
  | PG_DB_XID_AGE
  | PG_STAT_ALL_TABLES
  | PG_TABLE_IDX_SCAN_RATIO
  | PG_STATIO_ALL_TABLES
  | PG_TABLE_HEAP_BLKS_RATIO
  | PG_TABLE_IDX_BLKS_RATIO
  | PG_TABLE_TOAST_BLKS_RATIO
  | PG_TABLE_TIDX_BLKS_RATIO
  | PG_STAT_ALL_INDEXES
  | PG_STATIO_ALL_INDEXES
  | PG_INDEX_IDX_BLKS_RATIO
  deriving DecidableEq

structure ZBX_METRIC where
  key : CStr
  function : Handler

def keys : List ZBX_METRIC :=
  [⟨"pg.modver".toList, .MODVER⟩,
   ⟨"pg.connect".toList, .PG_CONNECT⟩,
   ⟨"pg.version".toList, .PG_VERSION⟩,
   ⟨"pg.starttime".toList, .PG_STARTTIME⟩,
   ⟨"pg.uptime".toList, .PG_UPTIME⟩,
   ⟨"pg.prepared_xacts_count".toList, .PG_PREPARED_XACTS_COUNT⟩,
   ⟨"pg.prepared_xacts_ratio".toList, Handler.PG_PREPARED_XACTS_RATIO⟩,
   ⟨"pg.prepared_xacts_age".toList, .PG_PREPARED_XACTS_AGE⟩,
   ⟨"pg.setting".toList, .PG_SETTING⟩,
   ⟨"pg.setting.discovery".toList, .PG_SETTING_DISCOVERY⟩,
   ⟨"pg.query.string".toList, .PG_QUERY⟩,
   ⟨"pg.query.integer".toList, .PG_QUERY⟩,
   ⟨"pg.query.double".toList, .PG_QUERY⟩,
   ⟨"pg.query.discovery".toList, .PG_QUERY⟩,
   ⟨"pg.backends.count".toList, .PG_BACKENDS_COUNT⟩,
   ⟨"pg.backends.free".toList, .PG_BACKENDS_FREE⟩,
   ⟨"pg.backends.ratio".toList, Handler.PG_BACKENDS_RATIO⟩,
   ⟨"pg.queries.longest".toList, .PG_QUERIES_LONGEST⟩,
   ⟨"pg.checkpoints_timed".toList, .PG_STAT_BGWRITER⟩,
   ⟨"pg.checkpoints_req".toList, .PG_STAT_BGWRITER⟩,
   ⟨"pg.checkpoint_write_time".toList, .PG_STAT_BGWRITER⟩,
   ⟨"pg.checkpoint_sync_time".toList, .PG_STAT_BGWRITER⟩,
   ⟨"pg.checkpoint_avg_interval".toList, .PG_BG_AVG_INTERVAL⟩,
   ⟨"pg.checkpoint_time_ratio".toList, Handler.PG_BG_TIME_RATIO⟩,
   ⟨"pg.buffers_checkpoint".toList, .PG_STAT_BGWRITER⟩,
   ⟨"pg.buffers_clean".toList, .PG_STAT_BGWRITER⟩,
   ⟨"pg.maxwritten_clean".toList, .PG_STAT_BGWRITER⟩,
   ⟨"pg.buffers_backend".toList, .PG_STAT_BGWRITER⟩,
   ⟨"pg.buffers_backend_fsync".toList, .PG_STAT_BGWRITER⟩,
   ⟨"pg.buffers_alloc".toList, .PG_STAT_BGWRITER⟩,
   ⟨"pg.stats_reset".toList, .PG_STAT_BGWRITER⟩,
   ⟨"pg.stats_reset_interval".toList, .PG_BG_STATS_RESET_INTERVAL⟩,
   ⟨"pg.db.discovery".toList, .PG_DB_DISCOVERY⟩,
   ⟨"pg.namespace.discovery".toList, .PG_NAMESPACE_DISCOVERY⟩,
   ⟨"pg.schema.discovery".toList, .PG_NAMESPACE_DISCOVERY⟩,
   ⟨"pg.tablespace.discovery".toList, .PG_TABLESPACE_DISCOVERY⟩,
   ⟨"pg.table.discovery".toList, .PG_TABLE_DISCOVERY⟩,
   ⟨"pg.table.children.discovery".toList, .PG_TABLE_CHILDREN_DISCOVERY⟩,
   ⟨"pg.index.discovery".toList, .PG_INDEX_DISCOVERY⟩,
   ⟨"pg.db.size".toList, .PG_DB_SIZE⟩,
   ⟨"pg.table.size".toList, .PG_TABLE_SIZE⟩,
   ⟨"pg.table.rows".toList, .PG_TABLE_ROWS⟩,
   ⟨"pg.table.children".toList, .PG_TABLE_CHILDREN⟩,
   ⟨"pg.table.children.size".toList, .PG_TABLE_CHILDREN_SIZE⟩,
   ⟨"pg.table.children.rows".toList, .PG_TABLE_CHILDREN_ROWS⟩,
   ⟨"pg.index.size".toList, .PG_INDEX_SIZE⟩,
   ⟨"pg.index.rows".toList, .PG_INDEX_ROWS⟩,
   ⟨"pg.tablespace.size".toList, .PG_TABLESPACE_SIZE⟩,
   ⟨"pg.namespace.size".toList, .PG_NAMESPACE_SIZE⟩,
   ⟨"pg.schema.size".toList, .PG_NAMESPACE_SIZE⟩,
   ⟨"pg.db.numbackends".toList, .PG_STAT_DATABASE⟩,
   ⟨"pg.db.xact_commit".toList, .PG_STAT_DATABASE⟩,
   ⟨"pg.db.xact_rollback".toList, .PG_STAT_DATABASE⟩,
   ⟨"pg.db.blks_read".toList, .PG_STAT_DATABASE⟩,
   ⟨"pg.db.blks_hit".toList, .PG_STAT_DATABASE⟩,
   ⟨"pg.db.blks_ratio".toList, Handler.PG_DB_BLKS_RATIO⟩,
   ⟨"pg.db.tup_returned".toList, .PG_STAT_DATABASE⟩,
   ⟨"pg.db.tup_fetched".toList, .PG_STAT_DATABASE⟩,
   ⟨"pg.db.tup_inserted".toList, .PG_STAT_DATABASE⟩,
   ⟨"pg.db.tup_updated".toList, .PG_STAT_DATABASE⟩,
   ⟨"pg.db.tup_deleted".toList, .PG_STAT_DATABASE⟩,
   ⟨"pg.db.conflicts".toList, .PG_STAT_DATABASE⟩,
   ⟨"pg.db.temp_files".toList, .PG_STAT_DATABASE⟩,
   ⟨"pg.db.temp_bytes".toList, .PG_STAT_DATABASE⟩,
   ⟨"pg.db.deadlocks".toList, .PG_STAT_DATABASE⟩,
   ⟨"pg.db.blk_read_time".toList, .PG_STAT_DATABASE⟩,
   ⟨"pg.db.blk_write_time".toList, .PG_STAT_DATABASE⟩,
   ⟨"pg.db.stats_reset".toList, .PG_STAT_DATABASE⟩,
   ⟨"pg.db.xid_age".toList, .PG_DB_XID_AGE⟩,
   ⟨"pg.table.seq_scan".toList, .PG_STAT_ALL_TABLES⟩,
   ⟨"pg.table.seq_tup_read".toList, .PG_STAT_ALL_TABLES⟩,
   ⟨"pg.table.idx_scan".toList, .PG_STAT_ALL_TABLES⟩,
   ⟨"pg.table.idx_scan_ratio".toList, Handler.PG_TABLE_IDX_SCAN_RATIO⟩,
   ⟨"pg.table.idx_tup_fetch".toList, .PG_STAT_ALL_TABLES⟩,
   ⟨"pg.table.n_tup_ins".toList, .PG_STAT_ALL_TABLES⟩,
   ⟨"pg.table.n_tup_upd".toList, .PG_STAT_ALL_TABLES⟩,
   ⟨"pg.table.n_tup_del".toList, .PG_STAT_ALL_TABLES⟩,
   ⟨"pg.table.n_tup_hot_upd".toList, .PG_STAT_ALL_TABLES⟩,
   ⟨"pg.table.n_live_tup".toList, .PG_STAT_ALL_TABLES⟩,
   ⟨"pg.table.n_dead_tup".toList, .PG_STAT_ALL_TABLES⟩,
   ⟨"pg.table.n_mod_since_analyze".toList, .PG_STAT_ALL_TABLES⟩,
   ⟨"pg.table.last_vacuum".toList, .PG_STAT_ALL_TABLES⟩,
   ⟨"pg.table.last_autovacuum".toList, .PG_STAT_ALL_TABLES⟩,
   ⟨"pg.table.last_analyze".toList, .PG_STAT_ALL_TABLES⟩,
   ⟨"pg.table.last_autoanalyze".toList, .PG_STAT_ALL_TABLES⟩,
   ⟨"pg.table.vacuum_count".toList, .PG_STAT_ALL_TABLES⟩,
   ⟨"pg.table.autovacuum_count".toList, .PG_STAT_ALL_TABLES⟩,
   ⟨"pg.table.analyze_count".toList, .PG_STAT_ALL_TABLES⟩,
   ⟨"pg.table.autoanalyze_count".toList, .PG_STAT_ALL_TABLES⟩,
   ⟨"pg.table.heap_blks_read".toList, .PG_STATIO_ALL_TABLES⟩,
   ⟨"pg.table.heap_blks_hit".toList, .PG_STATIO_ALL_TABLES⟩,
   ⟨"pg.table.heap_blks_ratio".toList, Handler.PG_TABLE_HEAP_BLKS_RATIO⟩,
   ⟨"pg.table.idx_blks_read".toList, .PG_STATIO_ALL_TABLES⟩,
   ⟨"pg.table.idx_blks_hit".toList, .PG_STATIO_ALL_TABLES⟩,
   ⟨"pg.table.idx_blks_ratio".toList, Handler.PG_TABLE_IDX_BLKS_RATIO⟩,
   ⟨"pg.table.toast_blks_read".toList, .PG_STATIO_ALL_TABLES⟩,
   ⟨"pg.table.toast_blks_hit".toList, .PG_STATIO_ALL_TABLES⟩,
   ⟨"pg.table.toast_blks_ratio".toList, Handler.PG_TABLE_TOAST_BLKS_RATIO⟩,
   ⟨"pg.table.tidx_blks_read".toList, .PG_STATIO_ALL_TABLES⟩,
   ⟨"pg.table.tidx_blks_hit".toList, .PG_STATIO_ALL_TABLES⟩,
   ⟨"pg.table.tidx_blks_ratio".toList, Handler.PG_TABLE_TIDX_BLKS_RATIO⟩,
   ⟨"pg.index.idx_scan".toList, .PG_STAT_ALL_INDEXES⟩,
   ⟨"pg.index.idx_tup_read".toList, .PG_STAT_ALL_INDEXES⟩,
   ⟨"pg.index.idx_tup_fetch".toList, .PG_STAT_ALL_INDEXES⟩,
   ⟨"pg.index.idx_blks_read".toList, .PG_STATIO_ALL_INDEXES⟩,
   ⟨"pg.index.idx_blks_hit".toList, .PG_STATIO_ALL_INDEXES⟩,
   ⟨"pg.index.idx_blks_ratio".toList, Handler.PG_INDEX_IDX_BLKS_RATIO⟩]

/-- What the handlers use besides the request: the queries loaded from the configuration,
    the C library's `inet_pton` and the version of Zabbix compiled for. -/
structure Globals where
  queries : Table
  inet_pton : AddressFamily → CStr → Bool
  ZABBIX_VERSION : CStr

def call {S : Server} (g : Globals) (request : AGENT_REQUEST) : Handler → Agent S Ret
  | .MODVER => MODVER g.ZABBIX_VERSION request
  | .PG_CONNECT => PG_CONNECT request
  | .PG_VERSION => PG_VERSION request
  | .PG_STARTTIME => PG_STARTTIME request
  | .PG_UPTIME => PG_UPTIME request
  | .PG_PREPARED_XACTS_COUNT => PG_PREPARED_XACTS_COUNT request
  | Handler.PG_PREPARED_XACTS_RATIO => PG_PREPARED_XACTS_RATIO request
  | .PG_PREPARED_XACTS_AGE => PG_PREPARED_XACTS_AGE request
  | .PG_SETTING => PG_SETTING request
  | .PG_SETTING_DISCOVERY => PG_SETTING_DISCOVERY request
  | .PG_QUERY => PG_QUERY g.queries request
  | .PG_BACKENDS_COUNT => PG_BACKENDS_COUNT g.inet_pton request
  | .PG_BACKENDS_FREE => PG_BACKENDS_FREE request
  | Handler.PG_BACKENDS_RATIO => PG_BACKENDS_RATIO request
  | .PG_QUERIES_LONGEST => PG_QUERIES_LONGEST g.inet_pton request
  | .PG_STAT_BGWRITER => PG_STAT_BGWRITER request
  | .PG_BG_AVG_INTERVAL => PG_BG_AVG_INTERVAL request
  | Handler.PG_BG_TIME_RATIO => PG_BG_TIME_RATIO request
  | .PG_BG_STATS_RESET_INTERVAL => PG_BG_STATS_RESET_INTERVAL request
  | .PG_DB_DISCOVERY => PG_DB_DISCOVERY request
  | .PG_NAMESPACE_DISCOVERY => PG_NAMESPACE_DISCOVERY request
  | .PG_TABLESPACE_DISCOVERY => PG_TABLESPACE_DISCOVERY request
  | .PG_TABLE_DISCOVERY => PG_TABLE_DISCOVERY request
  | .PG_TABLE_CHILDREN_DISCOVERY => PG_TABLE_CHILDREN_DISCOVERY request
  | .PG_INDEX_DISCOVERY => PG_INDEX_DISCOVERY request
  | .PG_DB_SIZE => PG_DB_SIZE request
  | .PG_TABLE_SIZE => PG_TABLE_SIZE request
  | .PG_TABLE_ROWS => PG_TABLE_ROWS request
  | .PG_TABLE_CHILDREN => PG_TABLE_CHILDREN request
  | .PG_TABLE_CHILDREN_SIZE => PG_TABLE_CHILDREN_SIZE request
  | .PG_TABLE_CHILDREN_ROWS => PG_TABLE_CHILDREN_ROWS request
  | .PG_INDEX_SIZE => PG_INDEX_SIZE request
  | .PG_INDEX_ROWS => PG_INDEX_ROWS request
  | .PG_TABLESPACE_SIZE => PG_TABLESPACE_SIZE request
  | .PG_NAMESPACE_SIZE => PG_NAMESPACE_SIZE request
  | .PG_STAT_DATABASE => PG_STAT_DATABASE request
  | Handler.PG_DB_BLKS_RATIO => PG_DB_BLKS_RATIO request
  | .PG_DB_XID_AGE => PG_DB_XID_AGE request
  | .PG_STAT_ALL_TABLES => PG_STAT_ALL_TABLES request
  | Handler.PG_TABLE_IDX_SCAN_RATIO => PG_TABLE_IDX_SCAN_RATIO request
  | .PG_STATIO_ALL_TABLES => PG_STATIO_ALL_TABLES request
  | Handler.PG_TABLE_HEAP_BLKS_RATIO => PG_TABLE_HEAP_BLKS_RATIO request
  | Handler.PG_TABLE_IDX_BLKS_RATIO => PG_TABLE_IDX_BLKS_RATIO request
  | Handler.PG_TABLE_TOAST_BLKS_RATIO => PG_TABLE_TOAST_BLKS_RATIO request
  | Handler.PG_TABLE_TIDX_BLKS_RATIO => PG_TABLE_TIDX_BLKS_RATIO request
  | .PG_STAT_ALL_INDEXES => PG_STAT_ALL_INDEXES request
  | .PG_STATIO_ALL_INDEXES => PG_STATIO_ALL_INDEXES request
  | Handler.PG_INDEX_IDX_BLKS_RATIO => PG_INDEX_IDX_BLKS_RATIO request

end LibZbxPgsql.ItemKeys
