import LibZbxPgsql.ClauseTokens

set_option autoImplicit false

namespace LibZbxPgsql.StatementTexts
open CStrings PrintfFormat AgentModel Connections Drivers Discovery
open ServerKeys BackendKeys QueryKeys DatabaseKeys TableKeys IndexKeys ItemKeys
open Dialogues Sessions DialogueRefinement DriverDialogues HandlerPlans KeyPlans
open ActivityClauses SqlTokens ClauseTokens

def timeRatioQuery (field : CStr) : CStr :=
  zbx_snprintf MAX_STRING_LEN (pgsql_bg_time_ratio field)

def backendsRatioQuery (pid : CStr) : CStr := zbx_snprintf MAX_QUERY_LEN (backendsRatio pid)

inductive ServerText where
  | version_num
  | version
  | starttime
  | uptime
  | prepared_count
  | prepared_count_of
  | prepared_ratio
  | prepared_age
  | prepared_age_of
  | avg_interval
  | stats_reset_interval
  | checkpoint_time
  | checkpoint_write_time
  | checkpoint_sync_time
  | setting
  | settings
  | backends_free
  | backends_ratio_procpid
  | backends_ratio

namespace ServerText

def text : ServerText → CStr
  | version_num => PGSQL_VERSION_NUM
  | version => PGSQL_GET_VERSION
  | starttime => PGSQL_GET_STARTTIME
  | uptime => PGSQL_GET_UPTIME
  | prepared_count => preparedXactsCount
  | prepared_count_of => preparedXactsCountOf
  | prepared_ratio => preparedXactsRatio
  | prepared_age => preparedXactsAge
  | prepared_age_of => preparedXactsAgeOf
  | avg_interval => pgsql_bg_avg_interval
  | stats_reset_interval => pgsql_stats_reset_interval
  | checkpoint_time => timeRatioQuery "(checkpoint_write_time + checkpoint_sync_time)".toList
  | checkpoint_write_time => timeRatioQuery "checkpoint_write_time".toList
  | checkpoint_sync_time => timeRatioQuery "checkpoint_sync_time".toList
  | setting => PGSQL_GET_SETTING
  | settings => PGSQL_DISCOVER_SETTINGS
  | backends_free => backendsFree
  | backends_ratio_procpid => backendsRatioQuery "procpid".toList
  | backends_ratio => backendsRatioQuery "pid".toList

def places : ServerText → ℕ
  | prepared_count_of | prepared_age_of | setting => 1
  | _ => 0

def every : List ServerText :=
  [version_num, version, starttime, uptime, prepared_count, prepared_count_of, prepared_ratio,
   prepared_age, prepared_age_of, avg_interval, stats_reset_interval, checkpoint_time,
   checkpoint_write_time, checkpoint_sync_time, setting, settings, backends_free,
   backends_ratio_procpid, backends_ratio]

theorem mem_every (t : ServerText) : t ∈ every := by
  cases t <;> simp [every]

end ServerText

set_option maxRecDepth 8000 in
theorem server_numbered (t : ServerText) : Numbered t.text t.places := by
  have all : ∀ t ∈ ServerText.every.map fun t => (t.text, t.places), Numbered t.1 t.2 := by
    unfold ServerText.every
    simp only [List.map_cons, List.map_nil, ServerText.text]
    unfold PGSQL_VERSION_NUM PGSQL_GET_VERSION PGSQL_GET_STARTTIME PGSQL_GET_UPTIME
      preparedXactsCount preparedXactsCountOf preparedXactsRatio preparedXactsAge
      preparedXactsAgeOf pgsql_bg_avg_interval pgsql_stats_reset_interval timeRatioQuery
      pgsql_bg_time_ratio PGSQL_GET_SETTING PGSQL_DISCOVER_SETTINGS backendsFree
      backendsRatioQuery backendsRatio
    simp only [literal, List.flatMap_cons, List.flatMap_nil]
    -- a list of characters is read faster than a string
    repeat rw [String.toList_ofList]
    decide
  exact all (t.text, t.places) (List.mem_map_of_mem t.mem_every)

inductive DatabaseText where
  | connectable
  | databases
  | size
  | size_sum
  | xid_age_max
  | xid_age
  | namespaces
  | namespace_size
  | tablespaces
  | tablespaces_92
  | tablespace_size

namespace DatabaseText

def text : DatabaseText → CStr
  | connectable => PGSQL_CONNECTABLE_DATABASES
  | databases => PGSQL_DISCOVER_DBS
  | size => PGSQL_GET_DB_SIZE
  | size_sum => PGSQL_GET_DB_SIZE_SUM
  | xid_age_max => dbXidAgeMax
  | xid_age => dbXidAge
  | namespaces => PGSQL_DISCOVER_NAMESPACES
  | namespace_size => PGSQL_GET_NS_SIZE
  | tablespaces => PGSQL_DISCOVER_TABLESPACES
  | tablespaces_92 => PGSQL_DISCOVER_TABLESPACES_92
  | tablespace_size => PGSQL_GET_TS_SIZE

def places : DatabaseText → ℕ
  | size | xid_age | namespace_size | tablespace_size => 1
  | _ => 0

def every : List DatabaseText :=
  [connectable, databases, size, size_sum, xid_age_max, xid_age, namespaces, namespace_size,
   tablespaces, tablespaces_92, tablespace_size]

theorem mem_every (t : DatabaseText) : t ∈ every := by
  cases t <;> simp [every]

end DatabaseText

set_option maxRecDepth 8000 in
theorem database_numbered (t : DatabaseText) : Numbered t.text t.places := by
  have all : ∀ t ∈ DatabaseText.every.map fun t => (t.text, t.places), Numbered t.1 t.2 := by
    unfold DatabaseText.every
    simp only [List.map_cons, List.map_nil, DatabaseText.text]
    unfold PGSQL_CONNECTABLE_DATABASES PGSQL_DISCOVER_DBS PGSQL_GET_DB_SIZE
      PGSQL_GET_DB_SIZE_SUM dbXidAgeMax dbXidAge PGSQL_DISCOVER_NAMESPACES PGSQL_GET_NS_SIZE
      PGSQL_DISCOVER_TABLESPACES PGSQL_DISCOVER_TABLESPACES_92 PGSQL_GET_TS_SIZE
    simp only [literal, List.flatMap_cons, List.flatMap_nil]
    repeat rw [String.toList_ofList]
    decide
  exact all (t.text, t.places) (List.mem_map_of_mem t.mem_every)

inductive RelationText where
  | tables
  | children
  | table_size
  | table_size_sum
  | table_rows_sum
  | table_rows
  | child_count
  | children_size
  | children_rows
  | index_size
  | index_size_sum
  | index_rows
  | index_rows_sum

namespace RelationText

def text : RelationText → CStr
  | tables => PGSQL_DISCOVER_TABLES
  | children => PGSQL_DISCOVER_TABLE_CHILDREN
  | table_size => PGSQL_GET_TABLE_SIZE
  | table_size_sum => PGSQL_GET_TABLE_SIZE_SUM
  | table_rows_sum => PGSQL_GET_TABLE_ROWS_SUM
  | table_rows => PGSQL_GET_TABLE_ROWS
  | child_count => PGSQL_GET_TABLE_CHILD_COUNT
  | children_size => PGSQL_GET_CHILDREN_SIZE
  | children_rows => PGSQL_GET_CHILDREN_ROWS
  | index_size => PGSQL_GET_INDEX_SIZE
  | index_size_sum => PGSQL_GET_INDEX_SIZE_SUM
  | index_rows => PGSQL_GET_INDEX_ROWS
  | index_rows_sum => PGSQL_GET_INDEX_ROWS_SUM

def places : RelationText → ℕ
  | tables | table_size_sum | table_rows_sum | index_size_sum | index_rows_sum => 0
  | _ => 1

def every : List RelationText :=
  [tables, children, table_size, table_size_sum, table_rows_sum, table_rows, child_count,
   children_size, children_rows, index_size, index_size_sum, index_rows, index_rows_sum]

theorem mem_every (t : RelationText) : t ∈ every := by
  cases t <;> simp [every]

end RelationText

set_option maxRecDepth 8000 in
theorem relation_numbered (t : RelationText) : Numbered t.text t.places := by
  have all : ∀ t ∈ RelationText.every.map fun t => (t.text, t.places), Numbered t.1 t.2 := by
    unfold RelationText.every
    simp only [List.map_cons, List.map_nil, RelationText.text]
    unfold PGSQL_DISCOVER_TABLES PGSQL_DISCOVER_TABLE_CHILDREN PGSQL_GET_TABLE_SIZE
      PGSQL_GET_TABLE_SIZE_SUM PGSQL_GET_TABLE_ROWS_SUM PGSQL_GET_TABLE_ROWS
      PGSQL_GET_TABLE_CHILD_COUNT PGSQL_GET_CHILDREN_SIZE PGSQL_GET_CHILDREN_ROWS
      PGSQL_GET_INDEX_SIZE PGSQL_GET_INDEX_SIZE_SUM PGSQL_GET_INDEX_ROWS PGSQL_GET_INDEX_ROWS_SUM
    simp only [literal, List.flatMap_cons, List.flatMap_nil]
    repeat rw [String.toList_ofList]
    decide
  exact all (t.text, t.places) (List.mem_map_of_mem t.mem_every)

inductive RatioText where
  | db_blks
  | table_idx_scan
  | table_heap_blks
  | table_idx_blks
  | table_toast_blks
  | table_tidx_blks
  | index_idx_blks

namespace RatioText

/-- The query of a ratio key without the name of an object. -/
def all : RatioText → CStr
  | db_blks => percentageQuery "pg_stat_database".toList
    "sum(blks_hit)".toList "sum(blks_hit) + sum(blks_read)".toList none
  | table_idx_scan => percentageQuery "pg_stat_all_tables".toList
    "sum(idx_scan)".toList "sum(seq_scan) + sum(idx_scan)".toList none
  | table_heap_blks => percentageQuery "pg_statio_all_tables".toList
    "sum(heap_blks_hit)".toList "sum(heap_blks_hit) + sum(heap_blks_read)".toList none
  | table_idx_blks => percentageQuery "pg_statio_all_tables".toList
    "sum(idx_blks_hit)".toList "sum(idx_blks_hit) + sum(idx_blks_read)".toList none
  | table_toast_blks => percentageQuery "pg_statio_all_tables".toList
    "sum(toast_blks_hit)".toList "sum(toast_blks_hit) + sum(toast_blks_read)".toList none
  | table_tidx_blks => percentageQuery "pg_statio_all_tables".toList
    "sum(tidx_blks_hit)".toList "sum(tidx_blks_hit) + sum(tidx_blks_read)".toList none
  | index_idx_blks => percentageQuery "pg_statio_all_indexes".toList
    "sum(idx_blks_hit)".toList "sum(idx_blks_hit) + sum(idx_blks_read)".toList none

def one : RatioText → CStr
  | db_blks => percentageQuery "pg_stat_database".toList
    "blks_hit".toList "blks_hit + blks_read".toList (some "datname".toList)
  | table_idx_scan => percentageQuery "pg_stat_all_tables".toList
    "idx_scan".toList "seq_scan + idx_scan".toList (some "relname".toList)
  | table_heap_blks => percentageQuery "pg_statio_all_tables".toList
    "heap_blks_hit".toList "heap_blks_hit + heap_blks_read".toList (some "relname".toList)
  | table_idx_blks => percentageQuery "pg_statio_all_tables".toList
    "idx_blks_hit".toList "idx_blks_hit + idx_blks_read".toList (some "relname".toList)
  | table_toast_blks => percentageQuery "pg_statio_all_tables".toList
    "toast_blks_hit".toList "toast_blks_hit + toast_blks_read".toList (some "relname".toList)
  | table_tidx_blks => percentageQuery "pg_statio_all_tables".toList
    "tidx_blks_hit".toList "tidx_blks_hit + tidx_blks_read".toList (some "relname".toList)
  | index_idx_blks => percentageQuery "pg_statio_all_indexes".toList
    "idx_blks_hit".toList "idx_blks_hit + idx_blks_read".toList (some "indexrelname".toList)

def every : List RatioText :=
  [db_blks, table_idx_scan, table_heap_blks, table_idx_blks, table_toast_blks, table_tidx_blks,
   index_idx_blks]

theorem mem_every (t : RatioText) : t ∈ every := by
  cases t <;> simp [every]

end RatioText

set_option maxRecDepth 8000 in
theorem ratio_numbered (t : RatioText) : Numbered t.all 0 ∧ Numbered t.one 1 := by
  have all : ∀ t ∈ RatioText.every.map fun t => (t.all, t.one),
      Numbered t.1 0 ∧ Numbered t.2 1 := by
    unfold RatioText.every
    simp only [List.map_cons, List.map_nil, RatioText.all, RatioText.one]
    unfold percentageQuery
    repeat rw [String.toList_ofList]
    decide
  exact all (t.all, t.one) (List.mem_map_of_mem t.mem_every)

/-- Where the name of the column begins in the keys of a function. -/
def columnStart : Handler → Option ℕ
  | .PG_STAT_BGWRITER => some 3
  | .PG_STAT_DATABASE => some 6
  | .PG_STAT_ALL_TABLES => some 9
  | .PG_STATIO_ALL_TABLES => some 9
  | .PG_STAT_ALL_INDEXES => some 9
  | .PG_STATIO_ALL_INDEXES => some 9
  | _ => none

def IsColumn (field : CStr) : Bool := IsWord field && decide (field.length ≤ 30)

theorem keys_columns : ∀ metric ∈ keys, ∀ n ∈ columnStart metric.function,
    IsColumn (metric.key.drop n) = true := by decide +kernel

/-- Two texts with room for a word between them. -/
def Frames (a b : CStr) (n : ℕ) : Bool :=
  decide ((run .between a).map (fun r => (placeholders r.1, r.2)) = some ([], .between)) &&
    Apart b && decide (Numbered b n) && decide (a.length + b.length ≤ 400)

theorem column_numbered {a b field : CStr} {n : ℕ} (h : Frames a b n = true)
    (hf : IsColumn field = true) : Numbered (zbx_snprintf MAX_STRING_LEN (a ++ field ++ b)) n := by
  simp only [Frames, Bool.and_eq_true, decide_eq_true_eq] at h
  obtain ⟨⟨⟨before, apart⟩, after⟩, short⟩ := h
  simp only [IsColumn, Bool.and_eq_true, decide_eq_true_eq] at hf
  obtain ⟨⟨ts, s⟩, hr, he⟩ := Option.map_eq_some_iff.mp before
  simp only [Prod.mk.injEq] at he
  obtain ⟨none_before, rfl⟩ := he
  have whole : zbx_snprintf MAX_STRING_LEN (a ++ field ++ b) = a ++ field ++ b := by
    apply zbx_snprintf_fits
    simp only [List.length_append, MAX_STRING_LEN]
    omega
  rw [whole]
  exact numbered_column hr none_before hf.1 apart after

def columnTexts : List ((CStr → CStr) × ℕ) :=
  [(pgsql_bgwriter_stat, 0), (PGSQL_GET_DB_STAT, 1), (PGSQL_GET_DB_STAT_SUM, 0),
   (PGSQL_GET_TABLE_STAT, 1), (PGSQL_GET_TABLE_STAT_SUM, 0), ( PGSQL_GET_TABLE_STATIO, 1),
   (PGSQL_GET_TABLE_STATIO_SUM, 0), (indexStat, 1), (indexStatSum, 0), (indexStatio, 1),
   (PGSQL_GET_INDEX_STATIO_SUM, 0)]

theorem columnTexts_numbered : ∀ t ∈ columnTexts, ∀ field, IsColumn field = true →
    Numbered (zbx_snprintf MAX_STRING_LEN (t.1 field)) t.2 := by
  simp only [columnTexts, List.forall_mem_cons, List.not_mem_nil, false_imp_iff, implies_true,
    and_true]
  refine ⟨?_, ?_, ?_, ?_, ?_, ?_, ?_, ?_, ?_, ?_, ?_⟩
  all_goals
    intro field hf
    refine column_numbered ?_ hf
    try simp only [literal, List.flatMap_cons, List.flatMap_nil]
    repeat rw [String.toList_ofList]
    decide +kernel

section Activity
variable {request : AGENT_REQUEST} {inet_pton : AddressFamily → CStr → Bool} {text : CStr}

/-- Whatever columns the text compares, the clause numbers its placeholders in order. -/
theorem activity_numbered {a b : CStr} (ht : activityText inet_pton request = some text)
    (ha : Numbered a 0) (hb : Numbered b 0) (apart : Apart b = true)
    (short : a.length + b.length ≤ 1000) :
    Numbered (zbx_snprintf MAX_QUERY_LEN (a ++ text ++ b)) (filterParams request).length := by
  obtain ⟨text_apart, text_short⟩ := activityText_apart ht
  have whole : zbx_snprintf MAX_QUERY_LEN (a ++ text ++ b) = a ++ text ++ b := by
    apply zbx_snprintf_fits
    simp only [List.length_append, MAX_QUERY_LEN]
    omega
  rw [whole]
  exact numbered_between ha text_apart (activityText_numbered ht) apart hb

theorem getBackends_numbered (ht : activityText inet_pton request = some text) (version : ℤ) :
    Numbered (zbx_snprintf MAX_QUERY_LEN (PGSQL_GET_BACKENDS (pidColumn version) text))
      (filterParams request).length := by
  unfold PGSQL_GET_BACKENDS pidColumn
  split
  all_goals
    refine activity_numbered ht ?_ ?_ ?_ ?_
    all_goals
      repeat rw [String.toList_ofList]
      decide

set_option maxRecDepth 8000 in
theorem longestQuery_numbered (ht : activityText inet_pton request = some text) (version : ℤ) :
    Numbered (zbx_snprintf MAX_QUERY_LEN (if version < 90200 then PGSQL_GET_LONGEST_QUERY text
        else PGSQL_GET_LONGEST_QUERY_92 text)) (filterParams request).length := by
  unfold PGSQL_GET_LONGEST_QUERY PGSQL_GET_LONGEST_QUERY_92
  split
  all_goals
    refine activity_numbered ht ?_ ?_ ?_ ?_
    all_goals
      simp only [literal, List.flatMap_cons, List.flatMap_nil]
      repeat rw [String.toList_ofList]
      decide

end Activity

/-- The texts a function of the keys sends, each with the number of its placeholders. -/
inductive OwnText (g : Globals) (request : AGENT_REQUEST) (f : Handler) : CStr → ℕ → Prop where
  | server (t : ServerText) : OwnText g request f t.text t.places
  | database (t : DatabaseText) : OwnText g request f t.text t.places
  | relation (t : RelationText) : OwnText g request f t.text t.places
  | ratio_all (t : RatioText) : OwnText g request f t.all 0
  | ratio_one (t : RatioText) : OwnText g request f t.one 1
  | column {t : (CStr → CStr) × ℕ} {n : ℕ} (known : t ∈ columnTexts) (start : n ∈ columnStart f) :
    OwnText g request f (zbx_snprintf MAX_STRING_LEN (t.1 (request.key.drop n))) t.2
  | backends {text : CStr} (ht : activityText g.inet_pton request = some text) (version : ℤ) :
    OwnText g request f
      (zbx_snprintf MAX_QUERY_LEN (PGSQL_GET_BACKENDS (pidColumn version) text))
      (filterParams request).length
  | longest {text : CStr} (ht : activityText g.inet_pton request = some text) (version : ℤ) :
    OwnText g request f
      (zbx_snprintf MAX_QUERY_LEN (if version < 90200 then PGSQL_GET_LONGEST_QUERY text
        else PGSQL_GET_LONGEST_QUERY_92 text)) (filterParams request).length

/-- Each text is sent with so many parameters. -/
def Sends (P : CStr → ℕ → Prop) : Question → Prop
  | .ping _ => True
  | .query _ text params => P text params.length

section Rules
variable {P : CStr → ℕ → Prop} {request : AGENT_REQUEST} {query all one : CStr}
  {params : List CStr}

theorem sends_scalar (type : ResultType) (h : P query params.length) :
    Asked (Sends P) ((Steps.scalar type query).dialogue request params) := by
  refine asked_bind ⟨h, fun _ => trivial⟩ ?_
  intro r
  cases r <;> trivial

theorem sends_discovery (h : P query params.length) :
    Asked (Sends P) ((Steps.discovery query).dialogue request params) := ⟨h, fun _ => trivial⟩

theorem sends_version {next : ℤ → Steps} (version : P PGSQL_VERSION_NUM 0)
    (h : ∀ v, Asked (Sends P) ((next v).dialogue request params)) :
    Asked (Sends P) ((Steps.version next).dialogue request params) :=
  asked_version version h

theorem sends_mode (databases : P PGSQL_CONNECTABLE_DATABASES 0) (h : P query 0) :
    Asked (Sends P) ((modePlan request query).dialogue request) :=
  asked_mode databases fun _ => h

/-- A name is bound exactly where the query has a place for it. -/
theorem named_either (name : Option CStr) (h0 : P all 0) (h1 : P one 1) :
    P (if strisnull name then all else one) ([] ++ bound name).length := by
  match name with
  | none => exact h0
  | some [] => exact h0
  | some (c :: s) => exact h1

theorem sends_intByName (h0 : P all 0) (h1 : P one 1) :
    Asked (Sends P) ((intByNamePlan request all one).dialogue request) :=
  sends_scalar .AR_UINT64 (named_either (get_rparam request PARAM_FIRST) h0 h1)

theorem bound_given (name : Option CStr) :
    bound (if strisnull name then none else name) = bound name := by
  match name with
  | none => rfl
  | some [] => rfl
  | some (c :: s) => rfl

theorem sends_databaseInt (h0 : P all 0) (h1 : P one 1) :
    Asked (Sends P) ((databaseIntPlan request all one).dialogue request) := by
  refine sends_scalar .AR_UINT64 ?_
  rw [bound_given]
  exact named_either (get_rparam request PARAM_FIRST) h0 h1

theorem sends_optionalName (type : ResultType) (h0 : P all 0) (h1 : P one 1) :
    Asked (Sends P) ((optionalNamePlan request type all one).dialogue request) := by
  have either := named_either (get_rparam request PARAM_FIRST) h0 h1
  unfold optionalNamePlan
  dsimp only
  split
  · exact sends_scalar type h0
  · rename_i given
    rw [if_neg given] at either
    exact sends_scalar type either

theorem sends_requireName {message : CStr} {found : Option CStr → Steps}
    (h : ∀ name, strisnull name = false → Asked (Sends P) ((found name).dialogue request [])) :
    Asked (Sends P) ((requireNamePlan request message found).dialogue request) := by
  unfold requireNamePlan
  dsimp only
  split
  · trivial
  · rename_i given
    exact h _ (by simpa using given)

theorem given_bound {name : Option CStr} (given : strisnull name = false) (h : P query 1) :
    P query ([] ++ bound name).length := by
  obtain ⟨s, rfl, hs⟩ := strisnull_eq_false given
  obtain ⟨c, s, rfl⟩ := List.exists_cons_of_ne_nil hs
  exact h

theorem sends_boundScalar {message : CStr} (h : P query 1) :
    Asked (Sends P) ((requireNamePlan request message (boundScalar .AR_UINT64 query)).dialogue
      request) :=
  sends_requireName fun _ given => sends_scalar .AR_UINT64 (given_bound given h)

theorem sends_activity {inet_pton : AddressFamily → CStr → Bool} {next : CStr → Steps}
    (h : ∀ text, activityText inet_pton request = some text →
      Asked (Sends P) ((next text).dialogue request ([] ++ filterParams request))) :
    Asked (Sends P) ((activitySteps inet_pton request next).dialogue request []) := by
  rw [activitySteps_dialogue]
  cases ht : activityText inet_pton request with
  | none => trivial
  | some text => exact h text ht

end Rules

section Plans
variable {g : Globals} {request : AGENT_REQUEST} {f : Handler}

/-- The query on a column, for one object or for the sum over all. -/
theorem column_either (one all : CStr → CStr) {n : ℕ} (name : Option CStr)
    (start : n ∈ columnStart f) (h1 : (one, 1) ∈ columnTexts) (h0 : (all, 0) ∈ columnTexts) :
    OwnText g request f (zbx_snprintf MAX_STRING_LEN
        (if strisnull name then all (request.key.drop n) else one (request.key.drop n)))
      ([] ++ bound name).length := by
  match name with
  | none | some [] => exact .column h0 start
  | some (c :: s) => exact .column h1 start

theorem sends_bgwriter (start : 3 ∈ columnStart f) :
    Asked (Sends (OwnText g request f)) ((bgwriterPlan request).dialogue request) := by
  have own : OwnText g request f _ 0 :=
    .column (t := (pgsql_bgwriter_stat, 0)) List.mem_cons_self start
  unfold bgwriterPlan
  dsimp only
  split
  · exact sends_scalar .AR_DOUBLE own
  · split
    · exact sends_scalar .AR_STRING own
    · exact sends_scalar .AR_UINT64 own

theorem sends_statDatabase (start : 6 ∈ columnStart f) :
    Asked (Sends (OwnText g request f)) ((statDatabasePlan request).dialogue request) := by
  have own : OwnText g request f _ _ :=
    column_either PGSQL_GET_DB_STAT PGSQL_GET_DB_STAT_SUM (get_rparam request PARAM_FIRST) start
      (by simp [columnTexts]) (by simp [columnTexts])
  rw [← bound_given] at own
  unfold statDatabasePlan
  dsimp only
  split
  · split
    · trivial
    · rename_i given
      simp only [if_neg given] at own
      exact sends_scalar .AR_STRING own
  · split
    · exact sends_scalar .AR_DOUBLE own
    · exact sends_scalar .AR_UINT64 own

theorem sends_statAllTables (start : 9 ∈ columnStart f) :
    Asked (Sends (OwnText g request f)) ((statAllTablesPlan request).dialogue request) := by
  have own : OwnText g request f _ _ :=
    column_either PGSQL_GET_TABLE_STAT PGSQL_GET_TABLE_STAT_SUM (get_rparam request PARAM_FIRST) start
      (by simp [columnTexts]) (by simp [columnTexts])
  unfold statAllTablesPlan
  dsimp only
  split
  · split
    · trivial
    · rename_i given
      simp only [if_neg given] at own
      exact sends_scalar .AR_STRING own
  · exact sends_scalar .AR_UINT64 own

theorem sends_statAllIndexes (start : 9 ∈ columnStart f) :
    Asked (Sends (OwnText g request f)) ((statAllIndexesPlan request).dialogue request) :=
  ⟨column_either indexStat indexStatSum (get_rparam request PARAM_FIRST) start
    (by simp [columnTexts]) (by simp [columnTexts]), fun _ => trivial⟩

theorem sends_statio {one all : CStr → CStr} (start : 9 ∈ columnStart f)
    (h1 : (one, 1) ∈ columnTexts) (h0 : (all, 0) ∈ columnTexts) :
    Asked (Sends (OwnText g request f)) ((intByNamePlan request
      (zbx_snprintf MAX_STRING_LEN (all (request.key.drop 9)))
      (zbx_snprintf MAX_STRING_LEN (one (request.key.drop 9)))).dialogue request) :=
  sends_intByName (.column h0 start) (.column h1 start)

theorem sends_timeRatio :
    Asked (Sends (OwnText g request f)) ((timeRatioPlan request).dialogue request) := by
  unfold timeRatioPlan timeRatioField
  dsimp only
  split
  · trivial
  · rename_i field hfield
    have own : OwnText g request f (timeRatioQuery field) 0 := by
      split at hfield
      · cases hfield
        exact .server .checkpoint_time
      · split at hfield
        · cases hfield
          exact .server .checkpoint_write_time
        · split at hfield
          · cases hfield
            exact .server .checkpoint_sync_time
          · cases hfield
    exact sends_scalar .AR_DOUBLE own

theorem sends_setting :
    Asked (Sends (OwnText g request f)) ((settingPlan request).dialogue request) := by
  unfold settingPlan
  dsimp only
  split
  · trivial
  · rename_i given
    have own := given_bound (P := OwnText g request f) (by simpa using given) (.server .setting)
    exact ⟨own, fun _ => trivial⟩

theorem sends_tablespaces : Asked (Sends (OwnText g request f)) ((Plan.steps (.version
    fun version => .discovery (if version ≥ 90200 then PGSQL_DISCOVER_TABLESPACES_92
      else PGSQL_DISCOVER_TABLESPACES))).dialogue request) := by
  refine sends_version (.server .version_num) ?_
  intro version
  refine sends_discovery ?_
  split
  · exact .database .tablespaces_92
  · exact .database .tablespaces

theorem sends_backendsRatio : Asked (Sends (OwnText g request f)) ((Plan.steps (.version
    fun version => .scalar .AR_DOUBLE (zbx_snprintf MAX_QUERY_LEN
      (backendsRatio (pidColumn version))))).dialogue request) := by
  refine sends_version (.server .version_num) ?_
  intro version
  refine sends_scalar .AR_DOUBLE ?_
  rw [pidColumn]
  split
  · exact .server .backends_ratio_procpid
  · exact .server .backends_ratio

theorem sends_backendsCount :
    Asked (Sends (OwnText g request f))
      ((Plan.steps (backendsCountSteps g request)).dialogue request) := by
  refine sends_version (.server .version_num) ?_
  intro version
  refine sends_activity ?_
  intro text ht
  exact sends_scalar .AR_UINT64 (.backends ht version)

theorem sends_queriesLongest :
    Asked (Sends (OwnText g request f))
      ((Plan.steps (queriesLongestSteps g request)).dialogue request) := by
  refine sends_activity ?_
  intro text ht
  refine sends_version (.server .version_num) ?_
  intro version
  exact sends_scalar .AR_DOUBLE (.longest ht version)

/-- A function sends no text but its own, each with a parameter for every placeholder. -/
theorem plan_sends (not_query : f ≠ .PG_QUERY) (not_index : f ≠ .PG_INDEX_DISCOVERY) :
    Asked (Sends (OwnText g request f)) ((plan g request f).dialogue request) := by
  cases f with
  | MODVER => trivial
  | PG_CONNECT => exact ⟨trivial, fun _ => trivial⟩
  | PG_VERSION => exact sends_scalar .AR_STRING (.server .version)
  | PG_STARTTIME => exact sends_scalar .AR_STRING (.server .starttime)
  | PG_UPTIME => exact sends_scalar .AR_UINT64 (.server .uptime)
  | PG_PREPARED_XACTS_COUNT =>
    exact sends_optionalName .AR_UINT64 (.server .prepared_count)
      (.server .prepared_count_of)
  | PG_PREPARED_XACTS_RATIO => exact sends_scalar .AR_DOUBLE (.server .prepared_ratio)
  | PG_PREPARED_XACTS_AGE =>
    exact sends_optionalName .AR_UINT64 (.server .prepared_age)
      (.server .prepared_age_of)
  | PG_SETTING => exact sends_setting
  | PG_SETTING_DISCOVERY => exact sends_discovery (.server .settings)
  | PG_QUERY => exact absurd rfl not_query
  | PG_BACKENDS_COUNT => exact sends_backendsCount
  | PG_BACKENDS_FREE => exact sends_scalar .AR_DOUBLE (.server .backends_free)
  | PG_BACKENDS_RATIO => exact sends_backendsRatio
  | PG_QUERIES_LONGEST => exact sends_queriesLongest
  | PG_STAT_BGWRITER => exact sends_bgwriter rfl
  | PG_BG_AVG_INTERVAL => exact sends_scalar .AR_DOUBLE (.server .avg_interval)
  | PG_BG_TIME_RATIO => exact sends_timeRatio
  | PG_BG_STATS_RESET_INTERVAL =>
    exact sends_scalar .AR_UINT64 (.server .stats_reset_interval)
  | PG_DB_DISCOVERY => exact sends_discovery (.database .databases)
  | PG_NAMESPACE_DISCOVERY => exact sends_mode (.database .connectable) (.database .namespaces)
  | PG_TABLESPACE_DISCOVERY => exact sends_tablespaces
  | PG_TABLE_DISCOVERY => exact sends_mode (.database .connectable) (.relation .tables)
  | PG_TABLE_CHILDREN_DISCOVERY =>
    exact sends_requireName fun _ given =>
      sends_discovery (given_bound given (.relation .children))
  | PG_INDEX_DISCOVERY => exact absurd rfl not_index
  | PG_DB_SIZE => exact sends_databaseInt (.database .size_sum) (.database .size)
  | PG_TABLE_SIZE =>
    exact sends_intByName (.relation .table_size_sum) (.relation .table_size)
  | PG_TABLE_ROWS =>
    exact sends_intByName (.relation .table_rows_sum) (.relation .table_rows)
  | PG_TABLE_CHILDREN => exact sends_boundScalar (.relation .child_count)
  | PG_TABLE_CHILDREN_SIZE => exact sends_boundScalar (.relation .children_size)
  | PG_TABLE_CHILDREN_ROWS => exact sends_boundScalar (.relation .children_rows)
  | PG_INDEX_SIZE =>
    exact sends_optionalName .AR_UINT64 (.relation .index_size_sum)
      (.relation .index_size)
  | PG_INDEX_ROWS =>
    exact sends_intByName (.relation .index_rows_sum) (.relation .index_rows)
  | PG_TABLESPACE_SIZE => exact sends_boundScalar (.database .tablespace_size)
  | PG_NAMESPACE_SIZE => exact sends_boundScalar (.database .namespace_size)
  | PG_STAT_DATABASE => exact sends_statDatabase rfl
  | PG_DB_BLKS_RATIO =>
    exact sends_optionalName .AR_DOUBLE (.ratio_all .db_blks) (.ratio_one .db_blks)
  | PG_DB_XID_AGE =>
    exact sends_databaseInt (.database .xid_age_max) (.database .xid_age)
  | PG_STAT_ALL_TABLES => exact sends_statAllTables rfl
  | PG_TABLE_IDX_SCAN_RATIO =>
    exact sends_optionalName .AR_DOUBLE (.ratio_all .table_idx_scan)
      (.ratio_one .table_idx_scan)
  | PG_STATIO_ALL_TABLES =>
    exact sends_statio rfl (by simp [columnTexts]) (by simp [columnTexts])
  | PG_TABLE_HEAP_BLKS_RATIO =>
    exact sends_optionalName .AR_DOUBLE (.ratio_all .table_heap_blks)
      (.ratio_one .table_heap_blks)
  | PG_TABLE_IDX_BLKS_RATIO =>
    exact sends_optionalName .AR_DOUBLE (.ratio_all .table_idx_blks)
      (.ratio_one .table_idx_blks)
  | PG_TABLE_TOAST_BLKS_RATIO =>
    exact sends_optionalName .AR_DOUBLE (.ratio_all .table_toast_blks)
      (.ratio_one .table_toast_blks)
  | PG_TABLE_TIDX_BLKS_RATIO =>
    exact sends_optionalName .AR_DOUBLE (.ratio_all .table_tidx_blks)
      (.ratio_one .table_tidx_blks)
  | PG_STAT_ALL_INDEXES => exact sends_statAllIndexes rfl
  | PG_STATIO_ALL_INDEXES =>
    exact sends_statio rfl (by simp [columnTexts]) (by simp [columnTexts])
  | PG_INDEX_IDX_BLKS_RATIO =>
    exact sends_optionalName .AR_DOUBLE (.ratio_all .index_idx_blks)
      (.ratio_one .index_idx_blks)

end Plans

def Fitting : Question → Prop
  | .ping _ => True
  | .query _ text params => Binds text params.length

section Keys
variable {g : Globals} {request : AGENT_REQUEST} {metric : ZBX_METRIC}

theorem ownText_numbered (listed : metric ∈ keys) (asked : request.key = metric.key) {text : CStr}
    {n : ℕ} (own : OwnText g request metric.function text n) : Numbered text n := by
  cases own with
  | server t => exact server_numbered t
  | database t => exact database_numbered t
  | relation t => exact relation_numbered t
  | ratio_all t => exact (ratio_numbered t).1
  | ratio_one t => exact (ratio_numbered t).2
  | column known start =>
    exact columnTexts_numbered _ known _ (asked ▸ keys_columns metric listed _ start)
  | backends ht version => exact getBackends_numbered ht version
  | longest ht version => exact longestQuery_numbered ht version

/-- Every statement of a handler is sent with as many parameters as it has placeholders. -/
theorem plan_fitting (listed : metric ∈ keys) (not_query : metric.function ≠ .PG_QUERY)
    (not_index : metric.function ≠ .PG_INDEX_DISCOVERY) (asked : request.key = metric.key) :
    Asked Fitting ((plan g request metric.function).dialogue request) := by
  refine asked_mono ?_ (plan_sends not_query not_index)
  intro q own
  cases q with
  | ping connstring => trivial
  | query connstring text params => exact binds_of_numbered (ownText_numbered listed asked own)

end Keys

end LibZbxPgsql.StatementTexts
