import LibZbxPgsql.QueryBinding
import LibZbxPgsql.SystemCatalogs

set_option autoImplicit false

namespace LibZbxPgsql.RatioQueries
open StateFaultWp CStrings PrintfFormat AgentModel Connections Drivers
open DatabaseKeys TableKeys IndexKeys ItemKeys
open Dialogues WorldView Sessions DialogueRefinement DriverDialogues HandlerPlans KeyPlans
open HandleDiscipline Conclusions QueryBinding Reports
open SqlTokens SqlQueries SqlEvaluation SystemCatalogs

inductive RatioKey where
  | heap
  | idx
  | toast
  | tidx
  | idxScan
  | index
  | database
  deriving DecidableEq

namespace RatioKey

def every : List RatioKey := [.heap, .idx, .toast, .tidx, .idxScan, .index, .database]

theorem mem_every (key : RatioKey) : key ∈ every := by cases key <;> decide

def handler : RatioKey → Handler
  | .heap => Handler.PG_TABLE_HEAP_BLKS_RATIO
  | .idx => Handler.PG_TABLE_IDX_BLKS_RATIO
  | .toast => Handler.PG_TABLE_TOAST_BLKS_RATIO
  | .tidx => Handler.PG_TABLE_TIDX_BLKS_RATIO
  | .idxScan => Handler.PG_TABLE_IDX_SCAN_RATIO
  | .index => Handler.PG_INDEX_IDX_BLKS_RATIO
  | .database => Handler.PG_DB_BLKS_RATIO

def counterHandler : RatioKey → Handler
  | .heap | .idx | .toast | .tidx => .PG_STATIO_ALL_TABLES
  | .idxScan => .PG_STAT_ALL_TABLES
  | .index => .PG_STATIO_ALL_INDEXES
  | .database => .PG_STAT_DATABASE

def view : RatioKey → Name
  | .heap | .idx | .toast | .tidx => "pg_statio_all_tables".toList
  | .idxScan => "pg_stat_all_tables".toList
  | .index => "pg_statio_all_indexes".toList
  | .database => "pg_stat_database".toList

def nameColumn : RatioKey → Name
  | .heap | .idx | .toast | .tidx | .idxScan => "relname".toList
  | .index => "indexrelname".toList
  | .database => "datname".toList

def keyPrefix : RatioKey → CStr
  | .heap | .idx | .toast | .tidx | .idxScan => "pg.table.".toList
  | .index => "pg.index.".toList
  | .database => "pg.db.".toList

def hit : RatioKey → Name
  | .heap => "heap_blks_hit".toList
  | .idx => "idx_blks_hit".toList
  | .toast => "toast_blks_hit".toList
  | .tidx => "tidx_blks_hit".toList
  | .idxScan => "idx_scan".toList
  | .index => "idx_blks_hit".toList
  | .database => "blks_hit".toList

def other : RatioKey → Name
  | .heap => "heap_blks_read".toList
  | .idx => "idx_blks_read".toList
  | .toast => "toast_blks_read".toList
  | .tidx => "tidx_blks_read".toList
  | .idxScan => "seq_scan".toList
  | .index => "idx_blks_read".toList
  | .database => "blks_read".toList

def allText : RatioKey → CStr
  | .heap => percentageQuery "pg_statio_all_tables".toList
      "sum(heap_blks_hit)".toList "sum(heap_blks_hit) + sum(heap_blks_read)".toList none
  | .idx => percentageQuery "pg_statio_all_tables".toList
      "sum(idx_blks_hit)".toList "sum(idx_blks_hit) + sum(idx_blks_read)".toList none
  | .toast => percentageQuery "pg_statio_all_tables".toList
      "sum(toast_blks_hit)".toList "sum(toast_blks_hit) + sum(toast_blks_read)".toList none
  | .tidx => percentageQuery "pg_statio_all_tables".toList
      "sum(tidx_blks_hit)".toList "sum(tidx_blks_hit) + sum(tidx_blks_read)".toList none
  | .idxScan => percentageQuery "pg_stat_all_tables".toList
      "sum(idx_scan)".toList "sum(seq_scan) + sum(idx_scan)".toList none
  | .index => percentageQuery "pg_statio_all_indexes".toList
      "sum(idx_blks_hit)".toList "sum(idx_blks_hit) + sum(idx_blks_read)".toList none
  | .database => percentageQuery "pg_stat_database".toList
      "sum(blks_hit)".toList "sum(blks_hit) + sum(blks_read)".toList none

def oneText : RatioKey → CStr
  | .heap => percentageQuery "pg_statio_all_tables".toList "heap_blks_hit".toList
      "heap_blks_hit + heap_blks_read".toList (some "relname".toList)
  | .idx => percentageQuery "pg_statio_all_tables".toList "idx_blks_hit".toList
      "idx_blks_hit + idx_blks_read".toList (some "relname".toList)
  | .toast => percentageQuery "pg_statio_all_tables".toList "toast_blks_hit".toList
      "toast_blks_hit + toast_blks_read".toList (some "relname".toList)
  | .tidx => percentageQuery "pg_statio_all_tables".toList "tidx_blks_hit".toList
      "tidx_blks_hit + tidx_blks_read".toList (some "relname".toList)
  | .idxScan => percentageQuery "pg_stat_all_tables".toList "idx_scan".toList
      "seq_scan + idx_scan".toList (some "relname".toList)
  | .index => percentageQuery "pg_statio_all_indexes".toList "idx_blks_hit".toList
      "idx_blks_hit + idx_blks_read".toList (some "indexrelname".toList)
  | .database => percentageQuery "pg_stat_database".toList "blks_hit".toList
      "blks_hit + blks_read".toList (some "datname".toList)

def allCounter (key : RatioKey) (field : CStr) : CStr :=
  zbx_snprintf MAX_STRING_LEN <| match key with
    | .heap | .idx | .toast | .tidx => PGSQL_GET_TABLE_STATIO_SUM field
    | .idxScan => PGSQL_GET_TABLE_STAT_SUM field
    | .index => PGSQL_GET_INDEX_STATIO_SUM field
    | .database => PGSQL_GET_DB_STAT_SUM field

def oneCounter (key : RatioKey) (field : CStr) : CStr :=
  zbx_snprintf MAX_STRING_LEN <| match key with
    | .heap | .idx | .toast | .tidx => PGSQL_GET_TABLE_STATIO field
    | .idxScan => PGSQL_GET_TABLE_STAT field
    | .index => indexStatio field
    | .database => PGSQL_GET_DB_STAT field

def fields (key : RatioKey) : List Name := [key.hit, key.other]

/-- What the ratio key sends, with or without a name. -/
def ratioCommand (key : RatioKey) (name : Option CStr) : CStr × List CStr :=
  (if strisnull name then key.allText else key.oneText, bound name)

def counterCommand (key : RatioKey) (field : Name) (name : Option CStr) : CStr × List CStr :=
  (if strisnull name then key.allCounter field else key.oneCounter field, bound name)

end RatioKey

section Runs
variable {S : Server} {g : Globals} {request : AGENT_REQUEST}

theorem bound_strisnull {name : Option CStr} (h : strisnull name = true) : bound name = [] := by
  match name, h with
  | none, _ => rfl
  | some [], _ => rfl

theorem intByName_asks (all one : CStr) :
    (intByNamePlan request all one).dialogue request =
      resultAsk request .AR_UINT64
        (if strisnull (get_rparam request PARAM_FIRST) then all else one)
        (bound (get_rparam request PARAM_FIRST)) := rfl

theorem ratioByName_asks (table sum1 sum2 col1 col2 colFilter : CStr) :
    (ratioByNamePlan request table sum1 sum2 col1 col2 colFilter).dialogue request =
      resultAsk request .AR_DOUBLE
        (if strisnull (get_rparam request PARAM_FIRST) then percentageQuery table sum1 sum2 none
          else percentageQuery table col1 col2 (some colFilter))
        (bound (get_rparam request PARAM_FIRST)) := by
  rw [ratioByNamePlan, optionalNamePlan, Plan.dialogue]
  by_cases h : strisnull (get_rparam request PARAM_FIRST) = true
  · rw [if_pos h, if_pos h, bound_strisnull h]
    rfl
  · rw [if_neg h, if_neg h]
    rfl

theorem ratio_runs (key : RatioKey) : RunsQuery S g request key.handler .AR_DOUBLE
    (key.ratioCommand (get_rparam request PARAM_FIRST)) := by
  apply runsQuery_of_asks
  cases key <;> exact ratioByName_asks _ _ _ _ _ _

theorem bound_absent (name : Option CStr) :
    bound (if strisnull name then none else name) = bound name := by
  by_cases h : strisnull name = true
  · rw [if_pos h, bound_strisnull h, bound]
  · rw [if_neg h]

variable (g) in
theorem counter_asks (key : RatioKey) {field : Name} (two : field ∈ key.fields)
    (named : request.key = key.keyPrefix ++ field) :
    (plan g request key.counterHandler).dialogue request =
      resultAsk request .AR_UINT64
        (key.counterCommand field (get_rparam request PARAM_FIRST)).1
        (key.counterCommand field (get_rparam request PARAM_FIRST)).2 := by
  simp only [RatioKey.fields, List.mem_cons, List.not_mem_nil, or_false] at two
  cases key with
  | heap | idx | toast | tidx | index =>
    have dropped : request.key.drop 9 = field := by
      rw [named]
      exact List.drop_left' (by decide)
    refine (intByName_asks _ _).trans ?_
    rw [dropped]
    rfl
  | idxScan =>
    have dropped : request.key.drop 9 = field := by
      rw [named]
      exact List.drop_left' (by decide)
    have whole : 0 ≠ strncmp field "last_".toList 5 := by
      rcases two with rfl | rfl <;> decide
    change (statAllTablesPlan request).dialogue request = _
    rw [statAllTablesPlan]
    simp only [dropped, if_neg whole]
    change resultAsk request .AR_UINT64 (zbx_snprintf MAX_STRING_LEN _) (bound _) = _
    rw [apply_ite (zbx_snprintf MAX_STRING_LEN)]
    rfl
  | database =>
    have dropped : request.key.drop 6 = field := by
      rw [named]
      exact List.drop_left' (by decide)
    have reset : 0 ≠ strncmp field "stats_reset".toList 11 := by
      rcases two with rfl | rfl <;> decide
    have time : 0 ≠ strncmp field "blk_".toList 4 := by
      rcases two with rfl | rfl <;> decide
    change (statDatabasePlan request).dialogue request = _
    rw [statDatabasePlan]
    simp only [dropped, if_neg reset, if_neg time]
    change resultAsk request .AR_UINT64 (zbx_snprintf MAX_STRING_LEN _) (bound _) = _
    rw [apply_ite (zbx_snprintf MAX_STRING_LEN), bound_absent]
    rfl

theorem counter_runs (key : RatioKey) {field : Name} (two : field ∈ key.fields)
    (named : request.key = key.keyPrefix ++ field) :
    RunsQuery S g request key.counterHandler .AR_UINT64
      (key.counterCommand field (get_rparam request PARAM_FIRST)) :=
  runsQuery_of_asks (counter_asks g key two named)

end Runs

def sumOf (field : Name) : Expr := .apply sum (.column field)

/-- A share, and 1 where there is nothing to share. -/
def shareExpr (a whole : Expr) : Expr :=
  .caseWhen (.binary .eq whole (.int 0)) (.int 1) (.binary .div (.cast a .float) whole)

def schemaConditions : RatioKey → List Expr
  | .heap | .idx | .toast | .tidx | .idxScan => userConditions "schemaname".toList
  | .index =>
    [.binary .notMatch (.column "schemaname".toList) (.text "^pg_toast".toList),
     .binary .ne (.column "schemaname".toList) (.text "pg_catalog".toList),
     .binary .ne (.column "schemaname".toList) (.text "information_schema".toList)]
  | .database => []

namespace RatioKey

/-- The summands, in the order of the text. -/
def summands : RatioKey → Name × Name
  | .idxScan => (idxScan.other, idxScan.hit)
  | key => (key.hit, key.other)

def named (key : RatioKey) : Expr := .binary .eq (.column key.nameColumn) (.param 1)

def allRatio (key : RatioKey) : Query :=
  ⟨shareExpr (sumOf key.hit) (.binary .add (sumOf key.summands.1) (sumOf key.summands.2)),
    key.view, []⟩

def oneRatio (key : RatioKey) : Query :=
  ⟨shareExpr (.column key.hit)
    (.binary .add (.column key.summands.1) (.column key.summands.2)), key.view, [key.named]⟩

def allCount (key : RatioKey) (field : Name) : Query :=
  ⟨.apply sum (.cast (.column field) .integer), key.view, schemaConditions key⟩

def oneCount (key : RatioKey) (field : Name) : Query := ⟨.column field, key.view, [key.named]⟩

end RatioKey

section Parse

theorem every_allText : ∀ key ∈ RatioKey.every, parse key.allText = some key.allRatio := by
  unfold RatioKey.every
  simp only [List.forall_mem_cons]
  unfold RatioKey.allText percentageQuery
  dsimp only
  repeat rw [String.toList_ofList]
  decide +kernel

theorem every_oneText : ∀ key ∈ RatioKey.every, parse key.oneText = some key.oneRatio := by
  unfold RatioKey.every
  simp only [List.forall_mem_cons]
  unfold RatioKey.oneText percentageQuery
  dsimp only
  repeat rw [String.toList_ofList]
  decide +kernel

theorem every_allCounter : ∀ key ∈ RatioKey.every, ∀ field ∈ key.fields,
    parse (key.allCounter field) = some (key.allCount field) := by
  unfold RatioKey.every RatioKey.fields
  simp only [List.forall_mem_cons]
  unfold RatioKey.allCounter PGSQL_GET_TABLE_STATIO_SUM PGSQL_GET_TABLE_STAT_SUM
    PGSQL_GET_INDEX_STATIO_SUM PGSQL_GET_DB_STAT_SUM
  simp only [literal, List.flatMap_cons, List.flatMap_nil]
  repeat rw [String.toList_ofList]
  decide +kernel

theorem every_oneCounter : ∀ key ∈ RatioKey.every, ∀ field ∈ key.fields,
    parse (key.oneCounter field) = some (key.oneCount field) := by
  unfold RatioKey.every RatioKey.fields
  simp only [List.forall_mem_cons]
  unfold RatioKey.oneCounter PGSQL_GET_TABLE_STATIO PGSQL_GET_TABLE_STAT indexStatio
    PGSQL_GET_DB_STAT
  dsimp only
  repeat rw [String.toList_ofList]
  decide +kernel

variable (key : RatioKey)

theorem parse_allText : parse key.allText = some key.allRatio :=
  every_allText key key.mem_every

theorem parse_oneText : parse key.oneText = some key.oneRatio :=
  every_oneText key key.mem_every

variable {field : Name} (two : field ∈ key.fields)

include two

theorem parse_allCounter : parse (key.allCounter field) = some (key.allCount field) :=
  every_allCounter key key.mem_every field two

theorem parse_oneCounter : parse (key.oneCounter field) = some (key.oneCount field) :=
  every_oneCounter key key.mem_every field two

end Parse

end LibZbxPgsql.RatioQueries
