import LibZbxPgsql.ResultRelease
import LibZbxPgsql.QueryBinding
import LibZbxPgsql.IndexFilters

set_option autoImplicit false

namespace LibZbxPgsql.PlanShapes
open CStrings PrintfFormat AgentModel Connections Drivers Discovery ItemKeys NamedQueries
open Dialogues Sessions DialogueRefinement HandlerPlans KeyPlans QueryBinding ResultRelease

/-- Steps that take at most so many sessions. -/
inductive Shape (g : Globals) (request : AGENT_REQUEST) : ℕ → Steps → Prop where
  | reject (n : ℕ) (format : CStr) (args : List Arg) : Shape g request n (.reject format args)
  | append {n : ℕ} (param : Option CStr) {next : Steps} (rest : Shape g request n next) :
    Shape g request n (.append param next)
  | version {n : ℕ} {next : ℤ → Steps} (rest : ∀ version, Shape g request n (next version)) :
    Shape g request (n + 1) (.version next)
  | activity {n : ℕ} {next : CStr → Steps} (rest : ∀ clause, Shape g request n (next clause)) :
    Shape g request n (activitySteps g.inet_pton request next)
  | scalar (n : ℕ) (type : ResultType) (query : CStr) :
    Shape g request (n + 1) (.scalar type query)
  | discovery (n : ℕ) (query : CStr) : Shape g request (n + 1) (.discovery query)
  | unresolved (n : ℕ) (key : CStr) (lost : get_query_by_name g.queries key = none) :
    Shape g request n (.fault .nullPointer)

/-- The discoveries that can search every database, asked to. -/
def SearchesDeep (request : AGENT_REQUEST) (f : Handler) : Prop :=
  f ∈ [.PG_NAMESPACE_DISCOVERY, .PG_TABLE_DISCOVERY, .PG_INDEX_DISCOVERY] ∧ Deep request

inductive PlanShape (g : Globals) (request : AGENT_REQUEST) (f : Handler) : Plan → Prop where
  | steps {steps : Steps} (shape : Shape g request 2 steps) : PlanShape g request f (.steps steps)
  | overrun (index : f = .PG_INDEX_DISCOVERY) (full : ¬ IndexFilters.Fits request) :
    PlanShape g request f (.steps (.fault .bufferOverrun))
  | report (value : CStr) : PlanShape g request f (.report value)
  | ping : PlanShape g request f .ping
  | wide (deep : SearchesDeep request f) (query : CStr) : PlanShape g request f (.wide query)
  | setting (name : Option CStr) : PlanShape g request f (.setting name)
  | indexStat (query : CStr) (index : Option CStr) : PlanShape g request f (.indexStat query index)

section Plans
variable {g : Globals} {request : AGENT_REQUEST} {f : Handler}

theorem mode_shape (hf : f ∈ [.PG_NAMESPACE_DISCOVERY, .PG_TABLE_DISCOVERY, .PG_INDEX_DISCOVERY])
    (query : CStr) : PlanShape g request f (modePlan request query) := by
  unfold modePlan
  dsimp only
  split
  · rename_i deep
    exact .wide ⟨hf, deep⟩ query
  · split
    · exact .steps (.discovery _ _)
    · exact .steps (.reject _ _ _)

theorem requireName_shape {message : CStr} {found : Option CStr → Steps}
    (h : ∀ name, Shape g request 2 (found name)) :
    PlanShape g request f (requireNamePlan request message found) := by
  refine .steps ?_
  split
  · exact .reject _ _ _
  · exact h _

theorem optionalName_shape (type : ResultType) (all one : CStr) :
    PlanShape g request f (optionalNamePlan request type all one) := by
  refine .steps ?_
  split
  · exact .scalar _ _ _
  · exact .append _ (.scalar _ _ _)

theorem bgwriter_shape : PlanShape g request f (bgwriterPlan request) := by
  unfold bgwriterPlan
  dsimp only
  split
  · exact .steps (.scalar _ _ _)
  · split <;> exact .steps (.scalar _ _ _)

theorem timeRatio_shape : PlanShape g request f (timeRatioPlan request) := by
  unfold timeRatioPlan
  dsimp only
  split
  · exact .steps (.reject _ _ _)
  · exact .steps (.scalar _ _ _)

theorem statDatabase_shape : PlanShape g request f (statDatabasePlan request) := by
  unfold statDatabasePlan
  dsimp only
  split
  · split
    · exact .steps (.reject _ _ _)
    · exact .steps (.append _ (.scalar _ _ _))
  · split <;> exact .steps (.append _ (.scalar _ _ _))

theorem statAllTables_shape : PlanShape g request f (statAllTablesPlan request) := by
  unfold statAllTablesPlan
  dsimp only
  split
  · split
    · exact .steps (.reject _ _ _)
    · exact .steps (.append _ (.scalar _ _ _))
  · exact .steps (.append _ (.scalar _ _ _))

theorem setting_shape : PlanShape g request f (settingPlan request) := by
  unfold settingPlan
  dsimp only
  split
  · exact .steps (.reject _ _ _)
  · exact .setting _

theorem queryType_shape (n : ℕ) (type query : CStr) :
    Shape g request (n + 1) (queryTypeSteps type query) := by
  unfold queryTypeSteps
  split
  · exact .scalar _ _ _
  · split
    · exact .scalar _ _ _
    · split
      · exact .scalar _ _ _
      · split
        · exact .discovery _ _
        · exact .reject _ _ _

theorem appendAll_shape {n : ℕ} (params : List (Option CStr)) {next : Steps}
    (h : Shape g request n next) : Shape g request n (appendAll params next) := by
  induction params with
  | nil => exact h
  | cons param params ih => exact .append param ih

theorem query_shape : PlanShape g request f (.steps (querySteps g.queries request)) := by
  refine .steps ?_
  unfold querySteps
  split
  · exact .reject _ _ _
  · exact .reject _ _ _
  · split
    · rename_i lost
      exact .unresolved _ _ lost
    · exact appendAll_shape _ (queryType_shape _ _ _)

theorem indexDiscovery_shape :
    PlanShape g request .PG_INDEX_DISCOVERY (indexDiscoveryPlan request) := by
  by_cases fits : IndexFilters.Fits request
  · have built := IndexFilters.index_plan (g := g) fits
    rw [plan] at built
    rw [built]
    exact mode_shape (by decide) _
  · rw [indexDiscoveryPlan, IndexFilters.indexDiscoveryQuery_eq, if_neg fits]
    exact .overrun rfl fits

theorem plan_shape (g : Globals) (request : AGENT_REQUEST) (f : Handler) :
    PlanShape g request f (plan g request f) := by
  cases f with
  | MODVER => exact .report _
  | PG_CONNECT => exact .ping
  | PG_STAT_ALL_INDEXES => exact .indexStat _ _
  | PG_SETTING => exact setting_shape
  | PG_QUERY => exact query_shape
  | PG_BACKENDS_COUNT => exact .steps (.version fun _ => .activity fun _ => .scalar _ _ _)
  | PG_QUERIES_LONGEST => exact .steps (.activity fun _ => .version fun _ => .scalar _ _ _)
  | PG_BACKENDS_RATIO => exact .steps (.version fun _ => .scalar _ _ _)
  | PG_TABLESPACE_DISCOVERY => exact .steps (.version fun _ => .discovery _ _)
  | PG_NAMESPACE_DISCOVERY | PG_TABLE_DISCOVERY => exact mode_shape (by decide) _
  | PG_INDEX_DISCOVERY => exact indexDiscovery_shape
  | PG_STAT_BGWRITER => exact bgwriter_shape
  | PG_BG_TIME_RATIO => exact timeRatio_shape
  | PG_STAT_DATABASE => exact statDatabase_shape
  | PG_STAT_ALL_TABLES => exact statAllTables_shape
  | PG_PREPARED_XACTS_COUNT | PG_PREPARED_XACTS_AGE | PG_INDEX_SIZE
  | PG_DB_BLKS_RATIO | PG_TABLE_IDX_SCAN_RATIO | PG_TABLE_HEAP_BLKS_RATIO
  | PG_TABLE_IDX_BLKS_RATIO | PG_TABLE_TOAST_BLKS_RATIO | PG_TABLE_TIDX_BLKS_RATIO
  | PG_INDEX_IDX_BLKS_RATIO => exact optionalName_shape _ _ _
  | PG_TABLE_CHILDREN_DISCOVERY => exact requireName_shape fun _ => .append _ (.discovery _ _)
  | PG_TABLE_CHILDREN | PG_TABLE_CHILDREN_SIZE | PG_TABLE_CHILDREN_ROWS
  | PG_TABLESPACE_SIZE | PG_NAMESPACE_SIZE =>
    exact requireName_shape fun _ => .append _ (.scalar _ _ _)
  | PG_DB_SIZE | PG_DB_XID_AGE | PG_TABLE_SIZE | PG_TABLE_ROWS | PG_INDEX_ROWS
  | PG_STATIO_ALL_TABLES | PG_STATIO_ALL_INDEXES => exact .steps (.append _ (.scalar _ _ _))
  | PG_SETTING_DISCOVERY | PG_DB_DISCOVERY => exact .steps (.discovery _ _)
  | PG_VERSION | PG_STARTTIME | PG_UPTIME | PG_PREPARED_XACTS_RATIO | PG_BACKENDS_FREE
  | PG_BG_AVG_INTERVAL | PG_BG_STATS_RESET_INTERVAL => exact .steps (.scalar _ _ _)

theorem mode_deep (deep : Deep request) (query : CStr) : modePlan request query = .wide query := by
  unfold modePlan
  exact if_pos deep

/-- A deep search has the plan of one, unless its filters do not fit. -/
theorem deep_plan (deep : SearchesDeep request f) :
    (∃ query, plan g request f = .wide query) ∨
      plan g request f = .steps (.fault .bufferOverrun) := by
  obtain ⟨hf, mode⟩ := deep
  simp only [List.mem_cons, List.not_mem_nil, or_false] at hf
  rcases hf with rfl | rfl | rfl
  · exact .inl ⟨_, mode_deep mode _⟩
  · exact .inl ⟨_, mode_deep mode _⟩
  · rw [plan, indexDiscoveryPlan]
    cases indexDiscoveryQuery request with
    | none => exact .inr rfl
    | some query => exact .inl ⟨query, mode_deep mode query⟩

end Plans

end LibZbxPgsql.PlanShapes
