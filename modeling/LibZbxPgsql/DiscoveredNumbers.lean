import LibZbxPgsql.IndexFilters
import LibZbxPgsql.IntegerResults
import LibZbxPgsql.RatioQueries

set_option autoImplicit false

namespace LibZbxPgsql.DiscoveredNumbers
open StateFaultWp CStrings PrintfFormat AgentModel Connections Drivers Discovery
open TableKeys IndexKeys ItemKeys
open Dialogues Sessions DialogueRefinement DriverDialogues HandlerPlans KeyPlans
open HandleDiscipline Conclusions QueryBinding NumberTexts Reports IntegerResults
open SqlTokens SqlQueries SqlEvaluation SqlJoins SystemCatalogs RatioQueries

def pg_class : Name := "pg_class".toList

def relkind : ObjectKind → Char
  | .table => 'r'
  | .index => 'i'

def sizeText : ObjectKind → CStr
  | .table => PGSQL_GET_TABLE_SIZE
  | .index => PGSQL_GET_INDEX_SIZE

def rowsText : ObjectKind → CStr
  | .table => PGSQL_GET_TABLE_ROWS
  | .index => PGSQL_GET_INDEX_ROWS

def discoverHandler : ObjectKind → Handler
  | .table => .PG_TABLE_DISCOVERY
  | .index => .PG_INDEX_DISCOVERY

def sizeHandler : ObjectKind → Handler
  | .table => .PG_TABLE_SIZE
  | .index => .PG_INDEX_SIZE

def rowsHandler : ObjectKind → Handler
  | .table => .PG_TABLE_ROWS
  | .index => .PG_INDEX_ROWS

def sizeItem : Expr := .binary .mul (.cast (.column "relpages".toList) .integer) (.int 8192)

def rowsItem : Expr := .column "reltuples".toList

def namesakeConditions (kind : ObjectKind) : List Expr :=
  [.binary .eq (.column "relkind".toList) (.text [relkind kind]),
   .binary .eq (.column "relname".toList) (.param 1)]

set_option maxRecDepth 8000 in
theorem parse_size (kind : ObjectKind) :
    parse (sizeText kind) = some ⟨sizeItem, pg_class, namesakeConditions kind⟩ := by
  cases kind <;> unfold sizeText <;> dsimp only
  · unfold PGSQL_GET_TABLE_SIZE
    simp only [literal, List.flatMap_cons, List.flatMap_nil]
    repeat rw [String.toList_ofList]
    decide
  · unfold PGSQL_GET_INDEX_SIZE
    simp only [literal, List.flatMap_cons, List.flatMap_nil]
    repeat rw [String.toList_ofList]
    decide

set_option maxRecDepth 8000 in
theorem parse_rows (kind : ObjectKind) :
    parse (rowsText kind) = some ⟨rowsItem, pg_class, namesakeConditions kind⟩ := by
  cases kind <;> unfold rowsText <;> dsimp only
  · unfold PGSQL_GET_TABLE_ROWS
    simp only [literal, List.flatMap_cons, List.flatMap_nil]
    repeat rw [String.toList_ofList]
    decide
  · unfold PGSQL_GET_INDEX_ROWS
    simp only [literal, List.flatMap_cons, List.flatMap_nil]
    repeat rw [String.toList_ofList]
    decide

section Rows
variable {α : Type}

def classColumns : Columns α Relation :=
  [("relname".toList, .name, fun c => some (.text c.relname)),
   ("relkind".toList, .name, fun c => some (.text [c.relkind])),
   ("relpages".toList, .integer, fun c => some (.number c.relpages)),
   ("reltuples".toList, .float, fun c => some (.number c.reltuples))]

def classTable (rows : List Relation) : Table α := tableOf classColumns rows

theorem lookup_pages : (classColumns (α := α)).lookup "relpages".toList =
    some (.integer, fun c => some (.number c.relpages)) := rfl

theorem lookup_tuples : (classColumns (α := α)).lookup "reltuples".toList =
    some (.float, fun c => some (.number c.reltuples)) := rfl

def namesake (kind : ObjectKind) (name : Name) (c : Relation) : Bool :=
  c.relkind = relkind kind && c.relname = name

variable [DecidableEq α] (session : Session α) (kind : ObjectKind) (rows : List Relation)
  (d c : Relation)

theorem namesake_keeps :
    keeps session (classTable (α := α) rows).types [d.relname] (namesakeConditions kind)
      (rowOf classColumns c) = some (namesake kind d.relname c) := by
  have of_kind : Decides session (classTable (α := α) rows).types [d.relname]
      (rowOf classColumns c) (.binary .eq (.column "relkind".toList) (.text [relkind kind]))
      (decide ([c.relkind] = [relkind kind])) :=
    decides_literal session (g := fun c : Relation => [c.relkind]) rfl (by cases kind <;> decide)
  have of_name : Decides session (classTable (α := α) rows).types [d.relname]
      (rowOf classColumns c) (.binary .eq (.column "relname".toList) (.param 1))
      (decide (some c.relname = some d.relname)) := by
    have read : input session .name d.relname = some (.text d.relname) := by
      rw [input, d.fits]
    exact decides_param session embeds_text (g := fun c : Relation => some c.relname) rfl
      (by decide) rfl read
  have both := keeps_of_decides session of_kind
    (keeps_of_decides session of_name (keeps_nil session))
  simp only [List.cons.injEq, and_true, Option.some.injEq, Bool.and_true] at both
  exact both

theorem size_value :
    evalRow session (classTable (α := α) rows).types [d.relname] (rowOf classColumns c) sizeItem =
      some (some (.number (c.relpages * 8192))) := by
  have pages : evalRow session (classTable (α := α) rows).types [d.relname]
      (rowOf classColumns c) (.column "relpages".toList) = some (some (.number c.relpages)) :=
    evalRow_column session rows c _ lookup_pages
  have widened : evalRow session (classTable (α := α) rows).types [d.relname]
      (rowOf classColumns c) (.cast (.column "relpages".toList) .integer) =
        some (some (.number c.relpages)) :=
    eval_cast session .integer pages
  have block : evalRow session (classTable (α := α) rows).types [d.relname]
      (rowOf classColumns c) (.int 8192) = some (some (.number 8192)) := rfl
  exact eval_binary session .mul (t := .integer) (u := .integer) rfl rfl (by decide) (by decide)
    widened block

/-- The first value of a query by name, over the rows in this order. -/
theorem number_returns {text : CStr} {item : Expr} {f : Relation → SqlEvaluation.Value α}
    (read : parse text = some ⟨item, pg_class, namesakeConditions kind⟩)
    (single : aggregates item = false)
    (values : ∀ c, evalRow session (classTable (α := α) rows).types [d.relname]
      (rowOf classColumns c) item = some (f c)) :
    firstValue session pg_class (classTable rows) (text, [d.relname]) =
      ((rows.filter (namesake kind d.relname)).map f).head? := by
  have returned : SqlEvaluation.run session (classTable rows) [d.relname]
      ⟨item, pg_class, namesakeConditions kind⟩ =
        some ((rows.filter (namesake kind d.relname)).map f) :=
    run_rows session pg_class single
      (fun c _ => namesake_keeps session kind rows d c) values
  rw [firstValue, read, Option.bind_some, if_pos rfl, returned, Option.bind_some]

theorem size_returns :
    firstValue session pg_class (classTable rows) (sizeText kind, [d.relname]) =
      ((rows.filter (namesake kind d.relname)).map fun c =>
        (some (.number (c.relpages * 8192)) : SqlEvaluation.Value α)).head? :=
  number_returns session kind rows d (parse_size kind) rfl fun c => size_value session rows d c

theorem rows_returns :
    firstValue session pg_class (classTable rows) (rowsText kind, [d.relname]) =
      ((rows.filter (namesake kind d.relname)).map fun c =>
        (some (.number c.reltuples) : SqlEvaluation.Value α)).head? :=
  number_returns session kind rows d (parse_rows kind) rfl fun c =>
    evalRow_column session rows c _ lookup_tuples

end Rows

section Numbers
variable {α : Type} [DecidableEq α] (session : Session α) (kind : ObjectKind) (cat : Catalog)
  (d : Relation)

/-- In whatever order the rows come, the relation's name returns its own numbers. -/
def OwnNumbers : Prop :=
  ∀ order : List Relation, order.Perm cat.pg_class →
    firstValue session pg_class (classTable order) (sizeText kind, [d.relname]) =
        some (some (.number (d.relpages * 8192))) ∧
      firstValue session pg_class (classTable order) (rowsText kind, [d.relname]) =
        some (some (.number d.reltuples))

/-- There is a relation of its kind and name, and every one has the same numbers. -/
def SharesNumbers : Prop :=
  (∃ c ∈ cat.pg_class, namesake kind d.relname c = true) ∧
    ∀ c ∈ cat.pg_class, namesake kind d.relname c = true →
      c.relpages = d.relpages ∧ c.reltuples = d.reltuples

instance : Decidable (SharesNumbers kind cat d) := inferInstanceAs (Decidable (_ ∧ _))

theorem ownNumbers_iff : OwnNumbers session kind cat d ↔ SharesNumbers kind cat d := by
  have sizes := heads_eq_iff (namesake kind d.relname)
    (fun c => (some (.number (c.relpages * 8192)) : SqlEvaluation.Value α)) cat.pg_class
    (some (.number (d.relpages * 8192)))
  have tuples := heads_eq_iff (namesake kind d.relname)
    (fun c => (some (.number c.reltuples) : SqlEvaluation.Value α)) cat.pg_class
    (some (.number d.reltuples))
  simp only [OwnNumbers, size_returns, rows_returns]
  constructor
  · intro own
    obtain ⟨given, pages⟩ := sizes.mp fun order perm => (own order perm).1
    obtain ⟨-, counts⟩ := tuples.mp fun order perm => (own order perm).2
    refine ⟨given, fun c hc alike => ⟨?_, ?_⟩⟩
    · have scaled := pages c hc alike
      simp only [Option.some.injEq, Datum.number.injEq] at scaled
      have equal : (c.relpages : ℚ) = d.relpages := by linarith
      exact_mod_cast equal
    · have equal := counts c hc alike
      simp only [Option.some.injEq, Datum.number.injEq] at equal
      exact equal
  · rintro ⟨given, alike⟩ order perm
    refine ⟨sizes.mpr ⟨given, fun c hc same => ?_⟩ order perm,
      tuples.mpr ⟨given, fun c hc same => ?_⟩ order perm⟩
    · rw [(alike c hc same).1]
    · rw [(alike c hc same).2]

/-- Numbers as the server keeps them: of pages, and of rows where it printed them in full. -/
structure Storable (c : Relation) : Prop where
  pages : ∃ n : ℕ, n < 2 ^ 32 ∧ c.relpages = n
  tuples : ∃ n : ℕ, n < 2 ^ 64 ∧ c.reltuples = n

/-- In whatever order the rows come, what the keys report for the name is of its relation. -/
def OwnReports : Prop :=
  ∀ order : List Relation, order.Perm cat.pg_class →
    (firstValue session pg_class (classTable order) (sizeText kind, [d.relname])).map uint64Of =
        some ⌊(d.relpages * 8192 : ℚ)⌋₊ ∧
      (firstValue session pg_class (classTable order) (rowsText kind, [d.relname])).map uint64Of =
        some ⌊d.reltuples⌋₊

variable {cat d}

omit [DecidableEq α] in
theorem uint64Of_stored {q : ℚ} (stored : ∃ n : ℕ, n < 2 ^ 64 ∧ q = n) :
    uint64Of (some (.number q) : SqlEvaluation.Value α) = ⌊q⌋₊ := by
  obtain ⟨n, small, rfl⟩ := stored
  have read := uint64Of_natural (α := α) (some n)
  rw [capped, Option.getD_some, Nat.min_eq_left (by simp only [ULLONG_MAX]; omega)] at read
  rw [Nat.floor_natCast]
  exact read

theorem Storable.bytes {c : Relation} (stored : Storable c) :
    ∃ n : ℕ, n < 2 ^ 64 ∧ (c.relpages * 8192 : ℚ) = n := by
  obtain ⟨n, small, pages⟩ := stored.pages
  refine ⟨n * 8192, by omega, ?_⟩
  rw [pages]
  push_cast
  rfl

theorem floor_inj {p q : ℚ} (hp : ∃ n : ℕ, n < 2 ^ 64 ∧ p = n) (hq : ∃ n : ℕ, n < 2 ^ 64 ∧ q = n) :
    ⌊p⌋₊ = ⌊q⌋₊ ↔ p = q := by
  obtain ⟨m, -, rfl⟩ := hp
  obtain ⟨n, -, rfl⟩ := hq
  rw [Nat.floor_natCast, Nat.floor_natCast, Nat.cast_inj]

/-- No two of these numbers are reported alike, so that the condition is that of the reports. -/
theorem ownReports_iff (stored : ∀ c ∈ cat.pg_class, Storable c) (own : Storable d) :
    OwnReports session kind cat d ↔ SharesNumbers kind cat d := by
  have sizes := heads_eq_iff (namesake kind d.relname)
    (fun c => uint64Of (some (.number (c.relpages * 8192)) : SqlEvaluation.Value α)) cat.pg_class
    ⌊(d.relpages * 8192 : ℚ)⌋₊
  have tuples := heads_eq_iff (namesake kind d.relname)
    (fun c => uint64Of (some (.number c.reltuples) : SqlEvaluation.Value α)) cat.pg_class
    ⌊d.reltuples⌋₊
  have pages : ∀ c ∈ cat.pg_class, (uint64Of (some (.number (c.relpages * 8192)) :
      SqlEvaluation.Value α) = ⌊(d.relpages * 8192 : ℚ)⌋₊ ↔ c.relpages = d.relpages) := by
    intro c hc
    rw [uint64Of_stored (stored c hc).bytes, floor_inj (stored c hc).bytes own.bytes,
      mul_left_inj' (by norm_num), Int.cast_inj]
  have counts : ∀ c ∈ cat.pg_class, (uint64Of (some (.number c.reltuples) :
      SqlEvaluation.Value α) = ⌊d.reltuples⌋₊ ↔ c.reltuples = d.reltuples) := by
    intro c hc
    rw [uint64Of_stored (stored c hc).tuples, floor_inj (stored c hc).tuples own.tuples]
  simp only [OwnReports, size_returns, rows_returns, ← List.head?_map, List.map_map]
  constructor
  · intro reports
    obtain ⟨given, alike⟩ := sizes.mp fun order perm => (reports order perm).1
    obtain ⟨-, alike'⟩ := tuples.mp fun order perm => (reports order perm).2
    exact ⟨given, fun c hc same =>
      ⟨(pages c hc).mp (alike c hc same), (counts c hc).mp (alike' c hc same)⟩⟩
  · rintro ⟨given, alike⟩ order perm
    exact ⟨sizes.mpr ⟨given, fun c hc same => (pages c hc).mpr (alike c hc same).1⟩ order perm,
      tuples.mpr ⟨given, fun c hc same => (counts c hc).mpr (alike c hc same).2⟩ order perm⟩

end Numbers

section Runs
variable {S : Server} {g : Globals} {request : AGENT_REQUEST}

def Shallow (kind : ObjectKind) (request : AGENT_REQUEST) : Prop :=
  get_rparam request PARAM_FIRST = some "shallow".toList ∧
    (kind = .index → strisnull (get_rparam request (PARAM_FIRST + 1)) = true ∧
      strisnull (get_rparam request (PARAM_FIRST + 2)) = true)

theorem filteredQuery_absent (query column : CStr) {param : Option CStr}
    (absent : strisnull param = true) : filteredQuery query column param = some query := by
  match param, absent with
  | none, _ => rfl
  | some [], _ => rfl

theorem modePlan_shallow (query : CStr)
    (shallow : get_rparam request PARAM_FIRST = some "shallow".toList) :
    modePlan request query = .steps (.discovery query) := by
  have other : ¬ (strisnull (some "shallow".toList) = true ∨
      some "shallow".toList = some "deep".toList) := by decide
  simp only [modePlan, shallow]
  rw [if_neg other, if_pos True.intro]

theorem discovery_plan {kind : ObjectKind} (shallow : Shallow kind request) :
    plan g request (discoverHandler kind) = .steps (.discovery kind.discoverText) := by
  cases kind with
  | table => exact modePlan_shallow _ shallow.1
  | index =>
    obtain ⟨schema, table⟩ := shallow.2 rfl
    have whole : zbx_strlcpy PGSQL_DISCOVER_INDEXES MAX_STRING_LEN = PGSQL_DISCOVER_INDEXES := by
      have length := IndexFilters.discover_length
      exact List.take_of_length_le (by simp only [MAX_STRING_LEN]; omega)
    change indexDiscoveryPlan request = _
    rw [indexDiscoveryPlan, indexDiscoveryQuery, filteredQuery_absent _ _ schema,
      Option.bind_some, filteredQuery_absent _ _ table, whole]
    exact modePlan_shallow _ shallow.1

theorem discovery_sends {kind : ObjectKind} (shallow : Shallow kind request) {server : S.State}
    (reached : ¬ Refused S server request) :
    commands (lastState (call g request (discoverHandler kind) (World.start server))).trace =
      [(kind.discoverText, [])] := by
  rw [call_sent, played, discovery_plan shallow]
  exact discovery_sent reached

theorem number_runs (kind : ObjectKind) {name : CStr} (given : name ≠ [])
    (asked : get_rparam request PARAM_FIRST = some name) :
    RunsQuery S g request (sizeHandler kind) .AR_UINT64 (sizeText kind, [name]) ∧
      RunsQuery S g request (rowsHandler kind) .AR_UINT64 (rowsText kind, [name]) := by
  obtain ⟨c, n, rfl⟩ := List.exists_cons_of_ne_nil given
  have by_name : ∀ all one : CStr, (intByNamePlan request all one).dialogue request =
      resultAsk request .AR_UINT64 one [c :: n] := by
    intro all one
    rw [intByName_asks, asked]
    rfl
  have optional : ∀ all one : CStr,
      (optionalNamePlan request .AR_UINT64 all one).dialogue request =
        resultAsk request .AR_UINT64 one [c :: n] := by
    intro all one
    simp only [optionalNamePlan, asked]
    rfl
  cases kind with
  | table => exact ⟨runsQuery_of_asks (by_name _ _), runsQuery_of_asks (by_name _ _)⟩
  | index => exact ⟨runsQuery_of_asks (optional _ _), runsQuery_of_asks (by_name _ _)⟩

end Runs

section Main
variable {α : Type} [DecidableEq α]

/-- What the keys of a kind send: the discovery its text, and the two others their query by
    the name they are given. -/
def Sends (kind : ObjectKind) : Prop :=
  ∀ (S : Server) (g : Globals) (request : AGENT_REQUEST),
    (Shallow kind request → ∀ server : S.State, ¬ Refused S server request →
      commands (lastState (call g request (discoverHandler kind) (World.start server))).trace =
        [(kind.discoverText, [])]) ∧
    ∀ name, name ≠ [] → get_rparam request PARAM_FIRST = some name →
      RunsQuery S g request (sizeHandler kind) .AR_UINT64 (sizeText kind, [name]) ∧
        RunsQuery S g request (rowsHandler kind) .AR_UINT64 (rowsText kind, [name])

def Emits (session : Session α) (cat : Catalog) (kind : ObjectKind) : Prop :=
  ∃ q, parseJoin kind.discoverText = some q ∧ q.tables = kind.tables ∧
    runJoin session (kind.joins cat) [] kind.output q =
      some ((kind.discovered cat).map fun d => some (.text d.relname))

/-- Every table and index discovered is monitored by its own numbers exactly where all
    relations of its kind and name, in whatever schema, have the same numbers. -/
theorem discovered_own_numbers_iff (session : Session α) (cat : Catalog) :
    (∀ kind, Sends kind ∧ Emits session cat kind) ∧
      ((∀ kind, ∀ d ∈ ObjectKind.discovered cat kind, OwnNumbers session kind cat d) ↔
        ∀ kind, ∀ d ∈ ObjectKind.discovered cat kind, SharesNumbers kind cat d) := by
  refine ⟨fun kind => ⟨fun S g request => ⟨fun shallow server reached =>
    discovery_sends shallow reached, fun name given asked => number_runs kind given asked⟩,
    ⟨_, parse_discover kind, rfl, discovery_returns session cat kind⟩⟩, ?_⟩
  simp only [ownNumbers_iff]

end Main

def relation (oid schema : ℕ) (name : String) (pages : ℤ) (tuples : ℚ)
    (named : name.toList ≠ []) (fits : nameIn 63 name.toList = name.toList) : Relation :=
  ⟨oid, name.toList, schema, 1, 10, 0, 'r', pages, tuples, named, fits⟩

def noAddresses : Session (List Char) := ⟨1, fun _ => none, fun _ => none⟩

def twoSchemas : Catalog where
  pg_namespace := [⟨2200, "public".toList⟩, ⟨16384, "archive".toList⟩]
  pg_class := [relation 16390 2200 "events" 10 1000 (by decide) (by decide),
    relation 16400 16384 "events" 500 80000 (by decide) (by decide)]
  pg_type := [1]
  pg_index := []
  pg_roles := [10]
  pg_am := []
  unique := by decide

/-- Both are discovered, and one of them is monitored by the other's numbers. -/
theorem namesakes_share_numbers :
    ¬ ∀ kind, ∀ d ∈ ObjectKind.discovered twoSchemas kind,
      OwnNumbers noAddresses kind twoSchemas d := by
  simp only [ownNumbers_iff]
  intro own
  have events := own .table (relation 16390 2200 "events" 10 1000 (by decide) (by decide))
    (by decide)
  revert events
  decide

end LibZbxPgsql.DiscoveredNumbers
