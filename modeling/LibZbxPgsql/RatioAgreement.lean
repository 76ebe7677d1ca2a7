import LibZbxPgsql.IntegerResults
import LibZbxPgsql.RatioQueries

set_option autoImplicit false

namespace LibZbxPgsql.RatioAgreement
open StateFaultWp CStrings PrintfFormat AgentModel Connections Drivers ItemKeys
open Dialogues Sessions DialogueRefinement DriverDialogues HandlerPlans KeyPlans
open NumberTexts Reports IntegerResults SqlTokens SqlQueries SqlEvaluation SystemCatalogs
open QueryBinding RatioQueries

/-- A row: of a relation, an index or a database. A counter may be `NULL`. -/
structure Counters where
  schemaname : Name
  name : Option Name
  counter : Name → Option ℕ

namespace RatioKey

def counterColumns : RatioKey → List Name
  | .heap | .idx | .toast | .tidx =>
    ["heap_blks_read".toList, "heap_blks_hit".toList, "idx_blks_read".toList,
     "idx_blks_hit".toList, "toast_blks_read".toList, "toast_blks_hit".toList,
     "tidx_blks_read".toList, "tidx_blks_hit".toList]
  | .idxScan => ["seq_scan".toList, "idx_scan".toList]
  | .index => ["idx_blks_read".toList, "idx_blks_hit".toList]
  | .database => ["blks_read".toList, "blks_hit".toList]

end RatioKey

section Views
variable {α : Type}

def schemaColumn : RatioKey → Columns α Counters
  | .heap | .idx | .toast | .tidx | .idxScan | .index =>
    [("schemaname".toList, .name, fun r => some (.text r.schemaname))]
  | .database => []

def columns (key : RatioKey) : Columns α Counters :=
  schemaColumn key ++ (key.nameColumn, .name, fun r => r.name.map .text) ::
    (RatioKey.counterColumns key).map fun c => (c, .integer, fun r => natural (r.counter c))

def statistics (key : RatioKey) (rows : List Counters) : Table α := tableOf (columns key) rows

theorem lookup_name (key : RatioKey) :
    (columns (α := α) key).lookup key.nameColumn =
      some (.name, fun r => r.name.map .text) := by
  cases key <;> rfl

theorem lookup_schema {key : RatioKey} (h : key ≠ .database) :
    (columns (α := α) key).lookup "schemaname".toList =
      some (.name, fun r => some (.text r.schemaname)) := by
  cases key <;> first | rfl | exact absurd rfl h

theorem lookup_counter (key : RatioKey) {field : Name} (two : field ∈ key.fields) :
    (columns (α := α) key).lookup field =
      some (.integer, fun r => natural (r.counter field)) := by
  simp only [RatioKey.fields, List.mem_cons, List.not_mem_nil, or_false] at two
  rcases two with rfl | rfl <;> cases key <;> rfl

end Views

theorem merge_some {a b : Option ℕ} (present : a ≠ none ∨ b ≠ none) :
    Option.merge (· + ·) a b = some (a.getD 0 + b.getD 0) := by
  cases a <;> cases b <;> simp_all

theorem merge_assoc (a b c : Option ℕ) :
    Option.merge (· + ·) (Option.merge (· + ·) a b) c =
      Option.merge (· + ·) a (Option.merge (· + ·) b c) := by
  cases a <;> cases b <;> cases c <;> simp [Nat.add_assoc]

theorem merge_left_comm (a b c : Option ℕ) :
    Option.merge (· + ·) a (Option.merge (· + ·) b c) =
      Option.merge (· + ·) b (Option.merge (· + ·) a c) := by
  cases a <;> cases b <;> cases c <;> simp [Nat.add_left_comm, Nat.add_comm]

def counted (key : RatioKey) (r : Counters) : Bool :=
  key = .database || userSchema r.schemaname

/-- The row that a query with this name returns first. -/
def firstNamed (rows : List Counters) (name : Option CStr) : List Counters :=
  (rows.filter fun r => r.name = some (nameIn 63 (name.getD []))).head?.toList

def ratioRows (rows : List Counters) (name : Option CStr) : List Counters :=
  if strisnull name then rows else firstNamed rows name

def counterRows (key : RatioKey) (rows : List Counters) (name : Option CStr) : List Counters :=
  if strisnull name then rows.filter (counted key) else firstNamed rows name

/-- The rows of the system schemas, that a ratio reads and its counters do not. -/
def systemRows (key : RatioKey) (rows : List Counters) (name : Option CStr) : List Counters :=
  if strisnull name then rows.filter fun r => !counted key r else []

def totalOf (field : Name) (rows : List Counters) : Option ℕ :=
  total (rows.map fun r => r.counter field)

theorem total_cons (n : Option ℕ) (l : List (Option ℕ)) :
    total (n :: l) = Option.merge (· + ·) n (total l) := by
  rw [total, total]
  cases n with
  | none =>
    rw [List.filterMap_cons_none (by rfl)]
    cases l.filterMap id <;> rfl
  | some n =>
    rw [List.filterMap_cons_some (b := n) (by rfl)]
    cases l.filterMap id <;> rfl

theorem total_split (p : Counters → Bool) (field : Name) (rows : List Counters) :
    totalOf field rows = Option.merge (· + ·) (totalOf field (rows.filter p))
      (totalOf field (rows.filter fun r => !p r)) := by
  simp only [totalOf]
  induction rows with
  | nil => rfl
  | cons r rows ih =>
    rw [List.map_cons, total_cons, ih]
    cases hp : p r
    · rw [List.filter_cons_of_neg (by simp [hp]), List.filter_cons_of_pos (by simp [hp]),
        List.map_cons, total_cons]
      exact merge_left_comm _ _ _
    · rw [List.filter_cons_of_pos (by simp [hp]), List.filter_cons_of_neg (by simp [hp]),
        List.map_cons, total_cons]
      exact (merge_assoc _ _ _).symm

theorem ratioRows_total (key : RatioKey) (field : Name) (rows : List Counters)
    (name : Option CStr) :
    totalOf field (ratioRows rows name) =
      Option.merge (· + ·) (totalOf field (counterRows key rows name))
        (totalOf field (systemRows key rows name)) := by
  rw [ratioRows, counterRows, systemRows]
  split
  · exact total_split (counted key) field rows
  · exact Option.merge_none_right.symm

section Keeps
variable {α : Type} [DecidableEq α] (session : Session α) (key : RatioKey)
  (rows : List Counters) (params : List CStr) (r : Counters)

theorem schema_keeps :
    keeps session (statistics (α := α) key rows).types params (schemaConditions key)
      (rowOf (columns key) r) = some (counted key r) := by
  cases key with
  | heap | idx | toast | tidx | idxScan =>
    exact user_keeps session (columns _) (lookup_schema (by decide)) rows params r
  | index =>
    obtain ⟨catalog, information, toast⟩ := user_decides session (columns .index)
      (lookup_schema (by decide)) rows params r
    have three := keeps_of_decides session toast (keeps_of_decides session catalog
      (keeps_of_decides session information (keeps_nil session)))
    rw [Bool.and_true, Bool.and_comm, Bool.and_assoc] at three
    exact three
  | database => rfl

theorem named_keeps {d : Char} {name : CStr} :
    keeps session (statistics (α := α) key rows).types [d :: name] [key.named]
        (rowOf (columns key) r) =
      some (decide (r.name = some (nameIn 63 (d :: name)))) := by
  have decided : Decides session (statistics (α := α) key rows).types [d :: name]
      (rowOf (columns key) r) key.named (decide (r.name = some (nameIn 63 (d :: name)))) :=
    decides_param session embeds_text (lookup_name key) (by decide) (by rfl) rfl
  have one := keeps_of_decides session decided (keeps_nil session)
  rwa [Bool.and_true] at one

end Keeps

/-- What the `CASE` of a share comes to: it is `NULL` where the whole is. -/
def share {α : Type} (a whole : Option ℕ) : SqlEvaluation.Value α :=
  match whole with
  | none => none
  | some 0 => some (.number 1)
  | some w => a.map fun n : ℕ => .number (n / w)

section Shares
variable {α : Type} [DecidableEq α] {session : Session α} {types : Name → Option SqlType}
  {params : List (List Char)} {column : Name → Outcome α} {aggregate : Name → Expr → Outcome α}
  {a whole : Expr} {x w : Option ℕ} {u : SqlType}

theorem eval_share (tw : typeOf types whole = u) (ku : u ≠ .unknown)
    (ha : eval session types params column aggregate a = some (natural x))
    (hw : eval session types params column aggregate whole = some (natural w)) :
    eval session types params column aggregate (shareExpr a whole) = some (share x w) := by
  have zero : eval session types params column aggregate (.int 0) =
      some (some (.number 0)) := by
    rw [eval, Nat.cast_zero]
  have one : eval session types params column aggregate (.int 1) =
      some (some (.number 1)) := by
    rw [eval, Nat.cast_one]
  have empty : eval session types params column aggregate (.binary .eq whole (.int 0)) =
      some (w.map fun n : ℕ => .bool (n = 0)) := by
    refine (eval_binary session .eq tw (u := .integer) rfl ku (by decide) hw zero).trans ?_
    cases w <;> simp [natural, strict, operate, equal]
  have floated : eval session types params column aggregate (.cast a .float) =
      some (natural x) := by
    rw [eval_cast session .float ha]
    cases x <;> rfl
  have divided := eval_binary session .div (t := .float) rfl tw (by decide) ku floated hw
  rw [shareExpr, eval_case session empty, divided, one]
  rcases w with _ | _ | n
  · cases x <;> rfl
  · rfl
  · have nonzero : ((n + 1 : ℕ) : ℚ) ≠ 0 := by positivity
    have float : wider .float u ≠ .integer := by
      rw [wider]
      decide
    rw [if_neg (by simp)]
    cases x with
    | none => rfl
    | some m => simp only [natural, Option.map_some, strict, operate, if_neg nonzero,
        if_neg float, share]

end Shares

/-- A name that is given is that of a row. -/
def Found (rows : List Counters) (name : Option CStr) : Prop :=
  strisnull name = false → ∃ r ∈ rows, r.name = some (nameIn 63 (name.getD []))

theorem total_single (x : Option ℕ) : total [x] = x := by
  cases x <;> rfl

/-- Of the whole, whichever summand comes first. -/
theorem summands_total (key : RatioKey) (f : Name → Option ℕ) :
    Option.map₂ (· + ·) (f key.summands.1) (f key.summands.2) =
      Option.map₂ (· + ·) (f key.hit) (f key.other) := by
  cases key with
  | heap | idx | toast | tidx | index | database => rfl
  | idxScan => exact Option.map₂_comm fun a b => Nat.add_comm a b

theorem summands_fields (key : RatioKey) :
    key.summands.1 ∈ key.fields ∧ key.summands.2 ∈ key.fields := by
  cases key <;> decide

/-- The row named, where it is found. -/
theorem firstNamed_found {rows : List Counters} {name : Option CStr} (found : Found rows name)
    (given : strisnull name = false) :
    ∃ r, (rows.filter fun r => r.name = some (nameIn 63 (name.getD []))).head? = some r ∧
      firstNamed rows name = [r] := by
  obtain ⟨r, hr, named⟩ := found given
  have kept : r ∈ rows.filter fun r => r.name = some (nameIn 63 (name.getD [])) := by
    rw [List.mem_filter]
    exact ⟨hr, by simpa using named⟩
  cases h : rows.filter fun r => r.name = some (nameIn 63 (name.getD [])) with
  | nil =>
    rw [h] at kept
    cases kept
  | cons first rest => exact ⟨first, rfl, by rw [firstNamed, h]; rfl⟩

theorem given_cons {name : Option CStr} (given : strisnull name = false) :
    ∃ d n, name = some (d :: n) := by
  match name, given with
  | some (d :: n), _ => exact ⟨d, n, rfl⟩

section Values
variable {α : Type} [DecidableEq α] (session : Session α) (key : RatioKey)
  (rows : List Counters) (params : List CStr) {field : Name} {name : Option CStr}

/-- A query of this view answers with its first value. -/
theorem firstValue_of {text : CStr} {q : Query} {values : List (SqlEvaluation.Value α)}
    (read : parse text = some q) (view : q.table = key.view)
    (run : SqlEvaluation.run session (statistics key rows) params q = some values) :
    firstValue session key.view (statistics key rows) (text, params) = values.head? := by
  rw [firstValue, read, Option.bind_some, if_pos view, run, Option.bind_some]

/-- Over the rows kept. -/
theorem all_returns {text : CStr} {item : Expr} {conditions : List Expr} {p : Counters → Bool}
    {v : SqlEvaluation.Value α} (read : parse text = some ⟨item, key.view, conditions⟩)
    (whole : aggregates item = true)
    (kept : ∀ r ∈ rows, keeps session (statistics (α := α) key rows).types params conditions
      (rowOf (columns key) r) = some (p r))
    (value : evalGroup session (statistics (α := α) key rows).types params
      ((rows.filter p).map (rowOf (columns key))) item = some v) :
    firstValue session key.view (statistics key rows) (text, params) = some v := by
  have returned : SqlEvaluation.run session (statistics key rows) params
      ⟨item, key.view, conditions⟩ = some [v] :=
    (run_group session key.view whole kept).trans (congrArg (Option.map fun v => [v]) value)
  exact firstValue_of session key rows params read rfl returned

/-- One row, in the first place, is what a query by name is read from. -/
theorem named_returns {d : Char} {n : CStr} {text : CStr} {item : Expr} {r : Counters}
    (read : parse text = some ⟨item, key.view, [key.named]⟩) (single : aggregates item = false)
    {f : Counters → SqlEvaluation.Value α}
    (values : ∀ r, evalRow session (statistics (α := α) key rows).types [d :: n]
      (rowOf (columns key) r) item = some (f r))
    (first : (rows.filter fun r => r.name = some (nameIn 63 (d :: n))).head? = some r) :
    firstValue session key.view (statistics key rows) (text, [d :: n]) = some (f r) := by
  have kept : ∀ r ∈ rows, keeps session (statistics (α := α) key rows).types [d :: n] [key.named]
      (rowOf (columns key) r) = some (decide (r.name = some (nameIn 63 (d :: n)))) :=
    fun r _ => named_keeps session key rows r
  have returned := run_rows session key.view single kept values
  rw [firstValue_of session key rows [d :: n] read rfl returned, List.head?_map, first,
    Option.map_some]

omit [DecidableEq α] in
theorem typeOf_field (two : field ∈ key.fields) :
    typeOf (statistics (α := α) key rows).types (.column field) = .integer :=
  typeOf_column (lookup_counter key two)

section Sums
variable (group : List Counters)

theorem group_field (two : field ∈ key.fields) :
    evalGroup session (statistics (α := α) key rows).types params (group.map (rowOf (columns key)))
      (sumOf field) = some (natural (totalOf field group)) :=
  group_sum session params fun r _ => evalRow_column session rows r params (lookup_counter key two)

theorem group_cast (two : field ∈ key.fields) :
    evalGroup session (statistics (α := α) key rows).types params (group.map (rowOf (columns key)))
      (.apply sum (.cast (.column field) .integer)) = some (natural (totalOf field group)) := by
  apply group_sum session params
  intro r _
  have column := evalRow_column session rows r params (lookup_counter key two)
  have own := typeOf_field (α := α) key rows two
  refine (eval_cast session .integer column).trans ?_
  rw [← statistics, own]
  cases r.counter field <;> rfl

theorem group_share :
    evalGroup session (statistics (α := α) key rows).types params (group.map (rowOf (columns key)))
      key.allRatio.item = some (share (totalOf key.hit group)
        (Option.map₂ (· + ·) (totalOf key.hit group) (totalOf key.other group))) := by
  obtain ⟨first, second⟩ := summands_fields key
  have known : ∀ {field}, field ∈ key.fields →
      typeOf (statistics (α := α) key rows).types (sumOf field) = .numeric := by
    intro field two
    rw [sumOf, typeOf, if_pos rfl, typeOf_field key rows two]
    rfl
  have whole := eval_binary session .add (known first) (known second) (by decide) (by decide)
    (group_field session key rows params group first)
    (group_field session key rows params group second)
  rw [strict_add, summands_total key fun field => totalOf field group] at whole
  refine eval_share (u := .numeric) ?_ (by decide)
    (group_field session key rows params group List.mem_cons_self) whole
  rw [typeOf, known first, known second]
  rfl

end Sums

/-- A row's own share. -/
theorem row_share (r : Counters) :
    evalRow session (statistics (α := α) key rows).types params (rowOf (columns key) r)
      key.oneRatio.item = some (share (r.counter key.hit)
        (Option.map₂ (· + ·) (r.counter key.hit) (r.counter key.other))) := by
  obtain ⟨first, second⟩ := summands_fields key
  have first_known := typeOf_field (α := α) key rows first
  have second_known := typeOf_field (α := α) key rows second
  have value : ∀ {field}, field ∈ key.fields →
      evalRow session (statistics (α := α) key rows).types params (rowOf (columns key) r)
        (.column field) = some (natural (r.counter field)) :=
    fun two => evalRow_column session rows r params (lookup_counter key two)
  have whole := eval_binary session .add first_known second_known (by decide) (by decide)
    (value first) (value second)
  rw [strict_add, summands_total key r.counter] at whole
  refine eval_share (u := .integer) ?_ (by decide) (value List.mem_cons_self) whole
  rw [typeOf, first_known, second_known]
  rfl

theorem ratio_returns (found : Found rows name) :
    firstValue session key.view (statistics key rows) (key.ratioCommand name) =
      some (share (totalOf key.hit (ratioRows rows name))
        (Option.map₂ (· + ·) (totalOf key.hit (ratioRows rows name))
          (totalOf key.other (ratioRows rows name)))) := by
  rw [RatioKey.ratioCommand, ratioRows]
  cases given : strisnull name with
  | true =>
    have all : ∀ r ∈ rows, keeps session (statistics (α := α) key rows).types (bound name) []
        (rowOf (columns key) r) = some true := fun _ _ => keeps_nil session
    have value := group_share session key rows (bound name) rows
    rw [if_pos rfl, if_pos rfl]
    refine all_returns session key rows _ (parse_allText key) rfl all ?_
    rw [List.filter_true]
    exact value
  | false =>
    obtain ⟨d, n, rfl⟩ := given_cons given
    obtain ⟨r, first, only⟩ := firstNamed_found found given
    rw [if_neg (by decide), if_neg (by decide), only]
    simp only [totalOf, List.map_singleton, total_single]
    exact named_returns session key rows (parse_oneText key) rfl
      (row_share session key rows [d :: n]) first

theorem counter_returns (two : field ∈ key.fields) (found : Found rows name) :
    firstValue session key.view (statistics key rows) (key.counterCommand field name) =
      some (natural (totalOf field (counterRows key rows name))) := by
  rw [RatioKey.counterCommand, counterRows]
  cases given : strisnull name with
  | true =>
    rw [if_pos rfl, if_pos rfl]
    exact all_returns session key rows _ (parse_allCounter key two) rfl
      (fun r _ => schema_keeps session key rows (bound name) r)
      (group_cast session key rows (bound name) (rows.filter (counted key)) two)
  | false =>
    obtain ⟨d, n, rfl⟩ := given_cons given
    obtain ⟨r, first, only⟩ := firstNamed_found found given
    rw [if_neg (by decide), if_neg (by decide), only]
    simp only [totalOf, List.map_singleton, total_single]
    exact named_returns session key rows (parse_oneCounter key two) rfl
      (fun r => evalRow_column session rows r _ (lookup_counter key two)) first

end Values

section Readings
variable {α : Type}

/-- A field as `pg_get_dbl` reports it: a number exactly, and `NULL` as an empty text. -/
def doubleOf : SqlEvaluation.Value α → ℚ
  | some (.number q) => q
  | _ => strtod (fieldText none)

def quotient (a b : ℕ) : ℚ := if a + b = 0 then 1 else a / (a + b)

theorem doubleOf_share (a b : ℕ) :
    doubleOf (share (α := α) (some a) (Option.map₂ (· + ·) (some a) (some b))) =
      quotient a b := by
  rw [quotient]
  by_cases zero : a + b = 0
  · obtain ⟨rfl, rfl⟩ := Nat.add_eq_zero_iff.mp zero
    rfl
  · obtain ⟨n, hn⟩ := Nat.exists_eq_succ_of_ne_zero zero
    have whole : Option.map₂ (· + ·) (some a) (some b) = some (n + 1) := congrArg some hn
    have cast : ((n + 1 : ℕ) : ℚ) = a + b := by exact_mod_cast hn.symm
    rw [whole, if_neg zero, ← cast]
    rfl

theorem one_eq_quotient_iff {a b : ℕ} (given : a + b ≠ 0) :
    (1 : ℚ) = a / (a + b) ↔ b = 0 := by
  have whole : (a : ℚ) + b ≠ 0 := by exact_mod_cast given
  rw [eq_comm, div_eq_one_iff_eq whole]
  constructor
  · intro same
    have none : (b : ℚ) = 0 := by linarith
    exact_mod_cast none
  · rintro rfl
    rw [Nat.cast_zero, add_zero]

/-- In proportion; where there is nothing on one side, there is nothing but `a` on the other. -/
theorem quotient_eq_iff (a b c d : ℕ) :
    quotient a b = quotient c d ↔
      a * d = c * b ∧ (a + b = 0 ∨ c + d = 0 → b = 0 ∧ d = 0) := by
  rw [quotient, quotient]
  by_cases left : a + b = 0
  · obtain ⟨rfl, rfl⟩ := Nat.add_eq_zero_iff.mp left
    rw [if_pos left]
    by_cases right : c + d = 0
    · obtain ⟨rfl, rfl⟩ := Nat.add_eq_zero_iff.mp right
      simp
    · rw [if_neg right, one_eq_quotient_iff right]
      simp
  · rw [if_neg left]
    by_cases right : c + d = 0
    · obtain ⟨rfl, rfl⟩ := Nat.add_eq_zero_iff.mp right
      rw [if_pos right, eq_comm, one_eq_quotient_iff left]
      simp
    · have whole : (a : ℚ) + b ≠ 0 := by exact_mod_cast left
      have whole' : (c : ℚ) + d ≠ 0 := by exact_mod_cast right
      rw [if_neg right, div_eq_div_iff whole whole']
      have crossed : (a : ℚ) * (c + d) = c * (a + b) ↔ (a : ℚ) * d = c * b := by
        constructor <;> intro same <;> linarith
      have cast : (a : ℚ) * d = c * b ↔ a * d = c * b := by norm_cast
      rw [crossed, cast, and_iff_left]
      omega

theorem zero_eq_quotient_iff (a b : ℕ) : 0 = quotient a b ↔ a = 0 ∧ 0 < b := by
  rw [quotient]
  by_cases none : a + b = 0
  · rw [if_pos none]
    have empty : ¬ (a = 0 ∧ 0 < b) := by omega
    exact iff_of_false (by norm_num) empty
  · have whole : (a : ℚ) + b ≠ 0 := by exact_mod_cast none
    rw [if_neg none, eq_comm, div_eq_zero_iff, or_iff_left whole, Nat.cast_eq_zero]
    omega

def Meets (a b : Option ℕ) (c d : ℕ) : Prop :=
  match a, b with
  | some a, some b => a * d = c * b ∧ (a + b = 0 ∨ c + d = 0 → b = 0 ∧ d = 0)
  | _, _ => c = 0 ∧ 0 < d

instance (a b : Option ℕ) (c d : ℕ) : Decidable (Meets a b c d) :=
  match a, b with
  | some _, some _ => inferInstanceAs (Decidable (_ ∧ _))
  | some _, none => inferInstanceAs (Decidable (_ ∧ _))
  | none, _ => inferInstanceAs (Decidable (_ ∧ _))

/-- Of sums to which others are added, and these sums themselves. -/
theorem meets_merged (a b s t : Option ℕ) :
    Meets (Option.merge (· + ·) a s) (Option.merge (· + ·) b t) (a.getD 0) (b.getD 0) ↔
      if (a ≠ none ∨ s ≠ none) ∧ (b ≠ none ∨ t ≠ none) then
        s.getD 0 * b.getD 0 = a.getD 0 * t.getD 0 ∧
          (a.getD 0 = 0 → b.getD 0 = 0 → t.getD 0 = 0)
      else a.getD 0 = 0 ∧ 0 < b.getD 0 := by
  -- of two present sums, the cross products differ by `a * b` on both sides
  have crossed : ∀ a b s t : ℕ, ((a + s) * b = a * (b + t) ∧
      ((a + s) + (b + t) = 0 ∨ a + b = 0 → b + t = 0 ∧ b = 0)) ↔
        s * b = a * t ∧ (a = 0 → b = 0 → t = 0) := by
    intro a b s t
    rw [Nat.add_mul, Nat.mul_add, Nat.add_left_cancel_iff]
    refine and_congr_right fun _ => ?_
    omega
  split
  · next present =>
    rw [merge_some present.1, merge_some present.2]
    exact crossed _ _ _ _
  · next absent =>
    rcases not_and_or.mp absent with none | none
    · obtain ⟨rfl, rfl⟩ := not_or.mp none |>.imp not_not.mp not_not.mp
      rfl
    · obtain ⟨rfl, rfl⟩ := not_or.mp none |>.imp not_not.mp not_not.mp
      cases Option.merge (· + ·) a s <;> rfl

theorem strtod_null : strtod (fieldText none) = 0 := by
  simp [strtod, fieldText, signOf, CStrings.digitsValue]

theorem share_agrees_iff (a b : Option ℕ) (c d : ℕ) :
    doubleOf (share (α := α) a (Option.map₂ (· + ·) a b)) = quotient c d ↔ Meets a b c d := by
  match a, b with
  | some a, some b =>
    rw [doubleOf_share]
    exact quotient_eq_iff a b c d
  | some a, none =>
    change strtod (fieldText none) = quotient c d ↔ _
    rw [strtod_null]
    exact zero_eq_quotient_iff c d
  | none, b =>
    change strtod (fieldText none) = quotient c d ↔ _
    rw [strtod_null]
    exact zero_eq_quotient_iff c d

end Readings

section Main
variable {α : Type} [DecidableEq α]

/-- On one snapshot, the ratio is that of the integers that the counters report. -/
def Agrees (session : Session α) (key : RatioKey) (rows : List Counters) (name : Option CStr) :
    Prop :=
  ∃ ratio hit other,
    firstValue session key.view (statistics key rows) (key.ratioCommand name) = some ratio ∧
    firstValue session key.view (statistics key rows) (key.counterCommand key.hit name) =
      some hit ∧
    firstValue session key.view (statistics key rows) (key.counterCommand key.other name) =
      some other ∧
    doubleOf ratio = quotient (uint64Of hit) (uint64Of other)

/-- The sums over the rows of the counters, with what the system schemas add to them and
    without. -/
def InProportion (key : RatioKey) (rows : List Counters) (name : Option CStr) : Prop :=
  Meets
    (Option.merge (· + ·) (totalOf key.hit (counterRows key rows name))
      (totalOf key.hit (systemRows key rows name)))
    (Option.merge (· + ·) (totalOf key.other (counterRows key rows name))
      (totalOf key.other (systemRows key rows name)))
    (capped (totalOf key.hit (counterRows key rows name)))
    (capped (totalOf key.other (counterRows key rows name)))

variable (session : Session α) (key : RatioKey) {rows : List Counters} {name : Option CStr}

theorem agrees_iff (found : Found rows name) :
    Agrees session key rows name ↔ InProportion key rows name := by
  have ratio := ratio_returns session key rows found
  have two : key.hit ∈ key.fields ∧ key.other ∈ key.fields :=
    ⟨List.mem_cons_self, List.mem_cons_of_mem _ List.mem_cons_self⟩
  have hit := counter_returns session key rows two.1 found
  have other := counter_returns session key rows two.2 found
  have meets := share_agrees_iff (α := α) (totalOf key.hit (ratioRows rows name))
    (totalOf key.other (ratioRows rows name))
    (capped (totalOf key.hit (counterRows key rows name)))
    (capped (totalOf key.other (counterRows key rows name)))
  rw [InProportion, ← ratioRows_total, ← ratioRows_total, ← meets]
  constructor
  · rintro ⟨r, h, o, hr, hh, ho, same⟩
    cases ratio.symm.trans hr
    cases hit.symm.trans hh
    cases other.symm.trans ho
    rwa [uint64Of_natural, uint64Of_natural] at same
  · intro same
    refine ⟨_, _, _, ratio, hit, other, ?_⟩
    rw [uint64Of_natural, uint64Of_natural]
    exact same

/-- Where the result can hold the sums, the system schemas' rows are in the proportion of the
    others, or a counter is `NULL` in all of them. -/
theorem inProportion_iff {key : RatioKey} {rows : List Counters} {name : Option CStr}
    {a b s t : Option ℕ} (ha : totalOf key.hit (counterRows key rows name) = a)
    (hb : totalOf key.other (counterRows key rows name) = b)
    (hs : totalOf key.hit (systemRows key rows name) = s)
    (ht : totalOf key.other (systemRows key rows name) = t)
    (fits : a.getD 0 ≤ ULLONG_MAX ∧ b.getD 0 ≤ ULLONG_MAX) :
    InProportion key rows name ↔
      if (a ≠ none ∨ s ≠ none) ∧ (b ≠ none ∨ t ≠ none) then
        s.getD 0 * b.getD 0 = a.getD 0 * t.getD 0 ∧
          (a.getD 0 = 0 → b.getD 0 = 0 → t.getD 0 = 0)
      else a.getD 0 = 0 ∧ 0 < b.getD 0 := by
  rw [InProportion, ha, hb, hs, ht, capped, capped, Nat.min_eq_left fits.1,
    Nat.min_eq_left fits.2]
  exact meets_merged a b s t

/-- The keys send these queries. The ratio agrees with the counters exactly where the sums
    it is of, `NULL`s and system schemas included, are in proportion to theirs. -/
theorem ratio_agrees_iff (found : Found rows name) :
    (∀ (S : Server) (g : Globals) (request : AGENT_REQUEST),
      get_rparam request PARAM_FIRST = name →
      RunsQuery S g request key.handler .AR_DOUBLE (key.ratioCommand name) ∧
      ∀ field ∈ key.fields, request.key = key.keyPrefix ++ field →
        RunsQuery S g request key.counterHandler .AR_UINT64 (key.counterCommand field name)) ∧
    (Agrees session key rows name ↔ InProportion key rows name) := by
  refine ⟨?_, agrees_iff session key found⟩
  rintro S g request rfl
  exact ⟨ratio_runs key, fun field two named => counter_runs key two named⟩

end Main

def heapRow (schema name : String) (hit read : ℕ) : Counters :=
  ⟨schema.toList, some name.toList, fun c =>
    if c = "heap_blks_hit".toList then some hit
    else if c = "heap_blks_read".toList then some read else none⟩

def twoTables : List Counters :=
  [heapRow "public" "accounts" 90 10, heapRow "pg_catalog" "pg_class" 0 100]

def noSession : Session (List Char) := ⟨1, fun _ => none, some⟩

theorem accounts_found : Found twoTables (some "accounts".toList) := by
  intro _
  exact ⟨heapRow "public" "accounts" 90 10, List.mem_cons_self, by decide⟩

theorem ratio_agrees_iff_accounts :
    (∀ (S : Server) (g : Globals) (request : AGENT_REQUEST),
      get_rparam request PARAM_FIRST = some "accounts".toList →
      RunsQuery S g request Handler.PG_TABLE_HEAP_BLKS_RATIO .AR_DOUBLE
        (RatioKey.heap.ratioCommand (some "accounts".toList)) ∧
      ∀ field ∈ RatioKey.heap.fields, request.key = RatioKey.heap.keyPrefix ++ field →
        RunsQuery S g request .PG_STATIO_ALL_TABLES .AR_UINT64
          (RatioKey.heap.counterCommand field (some "accounts".toList))) ∧
    (Agrees noSession .heap twoTables (some "accounts".toList) ↔
      InProportion .heap twoTables (some "accounts".toList)) :=
  ratio_agrees_iff noSession .heap accounts_found

/-- Over all tables, 90 of 200 blocks instead of 90 of 100; of a table without oversized
    values, 0 instead of 1. -/
theorem catalog_shifts_ratio :
    ¬ Agrees noSession .heap twoTables none ∧
      ¬ Agrees noSession .toast twoTables (some "accounts".toList) := by
  have unnamed : Found twoTables none := fun given => by cases given
  rw [agrees_iff noSession .heap unnamed, agrees_iff noSession .toast accounts_found,
    InProportion, InProportion]
  decide

end LibZbxPgsql.RatioAgreement
