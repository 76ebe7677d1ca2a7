import LibZbxPgsql.RatioAgreement
import Mathlib.Algebra.Order.BigOperators.Group.List
import Mathlib.Algebra.Order.BigOperators.Ring.List

set_option autoImplicit false

namespace LibZbxPgsql.CounterTotals
open CStrings AgentModel IntegerResults SqlQueries SqlEvaluation RatioQueries RatioAgreement
open HandlerPlans KeyPlans QueryBinding ItemKeys

/-- To cut off the parts first makes no difference to the sum cut off. -/
theorem min_sum_min (limit : ℕ) (l : List ℕ) :
    min (l.map fun n => min n limit).sum limit = min l.sum limit := by
  induction l with
  | nil => rfl
  | cons n l ih =>
    rw [List.map_cons, List.sum_cons, List.sum_cons]
    omega

theorem quotient_bounds (a b : ℕ) : 0 ≤ quotient a b ∧ quotient a b ≤ 1 := by
  rw [quotient]
  split
  · exact ⟨by norm_num, le_refl 1⟩
  · have whole : (0 : ℚ) ≤ a + b := by positivity
    have part : (a : ℚ) ≤ a + b := by
      have other : (0 : ℚ) ≤ b := by positivity
      linarith
    exact ⟨by positivity, div_le_one_of_le₀ part whole⟩

/-- Where there is nothing, any bound holds of the part nothing is. -/
theorem le_quotient_iff {m : ℚ} {a b : ℕ} (given : a + b ≠ 0) :
    m ≤ quotient a b ↔ m * (a + b) ≤ a := by
  have whole : (0 : ℚ) < a + b := by
    have pos : 0 < a + b := Nat.pos_of_ne_zero given
    exact_mod_cast pos
  rw [quotient, if_neg given, le_div_iff₀ whole]

theorem quotient_le_iff {m : ℚ} {a b : ℕ} (given : a + b ≠ 0) :
    quotient a b ≤ m ↔ a ≤ m * (a + b) := by
  have whole : (0 : ℚ) < a + b := by
    have pos : 0 < a + b := Nat.pos_of_ne_zero given
    exact_mod_cast pos
  rw [quotient, if_neg given, div_le_iff₀ whole]

theorem le_quotient_scaled {m : ℚ} {a b : ℕ} (h : m ≤ quotient a b) : m * (a + b) ≤ a := by
  by_cases given : a + b = 0
  · obtain ⟨rfl, rfl⟩ := Nat.add_eq_zero_iff.mp given
    simp
  · exact (le_quotient_iff given).mp h

theorem quotient_le_scaled {m : ℚ} {a b : ℕ} (h : quotient a b ≤ m) : a ≤ m * (a + b) := by
  by_cases given : a + b = 0
  · obtain ⟨rfl, rfl⟩ := Nat.add_eq_zero_iff.mp given
    simp
  · exact (quotient_le_iff given).mp h

/-- The scaled bounds of the parts add up. -/
theorem sum_scaled (m : ℚ) (l : List (ℕ × ℕ)) :
    ((∀ p ∈ l, m * (p.1 + p.2) ≤ p.1) →
      m * ((l.map Prod.fst).sum + (l.map Prod.snd).sum : ℕ) ≤ (l.map Prod.fst).sum) ∧
    ((∀ p ∈ l, (p.1 : ℚ) ≤ m * (p.1 + p.2)) →
      ((l.map Prod.fst).sum : ℚ) ≤ m * ((l.map Prod.fst).sum + (l.map Prod.snd).sum : ℕ)) := by
  induction l with
  | nil => simp
  | cons p l ih =>
    simp only [List.forall_mem_cons, List.map_cons, List.sum_cons, Nat.cast_add] at ih ⊢
    constructor
    · rintro ⟨head, tail⟩
      have rest := ih.1 tail
      linarith
    · rintro ⟨head, tail⟩
      have rest := ih.2 tail
      linarith

/-- The ratio of the sums lies between the ratios of the parts. -/
theorem quotient_between {l : List (ℕ × ℕ)} (some_part : l ≠ []) (m : ℚ) :
    ((∀ p ∈ l, m ≤ quotient p.1 p.2) →
      m ≤ quotient (l.map Prod.fst).sum (l.map Prod.snd).sum) ∧
    ((∀ p ∈ l, quotient p.1 p.2 ≤ m) →
      quotient (l.map Prod.fst).sum (l.map Prod.snd).sum ≤ m) := by
  obtain ⟨p, l', rfl⟩ := List.exists_cons_of_ne_nil some_part
  obtain ⟨below, above⟩ := sum_scaled m (p :: l')
  by_cases given : ((p :: l').map Prod.fst).sum + ((p :: l').map Prod.snd).sum = 0
  · have nothing : quotient ((p :: l').map Prod.fst).sum ((p :: l').map Prod.snd).sum = 1 :=
      if_pos given
    have first : quotient p.1 p.2 = 1 := by
      rw [List.map_cons, List.map_cons, List.sum_cons, List.sum_cons] at given
      exact if_pos (by omega)
    rw [nothing]
    exact ⟨fun h => first ▸ h p List.mem_cons_self, fun h => first ▸ h p List.mem_cons_self⟩
  · rw [le_quotient_iff given, quotient_le_iff given]
    constructor
    · intro h
      have sums := below fun p hp => le_quotient_scaled (h p hp)
      rwa [Nat.cast_add] at sums
    · intro h
      have sums := above fun p hp => quotient_le_scaled (h p hp)
      rwa [Nat.cast_add] at sums

/-- The names are given whole, and no two objects share one. -/
structure Addressable (rows : List Counters) : Prop where
  whole : ∀ r ∈ rows, ∀ n, r.name = some n → n ≠ [] ∧ nameIn 63 n = n
  distinct : (rows.filterMap Counters.name).Nodup

theorem filter_named {rows : List Counters} (distinct : (rows.filterMap Counters.name).Nodup)
    {r : Counters} (hr : r ∈ rows) {n : Name} (named : r.name = some n) :
    rows.filter (fun r => r.name = some n) = [r] := by
  induction rows with
  | nil => cases hr
  | cons first rows ih =>
    rcases List.mem_cons.mp hr with rfl | later
    · rw [List.filterMap_cons, named] at distinct
      have others : rows.filter (fun r => r.name = some n) = [] := by
        rw [List.filter_eq_nil_iff]
        intro r' hr' same
        exact (List.nodup_cons.mp distinct).1
          (List.mem_filterMap.mpr ⟨r', hr', of_decide_eq_true same⟩)
      rw [List.filter_cons, if_pos (by simpa using named), others]
    · have tail : (rows.filterMap Counters.name).Nodup := by
        rw [List.filterMap_cons] at distinct
        cases hn : first.name with
        | none => rwa [hn] at distinct
        | some n' =>
          rw [hn] at distinct
          exact (List.nodup_cons.mp distinct).2
      have other : ¬ first.name = some n := by
        intro same
        rw [List.filterMap_cons, same] at distinct
        exact (List.nodup_cons.mp distinct).1 (List.mem_filterMap.mpr ⟨r, later, named⟩)
      rw [List.filter_cons, if_neg (by simpa using other)]
      exact ih tail later

section Named
variable {rows : List Counters} (addressable : Addressable rows) {r : Counters} (hr : r ∈ rows)
  {n : Name} (named : r.name = some n)
include addressable hr named

theorem named_given : strisnull r.name = false := by
  obtain ⟨given, -⟩ := addressable.whole r hr n named
  rw [named, strisnull_some]
  simpa using given

theorem named_found : Found rows r.name := by
  intro _
  obtain ⟨-, kept⟩ := addressable.whole r hr n named
  exact ⟨r, hr, by rw [named, Option.getD_some, kept]⟩

theorem named_first : firstNamed rows r.name = [r] := by
  obtain ⟨-, kept⟩ := addressable.whole r hr n named
  rw [firstNamed, named, Option.getD_some, kept, filter_named addressable.distinct hr named]
  rfl

end Named

theorem total_getD (l : List (Option ℕ)) : (total l).getD 0 = (l.map fun n => n.getD 0).sum := by
  have present : (l.map fun n => n.getD 0).sum = (l.filterMap id).sum := by
    induction l with
    | nil => rfl
    | cons n l ih => cases n <;> simpa using ih
  rw [present, total]
  cases l.filterMap id <;> rfl

theorem total_eq_some {l : List (Option ℕ)} (given : l.filterMap id ≠ []) :
    total l = some (l.filterMap id).sum := by
  rw [total]
  cases h : l.filterMap id with
  | nil => exact absurd h given
  | cons n ns => rfl

theorem unnamed_found (rows : List Counters) : Found rows none := fun given => by cases given

/-- What the objects that the total is over and no request can name have of the counter. -/
def unnamed (key : RatioKey) (field : Name) (rows : List Counters) : ℕ :=
  ((rows.filter fun r => counted key r && r.name.isNone).map fun r =>
    (r.counter field).getD 0).sum

/-- The objects that the total is over and a request can name. Those of the system schemas,
    that a request can name as well, are not among them. -/
def parts (key : RatioKey) (rows : List Counters) : List Counters :=
  rows.filter fun r => counted key r && r.name.isSome

theorem sum_split (key : RatioKey) (field : Name) (rows : List Counters) :
    ((rows.filter (counted key)).map fun r => (r.counter field).getD 0).sum =
      ((parts key rows).map fun r => (r.counter field).getD 0).sum + unnamed key field rows := by
  induction rows with
  | nil => rfl
  | cons r rows ih =>
    simp only [parts, unnamed] at ih ⊢
    cases hc : counted key r <;> cases hn : r.name <;> simp [hc, hn, ih] <;> omega

section Main
variable {α : Type} [DecidableEq α] (session : Session α) (key : RatioKey) {rows : List Counters}

def counterValue (rows : List Counters) (field : Name) (name : Option CStr) :
    Option (SqlEvaluation.Value α) :=
  firstValue session key.view (statistics key rows) (key.counterCommand field name)

def ratioValue (rows : List Counters) (name : Option CStr) : Option (SqlEvaluation.Value α) :=
  firstValue session key.view (statistics key rows) (key.ratioCommand name)

theorem counterValue_named (addressable : Addressable rows) {field : Name}
    (two : field ∈ key.fields) {r : Counters} (hr : r ∈ rows) (given : r.name.isSome = true) :
    counterValue session key rows field r.name = some (natural (r.counter field)) := by
  obtain ⟨n, named⟩ := Option.isSome_iff_exists.mp given
  have value := counter_returns session key rows two (named_found addressable hr named)
  rw [counterRows, named_given addressable hr named, if_neg (by decide),
    named_first addressable hr named, totalOf, List.map_singleton, total_single] at value
  exact value

theorem totals_sum (addressable : Addressable rows) {field : Name} (two : field ∈ key.fields) :
    ∃ (whole : SqlEvaluation.Value α) (values : List (SqlEvaluation.Value α)),
      counterValue session key rows field none = some whole ∧
      (parts key rows).map (fun r => counterValue session key rows field r.name) =
        values.map some ∧
      uint64Of whole = min ((values.map uint64Of).sum + unnamed key field rows) ULLONG_MAX := by
  refine ⟨_, (parts key rows).map fun r => natural (r.counter field),
    counter_returns session key rows two (unnamed_found rows), ?_, ?_⟩
  · rw [List.map_map]
    refine List.map_congr_left fun r hr => ?_
    simp only [parts, List.mem_filter, Bool.and_eq_true] at hr
    exact counterValue_named session key addressable two hr.1 hr.2.2
  · have cut := min_sum_min ULLONG_MAX ((parts key rows).map fun r => (r.counter field).getD 0)
    have readings :
        ((parts key rows).map fun r => natural (α := α) (r.counter field)).map uint64Of =
          ((parts key rows).map fun r => (r.counter field).getD 0).map
            fun n => min n ULLONG_MAX := by
      rw [List.map_map, List.map_map]
      exact List.map_congr_left fun r _ => uint64Of_natural (r.counter field)
    rw [uint64Of_natural, capped, totalOf, total_getD, List.map_map, readings, counterRows,
      strisnull_none, if_pos rfl]
    have split := sum_split key field rows
    simp only [Function.comp_def] at split ⊢
    rw [split]
    omega

/-- A counter key sends the query of its counter. What it is without a name is the sum of what
    it is for each object that the total is over, as far as the result can hold the sum, and of
    what those without a name have. -/
theorem totals_add_up (addressable : Addressable rows) {field : Name}
    (two : field ∈ key.fields) :
    (∀ (S : Server) (g : Globals) (request : AGENT_REQUEST),
      request.key = key.keyPrefix ++ field →
      RunsQuery S g request key.counterHandler .AR_UINT64
        (key.counterCommand field (get_rparam request PARAM_FIRST))) ∧
    ∃ (whole : SqlEvaluation.Value α) (values : List (SqlEvaluation.Value α)),
      counterValue session key rows field none = some whole ∧
      (parts key rows).map (fun r => counterValue session key rows field r.name) =
        values.map some ∧
      uint64Of whole = min ((values.map uint64Of).sum + unnamed key field rows) ULLONG_MAX :=
  ⟨fun _ _ _ named => counter_runs key two named, totals_sum session key addressable two⟩

/-- An object has both counters of the ratio, or neither. -/
def Paired (key : RatioKey) (rows : List Counters) : Prop :=
  ∀ r ∈ rows, (r.counter key.hit).isSome = (r.counter key.other).isSome

def pairs (key : RatioKey) (rows : List Counters) : List (ℕ × ℕ) :=
  rows.filterMap fun r => Option.map₂ Prod.mk (r.counter key.hit) (r.counter key.other)

theorem pairs_columns {key : RatioKey} {rows : List Counters} (paired : Paired key rows) :
    (rows.map fun r => r.counter key.hit).filterMap id = (pairs key rows).map Prod.fst ∧
      (rows.map fun r => r.counter key.other).filterMap id = (pairs key rows).map Prod.snd := by
  induction rows with
  | nil => exact ⟨rfl, rfl⟩
  | cons r rows ih =>
    obtain ⟨hits, others⟩ := ih fun r hr => paired r (List.mem_cons_of_mem _ hr)
    have head := paired r List.mem_cons_self
    cases hit : r.counter key.hit <;> cases other : r.counter key.other <;>
      simp_all [pairs]

omit [DecidableEq α] in
theorem doubleOf_missing (b : Option ℕ) :
    doubleOf (share (α := α) none (Option.map₂ (· + ·) none b)) = 0 := strtod_null

omit [DecidableEq α] in
theorem doubleOf_bounds (a b : Option ℕ) :
    0 ≤ doubleOf (share (α := α) a (Option.map₂ (· + ·) a b)) ∧
      doubleOf (share (α := α) a (Option.map₂ (· + ·) a b)) ≤ 1 := by
  match a, b with
  | some a, some b =>
    rw [doubleOf_share]
    exact quotient_bounds a b
  | some a, none =>
    change 0 ≤ strtod (fieldText none) ∧ strtod (fieldText none) ≤ 1
    rw [strtod_null]
    norm_num
  | none, b =>
    rw [doubleOf_missing]
    norm_num

theorem ratioValue_named (addressable : Addressable rows) {r : Counters} (hr : r ∈ rows)
    (given : r.name.isSome = true) :
    ratioValue session key rows r.name = some (share (r.counter key.hit)
      (Option.map₂ (· + ·) (r.counter key.hit) (r.counter key.other))) := by
  obtain ⟨n, named⟩ := Option.isSome_iff_exists.mp given
  have value := ratio_returns session key rows (named_found addressable hr named)
  rw [ratioRows, named_given addressable hr named, if_neg (by decide),
    named_first addressable hr named, totalOf, totalOf, List.map_singleton, List.map_singleton,
    total_single, total_single] at value
  exact value

omit [DecidableEq α] in
/-- Over all objects, a ratio is that of the sums. -/
theorem whole_ratio (paired : Paired key rows) (present : pairs key rows ≠ []) :
    doubleOf (share (α := α) (totalOf key.hit rows)
        (Option.map₂ (· + ·) (totalOf key.hit rows) (totalOf key.other rows))) =
      quotient ((pairs key rows).map Prod.fst).sum ((pairs key rows).map Prod.snd).sum := by
  obtain ⟨hits, others⟩ := pairs_columns paired
  have hit : totalOf key.hit rows = some ((pairs key rows).map Prod.fst).sum := by
    rw [totalOf, total_eq_some (by rw [hits]; simpa using present), hits]
  have other : totalOf key.other rows = some ((pairs key rows).map Prod.snd).sum := by
    rw [totalOf, total_eq_some (by rw [others]; simpa using present), others]
  rw [hit, other, doubleOf_share]

theorem ratio_between (addressable : Addressable rows)
    (named : ∀ r ∈ rows, r.name.isSome = true) (paired : Paired key rows)
    (some_object : rows ≠ []) :
    ∃ (whole : SqlEvaluation.Value α) (values : List (SqlEvaluation.Value α)),
      ratioValue session key rows none = some whole ∧
      rows.map (fun r => ratioValue session key rows r.name) = values.map some ∧
      (0 ≤ doubleOf whole ∧ doubleOf whole ≤ 1) ∧
      ∀ m, ((∀ v ∈ values, m ≤ doubleOf v) → m ≤ doubleOf whole) ∧
        ((∀ v ∈ values, doubleOf v ≤ m) → doubleOf whole ≤ m) := by
  refine ⟨_, rows.map fun r => share (r.counter key.hit)
    (Option.map₂ (· + ·) (r.counter key.hit) (r.counter key.other)),
    ratio_returns session key rows (unnamed_found rows), ?_, doubleOf_bounds _ _, ?_⟩
  · rw [List.map_map]
    exact List.map_congr_left fun r hr => ratioValue_named session key addressable hr (named r hr)
  · intro m
    simp only [ratioRows, strisnull_none, if_true, List.forall_mem_map]
    -- what an object without the counters shows as
    have missing : ∀ r ∈ rows, r.counter key.hit = none →
        doubleOf (share (α := α) (r.counter key.hit)
          (Option.map₂ (· + ·) (r.counter key.hit) (r.counter key.other))) = 0 := by
      intro r _ none
      rw [none]
      exact doubleOf_missing _
    by_cases present : pairs key rows = []
    · have absent : ∀ r ∈ rows, r.counter key.hit = none := by
        intro r hr
        have both := List.filterMap_eq_nil_iff.mp present r hr
        have same := paired r hr
        cases hit : r.counter key.hit <;> cases other : r.counter key.other <;> simp_all
      have none_hit : totalOf key.hit rows = none := by
        rw [totalOf, total, (pairs_columns paired).1, present]
        rfl
      obtain ⟨r, rows', rfl⟩ := List.exists_cons_of_ne_nil some_object
      have zero := missing r List.mem_cons_self (absent r List.mem_cons_self)
      rw [none_hit, doubleOf_missing]
      exact ⟨fun h => zero ▸ h r List.mem_cons_self, fun h => zero ▸ h r List.mem_cons_self⟩
    · rw [whole_ratio key paired present]
      obtain ⟨below, above⟩ := quotient_between present m
      have shown : ∀ p ∈ pairs key rows, ∃ r ∈ rows, doubleOf (share (α := α)
          (r.counter key.hit) (Option.map₂ (· + ·) (r.counter key.hit) (r.counter key.other))) =
            quotient p.1 p.2 := by
        intro p hp
        obtain ⟨r, hr, both⟩ := List.mem_filterMap.mp hp
        obtain ⟨a, b, hit, other, rfl⟩ := Option.map₂_eq_some_iff.mp both
        refine ⟨r, hr, ?_⟩
        rw [hit, other]
        exact doubleOf_share a b
      constructor
      · intro h
        refine below fun p hp => ?_
        obtain ⟨r, hr, same⟩ := shown p hp
        exact same ▸ h r hr
      · intro h
        refine above fun p hp => ?_
        obtain ⟨r, hr, same⟩ := shown p hp
        exact same ▸ h r hr

/-- A ratio key sends the query of its ratio. Over all objects that is between 0 and 1, and
    between the least and the greatest of what it is for an object. -/
theorem ratio_between_objects (addressable : Addressable rows)
    (named : ∀ r ∈ rows, r.name.isSome = true) (paired : Paired key rows)
    (some_object : rows ≠ []) :
    (∀ (S : Server) (g : Globals) (request : AGENT_REQUEST),
      RunsQuery S g request key.handler .AR_DOUBLE
        (key.ratioCommand (get_rparam request PARAM_FIRST))) ∧
    ∃ (whole : SqlEvaluation.Value α) (values : List (SqlEvaluation.Value α)),
      ratioValue session key rows none = some whole ∧
      rows.map (fun r => ratioValue session key rows r.name) = values.map some ∧
      (0 ≤ doubleOf whole ∧ doubleOf whole ≤ 1) ∧
      ∀ m, ((∀ v ∈ values, m ≤ doubleOf v) → m ≤ doubleOf whole) ∧
        ((∀ v ∈ values, doubleOf v ≤ m) → doubleOf whole ≤ m) :=
  ⟨fun _ _ _ => ratio_runs key, ratio_between session key addressable named paired some_object⟩

end Main

def threeTables : List Counters := heapRow "sales" "orders" 30 20 :: twoTables

theorem threeTables_addressable : Addressable threeTables where
  whole := by
    intro r hr n named
    simp only [threeTables, twoTables, List.mem_cons, List.not_mem_nil, or_false] at hr
    rcases hr with rfl | rfl | rfl
    · cases named
      decide
    · cases named
      decide
    · cases named
      decide
  distinct := by decide

/-- The total is that of the first two: it leaves the table of the catalog out. -/
theorem totals_add_up_tables :
    (∀ (S : Server) (g : Globals) (request : AGENT_REQUEST),
      request.key = RatioKey.heap.keyPrefix ++ "heap_blks_hit".toList →
      RunsQuery S g request RatioKey.heap.counterHandler .AR_UINT64
        (RatioKey.heap.counterCommand "heap_blks_hit".toList
          (get_rparam request PARAM_FIRST))) ∧
    ∃ (whole : SqlEvaluation.Value (List Char)) (values : List (SqlEvaluation.Value (List Char))),
      counterValue noSession .heap threeTables "heap_blks_hit".toList none = some whole ∧
      (parts .heap threeTables).map (fun r =>
        counterValue noSession .heap threeTables "heap_blks_hit".toList r.name) =
          values.map some ∧
      uint64Of whole = min ((values.map uint64Of).sum +
        unnamed .heap "heap_blks_hit".toList threeTables) ULLONG_MAX :=
  totals_add_up noSession .heap threeTables_addressable (by decide)

theorem ratio_between_objects_tables :
    (∀ (S : Server) (g : Globals) (request : AGENT_REQUEST),
      RunsQuery S g request RatioKey.heap.handler .AR_DOUBLE
        (RatioKey.heap.ratioCommand (get_rparam request PARAM_FIRST))) ∧
    ∃ (whole : SqlEvaluation.Value (List Char)) (values : List (SqlEvaluation.Value (List Char))),
      ratioValue noSession .heap threeTables none = some whole ∧
      threeTables.map (fun r => ratioValue noSession .heap threeTables r.name) = values.map some ∧
      (0 ≤ doubleOf whole ∧ doubleOf whole ≤ 1) ∧
      ∀ m, ((∀ v ∈ values, m ≤ doubleOf v) → m ≤ doubleOf whole) ∧
        ((∀ v ∈ values, doubleOf v ≤ m) → doubleOf whole ≤ m) :=
  ratio_between_objects noSession .heap threeTables_addressable (by decide)
    (by unfold Paired; decide) (by decide)

end LibZbxPgsql.CounterTotals
