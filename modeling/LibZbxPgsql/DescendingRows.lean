import Mathlib.Data.List.Sort
import Mathlib.Order.Bounds.Basic

set_option autoImplicit false

/-! What `ORDER BY value DESC LIMIT n` makes of a list of values, `none` for a `NULL`: `NULL`s
come before every value. -/
namespace LibZbxPgsql.DescendingRows

variable {κ : Type} [LinearOrder κ]

def Precedes : Option κ → Option κ → Prop
  | none, _ => True
  | some _, none => False
  | some x, some y => y ≤ x

instance : DecidableRel (Precedes (κ := κ)) := fun x y =>
  match x, y with
  | none, _ => inferInstanceAs (Decidable True)
  | some _, none => inferInstanceAs (Decidable False)
  | some x, some y => inferInstanceAs (Decidable (y ≤ x))

instance : Std.Total (Precedes (κ := κ)) where
  total x y := by
    cases x with
    | none => exact .inl trivial
    | some x =>
      cases y with
      | none => exact .inr trivial
      | some y => exact le_total y x

instance : IsTrans (Option κ) Precedes where
  trans x y z hxy hyz := by
    match x, y, z with
    | none, _, _ => trivial
    | some _, none, _ => exact hxy.elim
    | some _, some _, none => exact hyz.elim
    | some _, some _, some _ => exact le_trans hyz hxy

def descending (values : List (Option κ)) : List (Option κ) := values.insertionSort Precedes

/-- The value of a subquery: `NULL` for no row, an error for more than one. -/
def scalar : List (Option κ) → Option (Option κ)
  | [] => some none
  | [value] => some value
  | _ :: _ :: _ => none

def first (values : List (Option κ)) : Option κ := (descending values).head?.join

theorem scalar_first (values : List (Option κ)) :
    scalar ((descending values).take 1) = some (first values) := by
  rw [first]
  cases descending values with
  | nil => rfl
  | cons value rest => rfl

/-- The first row is one of them that all others come after. -/
theorem descending_head {values : List (Option κ)} (given : values ≠ []) :
    ∃ value ∈ values, (descending values).head? = some value ∧
      ∀ other ∈ values, Precedes value other := by
  have sorted := List.pairwise_insertionSort (Precedes (κ := κ)) values
  have members := List.perm_insertionSort (Precedes (κ := κ)) values
  rw [descending]
  cases h : values.insertionSort Precedes with
  | nil =>
    rw [h] at members
    exact absurd members.symm.eq_nil given
  | cons value rest =>
    rw [h] at sorted members
    refine ⟨value, members.subset List.mem_cons_self, rfl, ?_⟩
    intro other hother
    rcases List.mem_cons.mp (members.symm.subset hother) with rfl | later
    · cases other with
      | none => trivial
      | some x => exact le_refl x
    · exact (List.pairwise_cons.mp sorted).1 other later

/-- A `NULL` hides every value. -/
theorem first_null {values : List (Option κ)} (null : none ∈ values) : first values = none := by
  obtain ⟨value, -, head, before⟩ := descending_head (List.ne_nil_of_mem null)
  have least := before none null
  rw [first, head]
  cases value with
  | none => rfl
  | some x => exact least.elim

theorem first_greatest {values : List (Option κ)} (given : values ≠ [])
    (known : none ∉ values) :
    ∃ x, first values = some x ∧ IsGreatest {y | some y ∈ values} x := by
  obtain ⟨value, hvalue, head, before⟩ := descending_head given
  cases value with
  | none => exact absurd hvalue known
  | some x =>
    refine ⟨x, by rw [first, head]; rfl, hvalue, ?_⟩
    intro y hy
    exact before (some y) hy

/-- The greatest of the values, or the default where there is none. -/
def IsMaximum (default : κ) (values : List κ) (x : κ) : Prop :=
  values = [] ∧ x = default ∨ IsGreatest {y | y ∈ values} x

theorem isMaximum_first {values : List (Option κ)} (default : κ) (known : none ∉ values) :
    IsMaximum default (values.filterMap id) ((first values).getD default) := by
  cases values with
  | nil => exact .inl ⟨rfl, rfl⟩
  | cons value rest =>
    obtain ⟨x, first_x, greatest⟩ := first_greatest (List.cons_ne_nil value rest) known
    refine .inr ?_
    have same : {y | y ∈ (value :: rest).filterMap id} = {y | some y ∈ value :: rest} := by
      ext y
      simp only [Set.mem_ofPred_eq, List.mem_filterMap, id_eq, exists_eq_right]
    rw [first_x, same]
    exact greatest

theorem IsMaximum.unique {default : κ} {values : List κ} {x y : κ}
    (hx : IsMaximum default values x) (hy : IsMaximum default values y) : x = y := by
  rcases hx with ⟨empty, rfl⟩ | hx
  · rcases hy with ⟨-, rfl⟩ | hy
    · rfl
    · rw [empty] at hy
      exact absurd hy.1 List.not_mem_nil
  · rcases hy with ⟨empty, -⟩ | hy
    · rw [empty] at hx
      exact absurd hx.1 List.not_mem_nil
    · exact hx.unique hy

/-- A maximum is that of some of the values where they leave none of the others above. -/
theorem IsMaximum.of_some_iff {default : κ} {values asked : List κ} {x : κ}
    (some_of : ∀ y ∈ asked, y ∈ values) (h : IsMaximum default values x) :
    IsMaximum default asked x ↔
      (∀ y ∈ values, ∃ z ∈ asked, y ≤ z) ∨ asked = [] ∧ x = default := by
  constructor
  · rintro (none_asked | ⟨hx, -⟩)
    · exact .inr none_asked
    · refine .inl fun y hy => ⟨x, hx, ?_⟩
      rcases h with ⟨empty, -⟩ | greatest
      · rw [empty] at hy
        cases hy
      · exact greatest.2 hy
  · rintro (above | none_asked)
    · rcases h with ⟨rfl, rfl⟩ | ⟨hx, bound⟩
      · exact .inl ⟨List.eq_nil_iff_forall_not_mem.mpr fun y hy =>
          List.not_mem_nil (some_of y hy), rfl⟩
      · obtain ⟨z, hz, hxz⟩ := above x hx
        have same : x = z := le_antisymm hxz (bound (some_of z hz))
        exact .inr ⟨same ▸ hz, fun y hy => bound (some_of y hy)⟩
    · exact .inl none_asked

/-- The first row has the maximum of some of the values where no `NULL` comes before it
    and none of the others is above them, or where the maximum is the default. -/
theorem isMaximum_first_iff (default : κ) {values : List (Option κ)} {asked : List κ}
    (some_of : ∀ y ∈ asked, y ∈ values.filterMap id) :
    IsMaximum default asked ((first values).getD default) ↔
      none ∉ values ∧ ((∀ y ∈ values.filterMap id, ∃ z ∈ asked, y ≤ z) ∨
        asked = [] ∧ IsMaximum default (values.filterMap id) default) ∨
      none ∈ values ∧ IsMaximum default asked default := by
  by_cases null : none ∈ values
  · rw [first_null null, Option.getD_none]
    exact ⟨fun h => .inr ⟨null, h⟩, fun h => h.elim (fun known => absurd null known.1) And.right⟩
  · have whole := isMaximum_first default null
    have zero : (first values).getD default = default ↔
        IsMaximum default (values.filterMap id) default := by
      constructor
      · intro same
        rwa [same] at whole
      · exact fun h => whole.unique h
    rw [whole.of_some_iff some_of, zero]
    simp only [null, not_false_eq_true, true_and, false_and, or_false]

end LibZbxPgsql.DescendingRows
