import Mathlib.Data.List.Sort
import Mathlib.Data.List.DropRight

set_option autoImplicit false

/-! Entries are kept in key order, equal keys in insertion order. An array-backed table
inserts by shifting the larger entries up from its end, which is the split of
`insertEntry_split`; it looks up by halving an index range, whose invariant is `Inside`. -/
namespace LibZbxPgsql.SortedTable

variable {α β : Type} [LinearOrder α]

def Sorted (l : List (α × β)) : Prop := l.Pairwise (fun a b => a.1 ≤ b.1)

def insertEntry (e : α × β) (l : List (α × β)) : List (α × β) :=
  l.orderedInsert (fun a b => a.1 < b.1) e

theorem insertEntry_perm (e : α × β) (l : List (α × β)) : (insertEntry e l).Perm (e :: l) :=
  List.perm_orderedInsert _ _ _

theorem insertEntry_length (e : α × β) (l : List (α × β)) :
    (insertEntry e l).length = l.length + 1 :=
  (insertEntry_perm e l).length_eq

theorem insertEntry_sorted (e : α × β) {l : List (α × β)} (h : Sorted l) :
    Sorted (insertEntry e l) := by
  induction l with
  | nil => exact List.pairwise_singleton _ _
  | cons x l ih =>
    obtain ⟨hx, hl⟩ := List.pairwise_cons.mp h
    rw [insertEntry, List.orderedInsert]
    split
    · rename_i lt
      refine List.pairwise_cons.mpr ⟨?_, h⟩
      intro y hy
      rcases List.mem_cons.mp hy with rfl | hy
      · exact lt.le
      · exact lt.le.trans (hx y hy)
    · rename_i ge
      refine List.pairwise_cons.mpr ⟨?_, ih hl⟩
      intro y hy
      rcases List.mem_cons.mp ((insertEntry_perm e l).subset hy) with rfl | hy
      · exact not_lt.mp ge
      · exact hx y hy

def larger (key : α) (x : α × β) : Bool := decide (key < x.1)

theorem insertEntry_append_larger (e x : α × β) (l : List (α × β)) (lt : e.1 < x.1) :
    insertEntry e (l ++ [x]) = insertEntry e l ++ [x] := by
  induction l with
  | nil => simp [insertEntry, lt]
  | cons y l ih =>
    simp only [insertEntry, List.cons_append, List.orderedInsert] at ih ⊢
    split
    · simp
    · simp [ih]

theorem insertEntry_last (e : α × β) (l : List (α × β)) (h : ∀ y ∈ l, ¬ e.1 < y.1) :
    insertEntry e l = l ++ [e] := by
  induction l with
  | nil => rfl
  | cons y l ih =>
    have rest := ih (fun z hz => h z (List.mem_cons_of_mem _ hz))
    rw [insertEntry] at rest
    rw [insertEntry, List.orderedInsert, if_neg (h y List.mem_cons_self), rest, List.cons_append]

/-- In a sorted list the new entry stands just before the larger ones, and these
    are a suffix. -/
theorem insertEntry_split (e : α × β) {l : List (α × β)} (h : Sorted l) :
    insertEntry e l = l.rdropWhile (larger e.1) ++ e :: l.rtakeWhile (larger e.1) := by
  induction l using List.reverseRecOn with
  | nil => simp [insertEntry]
  | append_singleton l x ih =>
    have hl : Sorted l := (List.pairwise_append.mp h).1
    have hx : ∀ y ∈ l, y.1 ≤ x.1 := fun y hy =>
      (List.pairwise_append.mp h).2.2 y hy x (List.mem_singleton_self x)
    by_cases lt : e.1 < x.1
    · have hlt : larger e.1 x = true := decide_eq_true lt
      rw [List.rdropWhile_concat_pos (larger e.1) l x hlt,
        List.rtakeWhile_concat_pos (larger e.1) l x hlt, insertEntry_append_larger e x l lt, ih hl]
      simp
    · have hlt : ¬ larger e.1 x = true := by simpa [larger] using lt
      rw [List.rdropWhile_concat_neg (larger e.1) l x hlt,
        List.rtakeWhile_concat_neg (larger e.1) l x hlt]
      refine insertEntry_last e (l ++ [x]) ?_
      intro y hy
      rcases List.mem_append.mp hy with hy | hy
      · exact fun hey => lt (hey.trans_le (hx y hy))
      · rw [List.mem_singleton.mp hy]
        exact lt

/-- Entries with one key stay in the order in which they were inserted. -/
theorem insertEntry_stable [DecidableEq α] (e : α × β) {l : List (α × β)} (h : Sorted l) (key : α) :
    (insertEntry e l).filter (fun x => x.1 = key) =
      l.filter (fun x => x.1 = key) ++ [e].filter (fun x => x.1 = key) := by
  have whole : l.rdropWhile (larger e.1) ++ l.rtakeWhile (larger e.1) = l :=
    List.rdropWhile_append_rtakeWhile
  have above : ∀ x ∈ l.rtakeWhile (larger e.1), e.1 < x.1 := by
    intro x hx
    have kept : larger e.1 x = true := List.mem_rtakeWhile_imp hx
    exact of_decide_eq_true kept
  rw [insertEntry_split e h]
  generalize l.rdropWhile (larger e.1) = pre at whole
  generalize l.rtakeWhile (larger e.1) = post at whole above
  subst whole
  by_cases hk : e.1 = key
  · have absent : post.filter (fun x => x.1 = key) = [] := by
      rw [List.filter_eq_nil_iff]
      intro x hx same
      exact (above x hx).ne (hk.trans (of_decide_eq_true same).symm)
    simp [List.filter_append, hk, absent]
  · simp [List.filter_append, hk]

/-- Strictly sorted entries have pairwise distinct keys. -/
theorem strict_of_nodup {l : List (α × β)} (h : Sorted l) (hn : (l.map Prod.fst).Nodup) :
    l.Pairwise (fun a b => a.1 < b.1) := by
  have distinct : l.Pairwise (fun a b => a.1 ≠ b.1) := List.pairwise_map.mp hn
  exact (h.and distinct).imp (fun hab => lt_of_le_of_ne hab.1 hab.2)

/-- Every entry with the wanted key has its index in the range. -/
def Inside (l : List (α × β)) (key : α) (bottom top : ℤ) : Prop :=
  ∀ (i : ℕ) (hi : i < l.length), l[i].1 = key → bottom ≤ i ∧ (i : ℤ) ≤ top

omit [LinearOrder α] in
theorem inside_all (l : List (α × β)) (key : α) : Inside l key 0 (l.length - 1) := by
  intro i hi _
  omega

theorem inside_above {l : List (α × β)} {key : α} {bottom top : ℤ} {mid : ℕ}
    (h : l.Pairwise (fun a b => a.1 < b.1)) (hmid : mid < l.length) (lt : l[mid].1 < key)
    (inside : Inside l key bottom top) : Inside l key (mid + 1) top := by
  intro i hi hk
  have prior := inside i hi hk
  have after : mid < i := by
    by_contra hle
    rcases Nat.lt_or_eq_of_le (not_lt.mp hle) with before | same
    · have order := List.pairwise_iff_getElem.mp h i mid hi hmid before
      rw [hk] at order
      exact order.not_gt lt
    · subst same
      exact lt.ne hk
  omega

theorem inside_below {l : List (α × β)} {key : α} {bottom top : ℤ} {mid : ℕ}
    (h : l.Pairwise (fun a b => a.1 < b.1)) (hmid : mid < l.length) (gt : key < l[mid].1)
    (inside : Inside l key bottom top) : Inside l key bottom (mid - 1) := by
  intro i hi hk
  have prior := inside i hi hk
  have before : i < mid := by
    by_contra hle
    rcases Nat.lt_or_eq_of_le (not_lt.mp hle) with after | same
    · have order := List.pairwise_iff_getElem.mp h mid i hmid hi after
      rw [hk] at order
      exact order.not_gt gt
    · subst same
      exact gt.ne hk.symm
  omega

omit [LinearOrder α] in
theorem inside_empty {l : List (α × β)} {key : α} {bottom top : ℤ} (h : top < bottom)
    (inside : Inside l key bottom top) : ∀ e ∈ l, e.1 ≠ key := by
  intro e he hk
  obtain ⟨i, hi, rfl⟩ := List.mem_iff_getElem.mp he
  have := inside i hi hk
  omega

section Lookup
variable {κ : Type} [BEq κ] [LawfulBEq κ]

theorem lookup_of_mem {l : List (κ × β)} (hn : (l.map Prod.fst).Nodup) {e : κ × β}
    (he : e ∈ l) : l.lookup e.1 = some e.2 := by
  induction l with
  | nil => cases he
  | cons x l ih =>
    obtain ⟨hx, hl⟩ := List.nodup_cons.mp hn
    rcases List.mem_cons.mp he with rfl | he
    · exact List.lookup_cons_self
    · have hne : (e.1 == x.1) = false := by
        rw [beq_eq_false_iff_ne]
        intro hk
        exact hx (List.mem_map.mpr ⟨e, he, hk⟩)
      rw [List.lookup_cons, hne]
      exact ih hl he

theorem lookup_of_absent {l : List (κ × β)} {key : κ} (h : ∀ e ∈ l, e.1 ≠ key) :
    l.lookup key = none := by
  rw [List.lookup_eq_none_iff]
  intro e he
  simpa using (h e he).symm

/-- Two lists with the same entries and distinct keys answer alike. -/
theorem lookup_perm {l m : List (κ × β)} (hp : l.Perm m) (hn : (l.map Prod.fst).Nodup)
    (key : κ) : l.lookup key = m.lookup key := by
  have hm : (m.map Prod.fst).Nodup := (hp.map _).nodup_iff.mp hn
  by_cases found : ∃ e ∈ l, e.1 = key
  · obtain ⟨e, he, rfl⟩ := found
    rw [lookup_of_mem hn he, lookup_of_mem hm (hp.subset he)]
  · push Not at found
    rw [lookup_of_absent found, lookup_of_absent (fun e he => found e (hp.symm.subset he))]

end Lookup

end LibZbxPgsql.SortedTable
