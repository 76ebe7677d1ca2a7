import LibZbxPgsql.NamedQueryTable

set_option autoImplicit false

namespace LibZbxPgsql.TableInsertions
open CStrings NamedQueries SortedTable NamedQueryTable

def zeroed (N : ℕ) : Table :=
  ⟨List.replicate (N + 1) none, List.replicate (N + 1) none, N, []⟩

def insertAll (calls : List Entry) (t : Table) : Option Table :=
  calls.foldlM (fun t call => add_named_query t call.1 call.2) t

/-- A cell in use is overwritten only to clear it, two assignments after its content
    was copied into the empty cell above it, with one to the other array between. -/
def Harmless (stores : List Store) : Prop :=
  ∀ before s after, stores = before ++ s :: after → s.old ≠ none →
    s.new = none ∧ ∃ earlier between, between.array ≠ s.array ∧
      before = earlier ++ [⟨s.array, s.index + 1, none, s.old⟩, between]

theorem harmless_nil : Harmless [] := by
  intro before s after h
  simp at h

theorem harmless_append {a b : List Store} (ha : Harmless a) (hb : Harmless b) :
    Harmless (a ++ b) := by
  intro before s after h used
  rcases List.append_eq_append_iff.mp h with ⟨middle, rfl, rfl⟩ | ⟨middle, rfl, hb'⟩
  · obtain ⟨cleared, earlier, between, other, rfl⟩ := hb middle s after rfl used
    exact ⟨cleared, a ++ earlier, between, other, by rw [List.append_assoc]⟩
  · cases middle with
    | nil =>
      obtain ⟨cleared, earlier, between, other, same⟩ := hb [] s after hb'.symm used
      simp at same
    | cons x middle =>
      obtain ⟨rfl, -⟩ := List.cons.inj hb'
      exact ha before s middle rfl used

theorem harmless_move (i : ℕ) (key value : Option CStr) : Harmless (moveStores i key value) := by
  intro before s after h used
  rw [moveStores] at h
  have apart : TableArray.query_values ≠ TableArray.query_keys := by decide
  rcases before with _ | ⟨x, _ | ⟨y, _ | ⟨z, _ | ⟨t, rest⟩⟩⟩⟩
  · simp only [List.nil_append, List.cons.injEq] at h
    obtain ⟨rfl, -⟩ := h
    exact absurd rfl used
  · simp only [List.cons_append, List.nil_append, List.cons.injEq] at h
    obtain ⟨-, rfl, -⟩ := h
    exact absurd rfl used
  · simp only [List.cons_append, List.nil_append, List.cons.injEq] at h
    obtain ⟨rfl, rfl, rfl, -⟩ := h
    exact ⟨rfl, [], ⟨.query_values, i + 1, none, value⟩, apart, rfl⟩
  · simp only [List.cons_append, List.nil_append, List.cons.injEq] at h
    obtain ⟨rfl, rfl, rfl, rfl, -⟩ := h
    exact ⟨rfl, [_], ⟨.query_keys, i, key, none⟩, apart.symm, rfl⟩
  · simp at h

theorem harmless_moves {n : ℕ} {stores : List Store} (moves : Moves n stores) :
    Harmless stores := by
  induction moves with
  | nil => exact harmless_nil
  | turn key value _ _ ih => exact harmless_append (harmless_move _ key value) ih

/-- Assignments to empty cells. -/
theorem harmless_fresh {stores : List Store} (h : ∀ s ∈ stores, s.old = none) :
    Harmless stores := by
  intro before s after same used
  exact absurd (h s (by simp [same])) used

theorem harmless_insert {n : ℕ} {e : Entry} {stores : List Store}
    (h : InsertStores n e stores) : Harmless stores := by
  obtain ⟨moves, i, turns, -, rfl⟩ := h
  exact harmless_append (harmless_moves turns) (harmless_fresh (by simp))

theorem moves_within {n : ℕ} {stores : List Store} (moves : Moves n stores) :
    ∀ s ∈ stores, s.index ≤ n := by
  induction moves with
  | nil =>
    intro s hs
    cases hs
  | turn key value below _ ih =>
    intro s hs
    rcases List.mem_append.mp hs with hs | hs
    · simp only [moveStores, List.mem_cons, List.not_mem_nil, or_false] at hs
      rcases hs with rfl | rfl | rfl | rfl <;> simp only <;> omega
    · exact ih s hs

theorem insert_within {n : ℕ} {e : Entry} {stores : List Store}
    (h : InsertStores n e stores) : ∀ s ∈ stores, s.index ≤ n := by
  obtain ⟨moves, i, turns, bound, rfl⟩ := h
  intro s hs
  rcases List.mem_append.mp hs with hs | hs
  · exact moves_within turns s hs
  · simp only [List.mem_cons, List.not_mem_nil, or_false] at hs
    rcases hs with rfl | rfl <;> exact bound

structure Holds (N : ℕ) (calls held : List Entry) (t : Table) : Prop where
  permuted : held.Perm calls
  sorted : held.Pairwise fun a b => strcmp a.1 b.1 ≤ 0
  stable : ∀ name, held.filter (fun e => e.1 = name) = calls.filter (fun e => e.1 = name)
  keys : t.query_keys =
    held.map (fun e => some e.1) ++ List.replicate (N + 1 - calls.length) none
  values : t.query_values =
    held.map (fun e => some e.2) ++ List.replicate (N + 1 - calls.length) none
  count : t.query_count = N
  within : ∀ s ∈ t.stores, s.index ≤ N
  harmless : Harmless t.stores

theorem strcmp_le_iff (a b : CStr) : strcmp a b ≤ 0 ↔ a ≤ b := by
  rw [← not_lt, strcmp_pos_iff, not_lt]

/-- What every call keeps, of the entries held and of the stores so far. -/
structure Built (N : ℕ) (calls held : List Entry) (stores : List Store) : Prop where
  permuted : held.Perm calls
  sorted : Sorted held
  stable : ∀ name, held.filter (fun e => e.1 = name) = calls.filter (fun e => e.1 = name)
  within : ∀ s ∈ stores, s.index ≤ N
  harmless : Harmless stores

theorem built_start (N : ℕ) : Built N [] [] [] where
  permuted := List.Perm.refl _
  sorted := List.Pairwise.nil
  stable _ := rfl
  within s hs := by cases hs
  harmless := harmless_nil

theorem Built.holds {N : ℕ} {calls held : List Entry} {stores : List Store}
    (h : Built N calls held stores) : Holds N calls held (tableOf N held stores) where
  permuted := h.permuted
  sorted := h.sorted.imp fun h => (strcmp_le_iff _ _).mpr h
  stable := h.stable
  keys := by
    simp only [tableOf, cells, List.map_map, List.length_map, h.permuted.length_eq]
    rfl
  values := by
    simp only [tableOf, cells, List.map_map, List.length_map, h.permuted.length_eq]
    rfl
  count := rfl
  within := h.within
  harmless := h.harmless

/-- One call. -/
theorem Built.insert {N : ℕ} {calls held : List Entry} {stores : List Store}
    (h : Built N calls held stores) (room : calls.length < N) (name query : CStr) :
    ∃ added, add_named_query (tableOf N held stores) name query =
        some (tableOf N (insertEntry (name, query) held) (stores ++ added)) ∧
      Built N (calls ++ [(name, query)]) (insertEntry (name, query) held) (stores ++ added) := by
  have length := h.permuted.length_eq
  obtain ⟨added, inserts, run⟩ :=
    add_named_query_inserts N held stores name query h.sorted (by omega)
  refine ⟨added, run, ?_⟩
  constructor
  · exact (insertEntry_perm _ held).trans
      ((h.permuted.cons _).trans (List.perm_append_singleton _ calls).symm)
  · exact insertEntry_sorted _ h.sorted
  · intro key
    rw [insertEntry_stable _ h.sorted, h.stable, List.filter_append]
  · intro s hs
    rcases List.mem_append.mp hs with hs | hs
    · exact h.within s hs
    · exact insert_within inserts s hs
  · exact harmless_append h.harmless (harmless_insert inserts)

/-- Calls one after the other, from a table that earlier calls filled. -/
theorem insertAll_holds {N : ℕ} {earlier held : List Entry} {stores : List Store}
    (calls : List Entry) (built : Built N earlier held stores)
    (room : earlier.length + calls.length ≤ N) :
    ∃ t held', insertAll calls (tableOf N held stores) = some t ∧
      Holds N (earlier ++ calls) held' t := by
  induction calls generalizing earlier held stores with
  | nil =>
    rw [List.append_nil]
    exact ⟨_, held, rfl, built.holds⟩
  | cons call calls ih =>
    obtain ⟨name, query⟩ := call
    rw [List.length_cons] at room
    obtain ⟨added, run, built'⟩ := built.insert (by omega) name query
    obtain ⟨t, held', rest, holds⟩ := ih built'
      (by rw [List.length_append, List.length_singleton]; omega)
    refine ⟨t, held', ?_, ?_⟩
    · rw [insertAll, List.foldlM_cons, run]
      exact rest
    · rwa [List.append_assoc, List.singleton_append] at holds

/-- Insertion keeps the table well formed and loses nothing. -/
theorem insertions_keep_table (N : ℕ) (calls : List Entry) (room : calls.length ≤ N) :
    ∃ t held, insertAll calls (zeroed N) = some t ∧ Holds N calls held t := by
  have start : zeroed N = tableOf N [] [] := by simp [zeroed, tableOf, cells]
  rw [start]
  exact insertAll_holds calls (built_start N) (by simpa using room)

def threeCalls : List Entry :=
  [("b".toList, "SELECT 1".toList), ("a".toList, "SELECT 2".toList),
   ("b".toList, "SELECT 3".toList)]

theorem insertions_keep_table_three :
    ∃ t held, insertAll threeCalls (zeroed 3) = some t ∧ Holds 3 threeCalls held t :=
  insertions_keep_table 3 threeCalls (by decide)

/-- The first entry is cleared from its cell once it is in the next. -/
theorem moved_cell_cleared :
    ∃ t, insertAll threeCalls (zeroed 3) = some t ∧ ∃ s ∈ t.stores, s.old ≠ none := by
  refine ⟨_, rfl, ⟨.query_keys, 0, some "b".toList, none⟩, ?_, by decide⟩
  simp

end LibZbxPgsql.TableInsertions
