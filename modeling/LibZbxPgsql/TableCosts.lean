import LibZbxPgsql.QueryBinding
import Mathlib.Data.Nat.Size

set_option autoImplicit false

namespace LibZbxPgsql.TableCosts
open CStrings NamedQueries NamedQueryTable SortedTable QueryBinding

theorem size_half {n : ℕ} (h : 0 < n) : Nat.size n = Nat.size (n / 2) + 1 := by
  have whole : Nat.bit n.bodd n.div2 = n := Nat.bit_bodd_div2 n
  have split := Nat.size_bit (b := n.bodd) (n := n.div2) (by rw [whole]; exact h.ne')
  rw [whole, Nat.div2_val] at split
  exact split

/-- Indices of the range, each read once, and no more of them than its length has digits. -/
structure Halves (bottom top : ℤ) (reads : List ℤ) : Prop where
  few : reads.length ≤ Nat.size (top + 1 - bottom).toNat
  within : ∀ i ∈ reads, bottom ≤ i ∧ i ≤ top
  once : reads.Nodup

theorem halves_nil (bottom top : ℤ) : Halves bottom top [] where
  few := Nat.zero_le _
  within := by simp
  once := List.nodup_nil

/-- Either half is at most half as long as the range, and leaves the middle out. -/
theorem halves_cons {bottom top b u : ℤ} {reads : List ℤ} (active : bottom ≤ top)
    (rest : Halves b u reads) (low : bottom ≤ b) (high : u ≤ top)
    (short : (u + 1 - b).toNat ≤ (top + 1 - bottom).toNat / 2)
    (apart : (bottom + top) / 2 < b ∨ u < (bottom + top) / 2) :
    Halves bottom top ((bottom + top) / 2 :: reads) := by
  refine ⟨?_, ?_, List.nodup_cons.mpr ⟨?_, rest.once⟩⟩
  · rw [List.length_cons, size_half (by omega)]
    exact Nat.succ_le_succ (rest.few.trans (Nat.size_le_size short))
  · intro i hi
    rcases List.mem_cons.mp hi with rfl | hi
    · omega
    · have inner := rest.within i hi
      omega
  · intro hi
    have inner := rest.within _ hi
    omega

theorem search_halves (t : Table) (key : CStr) (bottom top : ℤ) :
    Halves bottom top (search t key bottom top).1 := by
  induction hm : (top + 1 - bottom).toNat using Nat.strong_induction_on
    generalizing bottom top with
  | _ m ih =>
    rw [search]
    by_cases active : bottom ≤ top
    · rw [if_pos active]
      by_cases wide : INT_MAX < bottom + top
      · rw [if_pos wide]
        exact halves_nil _ _
      · rw [if_neg wide]
        have here : Halves bottom top [(bottom + top) / 2] :=
          halves_cons active (halves_nil ((bottom + top) / 2 + 1) ((bottom + top) / 2))
            (by omega) (by omega) (by omega) (.inl (by omega))
        dsimp only
        cases readCell t.query_keys ((bottom + top) / 2) with
        | none => exact here
        | some cell =>
          cases cell with
          | none => exact here
          | some found =>
            dsimp only
            split
            · exact here
            · split
              · exact halves_cons active (ih _ (by omega) _ _ rfl) (by omega) (by omega)
                  (by omega) (by omega)
              · exact halves_cons active (ih _ (by omega) _ _ rfl) (by omega) (by omega)
                  (by omega) (by omega)
    · rw [if_neg active]
      exact halves_nil _ _

theorem lt_append_singleton (s : CStr) (c : Char) : s < s ++ [c] := by
  induction s with
  | nil => exact List.nil_lt_cons _ _
  | cons d s ih =>
    rw [List.cons_append, List.cons_lt_cons_iff]
    exact .inr ⟨rfl, ih⟩

theorem exists_above (l : List Entry) : ∃ key : CStr, ∀ e ∈ l, e.1 < key := by
  induction l with
  | nil => exact ⟨[], fun e he => by cases he⟩
  | cons e l ih =>
    obtain ⟨key, above⟩ := ih
    refine ⟨max key (e.1 ++ ['a']), ?_⟩
    intro x hx
    rcases List.mem_cons.mp hx with rfl | hx
    · exact (lt_append_singleton x.1 'a').trans_le (le_max_right _ _)
    · exact (above x hx).trans_le (le_max_left _ _)

/-- A key above every name is searched for to the end of the upper halves. -/
theorem search_above {n : ℕ} {l : List Entry} (stores : List Store) {key : CStr}
    (full : l.length = n) (hn : n < 2 ^ 30) (above : ∀ e ∈ l, e.1 < key) (bottom : ℤ)
    (hb : 0 ≤ bottom) :
    (search (tableOf n l stores) key bottom (n - 1)).1.length =
      Nat.size ((n : ℤ) - bottom).toNat := by
  induction hm : ((n : ℤ) - bottom).toNat using Nat.strong_induction_on generalizing bottom with
  | _ m ih =>
    rw [search]
    by_cases active : bottom ≤ (n : ℤ) - 1
    · have noOverflow : ¬ INT_MAX < bottom + ((n : ℤ) - 1) := by
        simp only [INT_MAX]
        omega
      rw [if_pos active, if_neg noOverflow]
      obtain ⟨mid, hmid⟩ : ∃ mid : ℕ, (bottom + ((n : ℤ) - 1)) / 2 = (mid : ℤ) :=
        ⟨((bottom + ((n : ℤ) - 1)) / 2).toNat, (Int.toNat_of_nonneg (by omega)).symm⟩
      have hlt : mid < l.length := by omega
      have readKey : readCell (tableOf n l stores).query_keys (mid : ℤ) = some (some l[mid].1) := by
        have h := cells_get (n + 1) (l.map Prod.fst) mid (by simpa using hlt)
        simpa [readCell, tableOf] using h
      have hcmp := (strcmp_neg_iff _ _).mpr (above l[mid] (List.getElem_mem hlt))
      simp only [hmid, readKey]
      rw [if_neg hcmp.ne, if_neg hcmp.not_gt]
      have rest := ih (m / 2) (by omega) (mid + 1) (by omega) (by omega)
      rw [List.length_cons, rest, ← size_half (by omega)]
    · rw [if_neg active]
      have none_left : m = 0 := by omega
      rw [none_left, Nat.size_zero]
      rfl

theorem rdropWhile_larger (key : CStr) {l : List Entry} (h : Sorted l) :
    (l.rdropWhile (larger key)).length = l.countP fun e => decide (e.1 ≤ key) := by
  induction l using List.reverseRecOn with
  | nil => rfl
  | append_singleton l x ih =>
    obtain ⟨hl, -, hx⟩ := List.pairwise_append.mp h
    rw [List.countP_append, List.countP_singleton]
    by_cases lt : key < x.1
    · rw [List.rdropWhile_concat_pos (larger key) l x (by simpa [larger] using lt), ih hl,
        if_neg (by simpa using lt), Nat.add_zero]
    · have all : ∀ e ∈ l, decide (e.1 ≤ key) = true := by
        intro e he
        exact decide_eq_true ((hx e he x (List.mem_singleton_self x)).trans (not_lt.mp lt))
      rw [List.rdropWhile_concat_neg (larger key) l x (by simpa [larger] using lt),
        List.countP_eq_length.mpr all, if_pos (decide_eq_true (not_lt.mp lt)),
        List.length_append, List.length_singleton]

theorem setKey_stores {t t' : Table} {i : ℕ} {cell : Option CStr}
    (h : t.setKey i cell = some t') : t'.stores.length = t.stores.length + 1 := by
  rw [Table.setKey, Option.map_eq_some_iff] at h
  obtain ⟨old, -, rfl⟩ := h
  exact List.length_append

theorem setValue_stores {t t' : Table} {i : ℕ} {cell : Option CStr}
    (h : t.setValue i cell = some t') : t'.stores.length = t.stores.length + 1 := by
  rw [Table.setValue, Option.map_eq_some_iff] at h
  obtain ⟨old, -, rfl⟩ := h
  exact List.length_append

/-- Every turn of the loop makes four assignments. -/
theorem shift_stores (name : CStr) (i : ℕ) {t t' : Table} {j : ℕ}
    (h : shift name i t = some (j, t')) :
    t'.stores.length + 4 * j = t.stores.length + 4 * i := by
  induction i generalizing t with
  | zero =>
    cases h
    rfl
  | succ i ih =>
    rw [shift, Option.bind_eq_some_iff] at h
    obtain ⟨key, -, h⟩ := h
    split at h
    · simp only [Option.bind_eq_some_iff] at h
      obtain ⟨t₁, h₁, value, -, t₂, h₂, t₃, h₃, t₄, h₄, rest⟩ := h
      have moved := ih rest
      rw [setValue_stores h₄, setKey_stores h₃, setValue_stores h₂, setKey_stores h₁] at moved
      omega
    · cases h
      rfl

/-- An insertion passes the cells above the place of the new entry, and makes two
    assignments there. -/
theorem add_named_query_stores (n : ℕ) {l : List Entry} (stores : List Store)
    (name query : CStr) (hs : Sorted l) (room : l.length < n) :
    ∃ added, add_named_query (tableOf n l stores) name query =
        some (tableOf n (insertEntry (name, query) l) (stores ++ added)) ∧
      added.length + 4 * l.countP (fun e => decide (e.1 ≤ name)) = 4 * n + 2 := by
  obtain ⟨added, -, run⟩ := add_named_query_inserts n l stores name query hs room
  refine ⟨added, run, ?_⟩
  have fit : (l.map Prod.fst).length ≤ n := by simpa using room.le
  have fit' : (l.map Prod.snd).length ≤ n := by simpa using room.le
  obtain ⟨turns, -, moved⟩ := shift_moves name _ _ [] [] (tableOf n l stores)
    (by rw [cells_length n _ fit, cells_length n _ fit'])
    (cells_succ n _ fit) (cells_succ n _ fit')
  rw [cells_length n _ fit, rdropWhile_cells, List.length_map, rdropWhile_larger name hs] at moved
  have count := shift_stores name n moved
  rw [add_named_query] at run
  simp only [tableOf, Option.bind_eq_some_iff] at run moved count
  obtain ⟨⟨i, t₁⟩, shifted, t₂, h₂, h₃⟩ := run
  rw [moved] at shifted
  cases shifted
  have last := setValue_stores h₃
  rw [setKey_stores h₂] at last
  simp only [List.length_append] at last count
  omega

/-- The pairs of names of which the one listed first is not the larger. -/
def inOrder : List CStr → ℕ
  | [] => 0
  | x :: xs => xs.countP (fun y => decide (x ≤ y)) + inOrder xs

theorem inOrder_le (names : List CStr) : 2 * inOrder names + names.length ≤ names.length ^ 2 := by
  induction names with
  | nil => rfl
  | cons x xs ih =>
    have few : xs.countP (fun y => decide (x ≤ y)) ≤ xs.length := List.countP_le_length
    have square : (xs.length + 1) ^ 2 = xs.length ^ 2 + 2 * xs.length + 1 := by ring
    rw [inOrder, List.length_cons, square]
    omega

/-- The pairs of an entry held and a name to come, in order. -/
def across (held : List CStr) (names : List CStr) : ℕ :=
  (names.map fun y => held.countP fun x => decide (x ≤ y)).sum

theorem across_nil (names : List CStr) : across [] names = 0 := by
  induction names with
  | nil => rfl
  | cons y names ih =>
    rw [across, List.map_cons, List.sum_cons, ← across, ih]
    rfl

theorem across_cons (x : CStr) (held names : List CStr) :
    across (x :: held) names = names.countP (fun y => decide (x ≤ y)) + across held names := by
  induction names with
  | nil => rfl
  | cons y names ih =>
    rw [across, List.map_cons, List.sum_cons, ← across, ih, List.countP_cons, List.countP_cons,
      across, across, List.map_cons, List.sum_cons]
    omega

theorem across_perm {held held' : List CStr} (h : held.Perm held') (names : List CStr) :
    across held names = across held' names := by
  rw [across, across]
  exact congrArg List.sum (List.map_congr_left fun y _ => h.countP_eq _)

/-- The assignments of loading these members into a table for `n` queries. -/
theorem members_stores (n : ℕ) (members : List Setting) (l : List Entry) (stores : List Store)
    (hs : Sorted l) (room : l.length + members.length ≤ n)
    (strings : ∀ m ∈ members, isString m.2 = true) :
    ∃ l' added, read_config_members members (tableOf n l stores) =
        some (.EXIT_SUCCESS, tableOf n l' (stores ++ added)) ∧
      l'.length = l.length + members.length ∧
      added.length + 4 * (across (l.map Prod.fst) (members.map Prod.fst) +
        inOrder (members.map Prod.fst)) = 4 * (n * members.length) + 2 * members.length := by
  induction members generalizing l stores with
  | nil => exact ⟨l, [], by rw [List.append_nil]; rfl, rfl, rfl⟩
  | cons m members ih =>
    obtain ⟨name, value⟩ := m
    rw [List.length_cons] at room
    have rest_strings := fun m hm => strings m (List.mem_cons_of_mem _ hm)
    have head := strings (name, value) List.mem_cons_self
    cases value with
    | group _ | other => cases head
    | string text =>
      obtain ⟨first, run, count⟩ := add_named_query_stores n stores name text hs (by omega)
      have longer := insertEntry_length (name, text) l
      obtain ⟨l', added, loaded, length, rest⟩ := ih (insertEntry (name, text) l)
        (stores ++ first) (insertEntry_sorted _ hs) (by omega) rest_strings
      refine ⟨l', first ++ added, ?_, ?_, ?_⟩
      · rw [read_config_members, run, Option.bind_some, loaded, List.append_assoc]
      · rw [length, longer, List.length_cons]
        omega
      · have names := ((insertEntry_perm (name, text) l).map Prod.fst).trans (.refl _)
        rw [across_perm names, List.map_cons, across_cons] at rest
        simp only [List.map_cons, inOrder, across, List.sum_cons, List.countP_map,
          List.length_append, List.length_cons] at rest count ⊢
        have same : l.countP ((fun x => decide (x ≤ name)) ∘ Prod.fst) =
            l.countP fun e => decide (e.1 ≤ name) := rfl
        rw [same, Nat.mul_add n, Nat.mul_one]
        omega

def queryNames (root : List Setting) : List CStr :=
  match root with
  | (_, .group members) :: _ => members.map Prod.fst
  | _ => []

section Loaded
variable {root : List Setting} {t : Table}

/-- The table that is loaded is empty, or holds the queries of the one group there is. -/
theorem loaded_table (h : Loaded root t) :
    t = Table.initial ∧ queryNames root = [] ∨
      ∃ (l : List Entry) (stores : List Store),
        t = tableOf (queryNames root).length l stores ∧ l.length = (queryNames root).length ∧
        (queryNames root).length < 2 ^ 30 ∧
        stores.length + 4 * inOrder (queryNames root) =
          4 * (queryNames root).length ^ 2 + 2 * (queryNames root).length := by
  obtain ⟨env, config_read_file, parsed, distinct, size, run⟩ := h
  obtain ⟨code, t', read, success, -⟩ := read_config_root_resolves root distinct size
  rw [init_config, read_config, parsed] at run
  simp only [read, Option.map_some, Option.some.injEq] at run
  by_cases hc : code = .EXIT_SUCCESS
  · rw [if_neg (by simp [hc])] at run
    cases run
    subst hc
    have queries := success.mp rfl
    cases root with
    | nil =>
      cases read
      exact .inl ⟨rfl, rfl⟩
    | cons s rest =>
      obtain ⟨key, node⟩ := s
      obtain ⟨hk, members, hm, strings⟩ := queries _ List.mem_cons_self
      dsimp only at hk hm
      subst hk hm
      obtain ⟨l, stores, loaded, length, count⟩ := members_stores members.length members [] []
        List.Pairwise.nil (by simp) strings
      have first : read_config_queries (.group members) Table.initial =
          some (.EXIT_SUCCESS, tableOf members.length l stores) := by
        rw [List.nil_append] at loaded
        rw [read_config_queries, ← loaded]
        exact congrArg _ (calloc_tableOf members.length Table.initial)
      -- a second root setting would have the name of the first
      have only : rest = [] := by
        cases rest with
        | nil => rfl
        | cons s' rest =>
          have names := (distinctNames_group distinct).1
          have same := (queries s' (by simp)).1
          simp [same] at names
      subst only
      have whole : t = tableOf members.length l stores := by
        rw [read_config_root, if_pos ((queries_key_iff _).mpr rfl), first] at read
        simpa [read_config_root] using read.symm
      refine .inr ⟨l, stores, ?_, ?_, ?_, ?_⟩
      · rw [whole, queryNames, List.length_map]
      · rw [length, queryNames, List.length_map, List.length_nil, Nat.zero_add]
      · rw [queryNames, List.length_map]
        exact size _ List.mem_cons_self members rfl
      · rw [List.map_nil, across_nil, Nat.zero_add] at count
        rw [queryNames, List.length_map, pow_two]
        exact count
  · rw [if_pos hc] at run
    cases run

/-- No search reads a name twice, or more names than their number has binary digits; and
    some search reads as many. -/
theorem lookup_costs (loaded : Loaded root t) :
    (∀ key, (get_query_by_name_reads t key).Nodup ∧
      (get_query_by_name_reads t key).length ≤ Nat.size t.query_count) ∧
    ∃ key, (get_query_by_name_reads t key).length = Nat.size t.query_count := by
  constructor
  · intro key
    have halves := search_halves t key 0 (t.query_count - 1)
    have range : ((t.query_count : ℤ) - 1 + 1 - 0).toNat = t.query_count := by omega
    exact ⟨halves.once, range ▸ halves.few⟩
  · obtain ⟨rfl, -⟩ | ⟨l, stores, rfl, full, size, -⟩ := loaded_table loaded
    · refine ⟨[], ?_⟩
      rw [get_query_by_name_reads, search, if_neg (by simp [Table.initial])]
      rfl
    · obtain ⟨key, above⟩ := exists_above l
      refine ⟨key, (search_above stores full size above 0 le_rfl).trans ?_⟩
      simp [tableOf]

/-- Loading a file assigns to the cells of the table four times for each turn of the loop
    and twice for each query: the number of queries squared, less the pairs that the file has
    in order, are the turns. -/
theorem loading_costs (loaded : Loaded root t) :
    t.stores.length + 4 * inOrder (queryNames root) =
        4 * t.query_count ^ 2 + 2 * t.query_count ∧
      2 * t.query_count ^ 2 + 4 * t.query_count ≤ t.stores.length ∧
      t.stores.length ≤ 4 * t.query_count ^ 2 + 2 * t.query_count := by
  have total : t.stores.length + 4 * inOrder (queryNames root) =
        4 * t.query_count ^ 2 + 2 * t.query_count ∧
      t.query_count = (queryNames root).length := by
    obtain ⟨rfl, none_named⟩ | ⟨l, stores, rfl, -, -, count⟩ := loaded_table loaded
    · rw [none_named]
      exact ⟨rfl, rfl⟩
    · exact ⟨count, rfl⟩
  have pairs := inOrder_le (queryNames root)
  rw [← total.2] at pairs
  refine ⟨total.1, ?_, ?_⟩
  · omega
  · omega

end Loaded

def fourQueries : List Setting :=
  ["locks", "age", "slots", "bloat"].map fun name => (name.toList, .string "SELECT 1;".toList)

def fourRoot : List Setting := [("queries".toList, .group fourQueries)]

def fourTable : Table :=
  ((init_config none (fun _ => some fourRoot) .initial).map Prod.snd).getD .initial

theorem fourTable_loaded : Loaded fourRoot fourTable := by
  refine ⟨none, fun _ => some fourRoot, rfl, ?_, ?_, rfl⟩
  · refine .group _ (by decide) ?_
    intro s hs
    rw [List.mem_singleton.mp hs]
    refine .group _ (by decide) ?_
    intro m hm
    obtain ⟨name, -, rfl⟩ := List.mem_map.mp hm
    exact .string _
  · intro s hs members h
    rw [List.mem_singleton.mp hs] at h
    cases h
    decide

theorem fourTable_count : fourTable.query_count = 4 := by decide

theorem fourRoot_inOrder : inOrder (queryNames fourRoot) = 3 := by decide

theorem lookup_costs_four :
    (∀ key, (get_query_by_name_reads fourTable key).Nodup ∧
      (get_query_by_name_reads fourTable key).length ≤ 3) ∧
    ∃ key, (get_query_by_name_reads fourTable key).length = 3 := by
  have costs := lookup_costs fourTable_loaded
  rw [fourTable_count] at costs
  exact costs

theorem loading_costs_four :
    fourTable.stores.length = 60 ∧ 48 ≤ fourTable.stores.length ∧
      fourTable.stores.length ≤ 72 := by
  obtain ⟨total, least, most⟩ := loading_costs fourTable_loaded
  rw [fourTable_count] at total least most
  rw [fourRoot_inOrder] at total
  exact ⟨by omega, least, most⟩

end LibZbxPgsql.TableCosts
