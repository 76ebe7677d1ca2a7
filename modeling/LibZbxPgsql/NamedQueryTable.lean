import LibZbxPgsql.NamedQueries
import LibZbxPgsql.SortedTable
import Mathlib.Tactic.Ring

set_option autoImplicit false

/-! Between insertions into a table sized for `N` queries the arrays hold the entries so far,
in key order, followed by `NULL`. Insertion keeps this form and searching a full table is
looking the key up. -/
namespace LibZbxPgsql.NamedQueryTable
open CStrings NamedQueries SortedTable

abbrev Entry := CStr × CStr

def cells (n : ℕ) (l : List CStr) : List (Option CStr) :=
  l.map some ++ List.replicate (n - l.length) none

def tableOf (n : ℕ) (l : List Entry) (stores : List Store) : Table :=
  ⟨cells (n + 1) (l.map Prod.fst), cells (n + 1) (l.map Prod.snd), n, stores⟩

theorem cells_length (n : ℕ) (l : List CStr) (h : l.length ≤ n) : (cells n l).length = n := by
  simp only [cells, List.length_append, List.length_map, List.length_replicate]
  omega

theorem cells_succ (n : ℕ) (l : List CStr) (h : l.length ≤ n) :
    cells (n + 1) l = cells n l ++ [none] := by
  rw [cells, cells, List.append_assoc, ← List.replicate_succ']
  congr 2
  omega

theorem cells_get (n : ℕ) (l : List CStr) (i : ℕ) (h : i < l.length) :
    (cells n l)[i]? = some (some l[i]) := by
  rw [cells, List.getElem?_append_left (by simpa using h)]
  simp [h]

theorem rdropWhile_map {α β : Type} (p : β → Bool) (f : α → β) (l : List α) :
    (l.map f).rdropWhile p = (l.rdropWhile (fun x => p (f x))).map f := by
  induction l using List.reverseRecOn with
  | nil => rfl
  | append_singleton l x ih =>
    rw [List.map_append, List.map_singleton]
    by_cases h : p (f x) = true
    · rw [List.rdropWhile_concat_pos _ _ _ h,
        List.rdropWhile_concat_pos (fun x => p (f x)) _ _ h, ih]
    · rw [List.rdropWhile_concat_neg _ _ _ h,
        List.rdropWhile_concat_neg (fun x => p (f x)) _ _ h, List.map_append, List.map_singleton]

theorem rdropWhile_append_all {α : Type} (p : α → Bool) (l m : List α)
    (h : ∀ x ∈ m, p x = true) : (l ++ m).rdropWhile p = l.rdropWhile p := by
  induction m using List.reverseRecOn with
  | nil => simp
  | append_singleton m x ih =>
    rw [← List.append_assoc, List.rdropWhile_concat_pos _ _ _ (h x (by simp))]
    exact ih (fun y hy => h y (List.mem_append_left _ hy))

theorem shifts_some (name : CStr) (e : Entry) : shifts name (some e.1) = larger name e := by
  rw [shifts, larger]
  exact decide_eq_decide.mpr (strcmp_neg_iff name e.1)

def moveStores (i : ℕ) (key value : Option CStr) : List Store :=
  [⟨.query_keys, i + 1, none, key⟩, ⟨.query_values, i + 1, none, value⟩,
   ⟨.query_keys, i, key, none⟩, ⟨.query_values, i, value, none⟩]

inductive Moves (n : ℕ) : List Store → Prop where
  | nil : Moves n []
  | turn {i : ℕ} (key value : Option CStr) {stores : List Store} (below : i < n)
      (rest : Moves n stores) : Moves n (moveStores i key value ++ stores)

theorem moves_mono {n m : ℕ} (h : n ≤ m) {stores : List Store} (moves : Moves n stores) :
    Moves m stores := by
  induction moves with
  | nil => exact .nil
  | turn key value below _ ih => exact .turn key value (by omega) ih

/-- The shifting loop moves the cells it passes, `NULL` ones included, up by one and
    leaves the hole below them. -/
theorem shift_moves (name : CStr) (keys values keys' values' : List (Option CStr)) (t : Table)
    (hlen : keys.length = values.length)
    (hk : t.query_keys = keys ++ none :: keys') (hv : t.query_values = values ++ none :: values') :
    ∃ stores, Moves keys.length stores ∧ shift name keys.length t =
      some ((keys.rdropWhile (shifts name)).length,
        ⟨keys.rdropWhile (shifts name) ++ none :: keys.drop (keys.rdropWhile (shifts name)).length
            ++ keys',
          values.take (keys.rdropWhile (shifts name)).length ++
            none :: values.drop (keys.rdropWhile (shifts name)).length ++ values',
          t.query_count, t.stores ++ stores⟩) := by
  induction keys using List.reverseRecOn generalizing values keys' values' t with
  | nil =>
    cases List.length_eq_zero_iff.mp hlen.symm
    refine ⟨[], .nil, ?_⟩
    cases t
    simp only [List.nil_append] at hk hv
    simp [shift, hk, hv]
  | append_singleton keys key ih =>
    obtain ⟨values, value, rfl⟩ : ∃ vs v, values = vs ++ [v] := by
      refine ⟨values.dropLast, values.getLast ?_, (List.dropLast_append_getLast _).symm⟩
      rintro rfl
      simp at hlen
    have hlen' : keys.length = values.length := by simpa using hlen
    have readKey : t.query_keys[keys.length]? = some key := by
      rw [hk]
      simp
    rw [List.length_append, List.length_singleton, shift, readKey, Option.bind_some]
    by_cases hs : shifts name key = true
    · rw [if_pos hs, List.rdropWhile_concat_pos _ _ _ hs]
      let t' : Table := ⟨keys ++ none :: key :: keys', values ++ none :: value :: values',
        t.query_count, t.stores ++ moveStores keys.length key value⟩
      obtain ⟨stores, moves, rest⟩ := ih values (key :: keys') (value :: values') t' hlen' rfl rfl
      refine ⟨moveStores keys.length key value ++ stores,
        .turn key value (Nat.lt_succ_self _) (moves_mono (Nat.le_succ _) moves), ?_⟩
      have moved : ((t.setKey (keys.length + 1) key).bind fun t =>
          (t.query_values[keys.length]?).bind fun value =>
          (t.setValue (keys.length + 1) value).bind fun t =>
          (t.setKey keys.length none).bind fun t =>
          (t.setValue keys.length none).bind fun t => shift name keys.length t) =
          shift name keys.length t' := by
        cases t
        simp only at hk hv
        subst hk hv
        simp [Table.setKey, Table.setValue, hlen', t', moveStores]
      have le : (keys.rdropWhile (shifts name)).length ≤ keys.length :=
        (List.rdropWhile_prefix (p := shifts name) keys).length_le
      rw [moved, rest]
      simp [List.drop_append_of_le_length le,
        List.take_append_of_le_length (hlen' ▸ le), List.drop_append_of_le_length (hlen' ▸ le), t']
    · rw [if_neg hs, List.rdropWhile_concat_neg _ _ _ hs]
      refine ⟨[], .nil, ?_⟩
      cases t
      simp only at hk hv
      subst hk hv
      have all : (values ++ [value]).take (values.length + 1) = values ++ [value] :=
        List.take_of_length_le (by simp)
      simp [hlen', all]

theorem rdropWhile_cells (name : CStr) (n : ℕ) (l : List Entry) :
    (cells n (l.map Prod.fst)).rdropWhile (shifts name) =
      (l.rdropWhile (larger name)).map (fun e => some e.1) := by
  have nulls : ∀ x ∈ List.replicate (n - (l.map Prod.fst).length) (none : Option CStr),
      shifts name x = true := by
    intro x hx
    rw [List.eq_of_mem_replicate hx]
    rfl
  rw [cells, rdropWhile_append_all _ _ _ nulls, List.map_map, rdropWhile_map]
  congr 2
  funext e
  exact shifts_some name e

def InsertStores (n : ℕ) (e : Entry) (stores : List Store) : Prop :=
  ∃ moves i, Moves n moves ∧ i ≤ n ∧
    stores = moves ++ [⟨.query_keys, i, none, some e.1⟩, ⟨.query_values, i, none, some e.2⟩]

/-- Insertion into the table is insertion into the sorted list it holds. -/
theorem add_named_query_inserts (n : ℕ) (l : List Entry) (stores : List Store)
    (name query : CStr) (hs : Sorted l) (room : l.length < n) :
    ∃ added, InsertStores n (name, query) added ∧ add_named_query (tableOf n l stores) name query =
      some (tableOf n (insertEntry (name, query) l) (stores ++ added)) := by
  have fit : (l.map Prod.fst).length ≤ n := by simpa using room.le
  have fit' : (l.map Prod.snd).length ≤ n := by simpa using room.le
  have hk : (tableOf n l stores).query_keys = cells n (l.map Prod.fst) ++ none :: [] :=
    cells_succ n _ fit
  have hv : (tableOf n l stores).query_values = cells n (l.map Prod.snd) ++ none :: [] :=
    cells_succ n _ fit'
  have hlen : (cells n (l.map Prod.fst)).length = (cells n (l.map Prod.snd)).length := by
    rw [cells_length n _ fit, cells_length n _ fit']
  obtain ⟨turns, moves, moved⟩ := shift_moves name _ _ [] [] (tableOf n l stores) hlen hk hv
  rw [cells_length n _ fit, rdropWhile_cells] at moved
  rw [cells_length n _ fit] at moves
  have inserted := insertEntry_split (name, query) hs
  have whole : l.rdropWhile (larger name) ++ l.rtakeWhile (larger name) = l :=
    List.rdropWhile_append_rtakeWhile
  -- the loop leaves its hole where the sorted list splits
  generalize l.rdropWhile (larger name) = pre at moved inserted whole
  generalize l.rtakeWhile (larger name) = post at inserted whole
  subst whole
  simp only [List.length_append] at room
  refine ⟨_, ⟨turns, pre.length, moves, by omega, rfl⟩, ?_⟩
  have gap : n - (pre.length + post.length) = n + 1 - (pre.length + (post.length + 1)) := by omega
  rw [add_named_query]
  simp only [tableOf, Table.setKey, Table.setValue, cells, inserted] at moved ⊢
  rw [moved]
  simp [gap]

def isString : ConfigValue → Bool
  | .string _ => true
  | .group _ => false
  | .other => false

def texts : List Setting → List Entry
  | [] => []
  | (key, .string value) :: rest => (key, value) :: texts rest
  | (_, .group _) :: rest => texts rest
  | (_, .other) :: rest => texts rest

theorem texts_keys (members : List Setting) (h : ∀ m ∈ members, isString m.2 = true) :
    (texts members).map Prod.fst = members.map Prod.fst := by
  induction members with
  | nil => rfl
  | cons m members ih =>
    obtain ⟨key, value⟩ := m
    have tail := ih (fun m hm => h m (List.mem_cons_of_mem _ hm))
    have head := h (key, value) List.mem_cons_self
    cases value with
    | string text => simp [texts, tail]
    | group _ | other => cases head

/-- Loading the members of a group never faults. It succeeds when all of them are
    strings, and the table then holds these besides what it held before. -/
theorem read_config_members_loads (n : ℕ) (members : List Setting) (l : List Entry)
    (stores : List Store) (hs : Sorted l) (room : l.length + members.length ≤ n) :
    ∃ code t, read_config_members members (tableOf n l stores) = some (code, t) ∧
      (code = .EXIT_SUCCESS ↔ ∀ m ∈ members, isString m.2 = true) ∧
      (code = .EXIT_SUCCESS → ∃ l' stores', t = tableOf n l' stores' ∧ Sorted l' ∧
        l'.Perm (texts members ++ l)) := by
  induction members generalizing l stores with
  | nil =>
    refine ⟨.EXIT_SUCCESS, tableOf n l stores, rfl, by simp, fun _ => ?_⟩
    exact ⟨l, stores, rfl, hs, List.Perm.refl _⟩
  | cons m members ih =>
    obtain ⟨key, value⟩ := m
    rw [List.length_cons] at room
    cases value with
    | string text =>
      obtain ⟨stores₁, -, added⟩ := add_named_query_inserts n l stores key text hs (by omega)
      obtain ⟨code, t, run, success, holds⟩ :=
        ih (insertEntry (key, text) l) (stores ++ stores₁) (insertEntry_sorted _ hs)
          (by rw [insertEntry_length]; omega)
      refine ⟨code, t, ?_, ?_, ?_⟩
      · rw [read_config_members, added]
        exact run
      · simp [success, isString]
      · intro hc
        obtain ⟨l', stores', ht, hl', perm⟩ := holds hc
        refine ⟨l', stores', ht, hl', perm.trans ?_⟩
        exact ((insertEntry_perm _ l).append_left _).trans List.perm_middle
    | group _ | other =>
      exact ⟨.EXIT_FAILURE, _, rfl, by simp [isString], fun hc => by cases hc⟩

/-- The search of a full, strictly sorted table looks the key up. It reads the key
    array only where an entry is. -/
theorem search_looks_up (n : ℕ) (l : List Entry) (stores : List Store) (key : CStr)
    (full : l.length = n) (hn : n < 2 ^ 30) (hs : l.Pairwise (fun a b => a.1 < b.1))
    (bottom top : ℤ) (hb : 0 ≤ bottom) (ht : top < n) (inside : Inside l key bottom top) :
    (search (tableOf n l stores) key bottom top).2 = some (l.lookup key) ∧
      ∀ i ∈ (search (tableOf n l stores) key bottom top).1, 0 ≤ i ∧ i < n := by
  induction hm : (top + 1 - bottom).toNat using Nat.strong_induction_on
    generalizing bottom top with
  | _ m ih =>
    rw [search]
    by_cases active : bottom ≤ top
    · have noOverflow : ¬ INT_MAX < bottom + top := by
        simp only [INT_MAX]
        omega
      rw [if_pos active, if_neg noOverflow]
      obtain ⟨mid, hmid⟩ : ∃ mid : ℕ, (bottom + top) / 2 = (mid : ℤ) :=
        ⟨((bottom + top) / 2).toNat, (Int.toNat_of_nonneg (by omega)).symm⟩
      have hlt : mid < l.length := by omega
      have readKey : readCell (tableOf n l stores).query_keys (mid : ℤ) = some (some l[mid].1) := by
        have h := cells_get (n + 1) (l.map Prod.fst) mid (by simpa using hlt)
        simpa [readCell, tableOf] using h
      have readValue : readCell (tableOf n l stores).query_values (mid : ℤ) =
          some (some l[mid].2) := by
        have h := cells_get (n + 1) (l.map Prod.snd) mid (by simpa using hlt)
        simpa [readCell, tableOf] using h
      simp only [hmid, readKey]
      rcases lt_trichotomy l[mid].1 key with lt | eq | gt
      · have hcmp := (strcmp_neg_iff _ _).mpr lt
        rw [if_neg hcmp.ne, if_neg hcmp.not_gt]
        have rest := ih _ (by omega) (mid + 1) top (by omega) ht
          (inside_above hs hlt lt inside) rfl
        refine ⟨rest.1, ?_⟩
        intro i hi
        rcases List.mem_cons.mp hi with rfl | hi
        · omega
        · exact rest.2 i hi
      · rw [if_pos ((strcmp_eq_zero_iff _ _).mpr eq), readValue]
        have distinct : (l.map Prod.fst).Nodup := List.pairwise_map.mpr (hs.imp (fun h => h.ne))
        have found := lookup_of_mem distinct (List.getElem_mem hlt)
        rw [eq] at found
        refine ⟨by rw [found], ?_⟩
        intro i hi
        rw [List.mem_singleton.mp hi]
        omega
      · have hcmp := (strcmp_pos_iff _ _).mpr gt
        rw [if_neg hcmp.ne', if_pos hcmp]
        have rest := ih _ (by omega) bottom (mid - 1) hb (by omega)
          (inside_below hs hlt gt inside) rfl
        refine ⟨rest.1, ?_⟩
        intro i hi
        rcases List.mem_cons.mp hi with rfl | hi
        · omega
        · exact rest.2 i hi
    · rw [if_neg active, lookup_of_absent (inside_empty (by omega) inside)]
      exact ⟨rfl, fun _ hi => by cases hi⟩

/-- What libconfig promises of a configuration it parsed: the settings of every group
    have pairwise distinct names. -/
inductive DistinctNames : ConfigValue → Prop where
  | group (members : List Setting) (distinct : (members.map Prod.fst).Nodup)
      (inner : ∀ m ∈ members, DistinctNames m.2) : DistinctNames (.group members)
  | string (text : CStr) : DistinctNames (.string text)
  | other : DistinctNames .other

theorem distinctNames_group {members : List Setting} (h : DistinctNames (.group members)) :
    (members.map Prod.fst).Nodup ∧ ∀ m ∈ members, DistinctNames m.2 := by
  cases h with
  | group _ distinct inner => exact ⟨distinct, inner⟩

/-- A root setting the module accepts. -/
def IsQueries (s : Setting) : Prop :=
  s.1 = "queries".toList ∧ ∃ members, s.2 = .group members ∧ ∀ m ∈ members, isString m.2 = true

/-- The text configured under a name: that of the member of `queries` so named. -/
def configured (root : List Setting) (name : CStr) : Option CStr :=
  match root.lookup "queries".toList with
  | some (.group members) =>
    match members.lookup name with
    | some (.string text) => some text
    | _ => none
  | _ => none

theorem texts_lookup (members : List Setting) (h : ∀ m ∈ members, isString m.2 = true)
    (name : CStr) :
    (texts members).lookup name =
      match members.lookup name with
      | some (.string text) => some text
      | _ => none := by
  induction members with
  | nil => rfl
  | cons m members ih =>
    obtain ⟨key, value⟩ := m
    have tail := ih (fun m hm => h m (List.mem_cons_of_mem _ hm))
    have head := h (key, value) List.mem_cons_self
    cases value with
    | string text =>
      rw [texts, List.lookup_cons, List.lookup_cons]
      cases hk : name == key with
      | true => rfl
      | false => exact tail
    | group _ | other => cases head

/-- Every name resolves, and resolving it reads the key array only at its entries. -/
def Resolves (root : List Setting) (t : Table) : Prop :=
  ∀ key, get_query_by_name t key = some (configured root key) ∧
    ∀ i ∈ get_query_by_name_reads t key, 0 ≤ i ∧ i < t.query_count

theorem calloc_tableOf (n : ℕ) (t : Table) :
    { t with query_count := n,
             query_keys := List.replicate (n + 1) none,
             query_values := List.replicate (n + 1) none } = tableOf n [] t.stores := by
  simp [tableOf, cells]

theorem read_config_queries_loads (members : List Setting) (t : Table)
    (distinct : (members.map Prod.fst).Nodup) (size : members.length < 2 ^ 30) :
    ∃ code t', read_config_queries (.group members) t = some (code, t') ∧
      (code = .EXIT_SUCCESS ↔ ∀ m ∈ members, isString m.2 = true) ∧
      (code = .EXIT_SUCCESS → Resolves [("queries".toList, .group members)] t') := by
  obtain ⟨code, t', run, success, holds⟩ :=
    read_config_members_loads members.length members [] t.stores List.Pairwise.nil (by simp)
  refine ⟨code, t', ?_, success, ?_⟩
  · rw [read_config_queries, ← run, ← calloc_tableOf]
  · intro hc key
    obtain ⟨l, stores, rfl, sorted, perm⟩ := holds hc
    have strings := success.mp hc
    rw [List.append_nil] at perm
    have keys : (l.map Prod.fst).Nodup := by
      rw [(perm.map Prod.fst).nodup_iff, texts_keys members strings]
      exact distinct
    have full : l.length = members.length := by
      have h := congrArg List.length (texts_keys members strings)
      rw [List.length_map, List.length_map] at h
      rw [perm.length_eq, h]
    have found := search_looks_up members.length l stores key full size
      (strict_of_nodup sorted keys) 0 (members.length - 1) (by omega) (by omega)
      (full ▸ inside_all l key)
    refine ⟨?_, found.2⟩
    have same := lookup_perm perm keys key
    rw [texts_lookup members strings] at same
    have answer : get_query_by_name (tableOf members.length l stores) key = some (l.lookup key) :=
      found.1
    rw [answer, same]
    simp [configured]

theorem resolves_initial : Resolves [] Table.initial := by
  intro key
  have none_read : search Table.initial key 0 ((Table.initial.query_count : ℤ) - 1) =
      ([], some none) := by
    rw [search, if_neg (by simp [Table.initial])]
  rw [get_query_by_name, get_query_by_name_reads, none_read]
  exact ⟨rfl, fun _ hi => by cases hi⟩

theorem queries_key_iff (key : CStr) :
    0 = strncmp key "queries".toList 8 ↔ key = "queries".toList := by
  rw [eq_comm]
  exact strncmp_eq_zero_iff _ _ _ (by decide)

/-- A configuration is accepted exactly when each root setting is a `queries` group of
    strings, and an accepted one resolves every name. -/
theorem read_config_root_resolves (root : List Setting) (distinct : DistinctNames (.group root))
    (size : ∀ s ∈ root, ∀ members, s.2 = .group members → members.length < 2 ^ 30) :
    ∃ code t, read_config_root root Table.initial = some (code, t) ∧
      (code = .EXIT_SUCCESS ↔ ∀ s ∈ root, IsQueries s) ∧
      (code = .EXIT_SUCCESS → Resolves root t) := by
  obtain ⟨names, inner⟩ := distinctNames_group distinct
  cases root with
  | nil => exact ⟨.EXIT_SUCCESS, _, rfl, by simp, fun _ => resolves_initial⟩
  | cons s rest =>
    obtain ⟨key, node⟩ := s
    rw [read_config_root]
    by_cases hk : key = "queries".toList
    · rw [if_pos ((queries_key_iff key).mpr hk)]
      subst hk
      cases node with
      | string _ | other =>
        refine ⟨.EXIT_FAILURE, _, rfl, ?_, fun hc => by cases hc⟩
        simp [IsQueries]
      | group members =>
        obtain ⟨memberNames, -⟩ := distinctNames_group
          (inner ("queries".toList, .group members) List.mem_cons_self)
        obtain ⟨code, t, run, success, resolves⟩ := read_config_queries_loads members
          Table.initial memberNames (size _ List.mem_cons_self members rfl)
        rw [run, Option.bind_some]
        by_cases hc : code = .EXIT_SUCCESS
        · cases rest with
          | nil =>
            refine ⟨.EXIT_SUCCESS, t, by simp [hc, read_config_root], ?_, fun _ => resolves hc⟩
            simpa [IsQueries] using success.mp hc
          | cons s' rest =>
            -- a second root setting has another name
            obtain ⟨key', node'⟩ := s'
            have other : ¬ key' = "queries".toList := by
              rintro rfl
              simp at names
            have refused : ¬ 0 = strncmp key' "queries".toList 8 := by
              rwa [queries_key_iff]
            refine ⟨.EXIT_FAILURE, t, ?_, ?_, fun hf => by cases hf⟩
            · simp only [hc, ne_eq, not_true_eq_false, if_false, read_config_root, refused]
            · simp only [reduceCtorEq, false_iff]
              exact fun all => other (all (key', node') (by simp)).1
        · refine ⟨.EXIT_FAILURE, t, by simp [hc], ?_, fun hf => by cases hf⟩
          simp only [reduceCtorEq, false_iff]
          intro all
          obtain ⟨-, members', same, strings⟩ := all _ List.mem_cons_self
          cases same
          exact hc (success.mpr strings)
    · rw [if_neg (fun h => hk ((queries_key_iff key).mp h))]
      refine ⟨.EXIT_FAILURE, _, rfl, ?_, fun hc => by cases hc⟩
      simp only [reduceCtorEq, false_iff]
      exact fun all => hk (all (key, node) List.mem_cons_self).1

/-- The table a successful start of the module leaves, for a configuration as libconfig
    promises it. -/
def Loaded (root : List Setting) (t : Table) : Prop :=
  ∃ env config_read_file, config_read_file (getPGCONFIGFILE env) = some root ∧
    DistinctNames (.group root) ∧
    (∀ s ∈ root, ∀ members, s.2 = .group members → members.length < 2 ^ 30) ∧
    init_config env config_read_file Table.initial = some (.ZBX_MODULE_OK, t)

theorem loaded_resolves {root : List Setting} {t : Table} (h : Loaded root t) :
    Resolves root t := by
  obtain ⟨env, config_read_file, parsed, distinct, size, run⟩ := h
  obtain ⟨code, t', read, -, resolves⟩ := read_config_root_resolves root distinct size
  rw [init_config, read_config, parsed] at run
  simp only [read, Option.map_some, Option.some.injEq] at run
  by_cases hc : code = .EXIT_SUCCESS
  · rw [if_neg (by simp [hc])] at run
    cases run
    exact resolves hc
  · rw [if_pos hc] at run
    cases run

/-- Named queries resolve exactly, whatever the order of the members in the file. -/
theorem init_config_resolves_named_queries (env : Option CStr)
    (config_read_file : Option CStr → Option (List Setting)) (root : List Setting)
    (parsed : config_read_file (getPGCONFIGFILE env) = some root)
    (distinct : DistinctNames (.group root))
    (size : ∀ s ∈ root, ∀ members, s.2 = .group members → members.length < 2 ^ 30) :
    ∃ status t, init_config env config_read_file Table.initial = some (status, t) ∧
      (status = .ZBX_MODULE_OK ↔ ∀ s ∈ root, IsQueries s) ∧
      (status = .ZBX_MODULE_OK → ∀ key,
        get_query_by_name t key = some (configured root key) ∧
        ∀ i ∈ get_query_by_name_reads t key, 0 ≤ i ∧ i < t.query_count) := by
  obtain ⟨code, t, run, success, resolves⟩ := read_config_root_resolves root distinct size
  have read : read_config config_read_file (getPGCONFIGFILE env) Table.initial =
      some (code, t) := by
    rw [read_config, parsed]
    exact run
  rw [init_config, read]
  by_cases hc : code = .EXIT_SUCCESS
  · exact ⟨.ZBX_MODULE_OK, t, by simp [hc], by simpa [hc] using success, fun _ => resolves hc⟩
  · refine ⟨.ZBX_MODULE_FAIL, t, by simp [hc], ?_, fun h => by cases h⟩
    simpa [hc] using success

/-- Two queries, in an order that is not that of their names. -/
theorem init_config_resolves_named_queries_example :
    ∃ status t, init_config none (fun _ => some [("queries".toList, .group
        [("b".toList, .string "SELECT 2".toList), ("a".toList, .string "SELECT 1".toList)])])
        Table.initial = some (status, t) ∧
      status = .ZBX_MODULE_OK ∧
      get_query_by_name t "a".toList = some (some "SELECT 1".toList) ∧
      get_query_by_name t "c".toList = some none := by
  obtain ⟨status, t, run, accepted, resolves⟩ := init_config_resolves_named_queries none
    (fun _ => some [("queries".toList, .group
      [("b".toList, .string "SELECT 2".toList), ("a".toList, .string "SELECT 1".toList)])])
    _ rfl
    (.group _ (by decide) (by
      intro m hm
      rw [List.mem_singleton.mp hm]
      refine .group _ (by decide) ?_
      intro m hm
      simp only [List.mem_cons, List.not_mem_nil, or_false] at hm
      rcases hm with rfl | rfl <;> exact .string _))
    (by
      intro s hs members h
      rw [List.mem_singleton.mp hs] at h
      cases h
      decide)
  have ok : status = .ZBX_MODULE_OK := by
    refine accepted.mpr ?_
    intro s hs
    rw [List.mem_singleton.mp hs]
    refine ⟨rfl, _, rfl, ?_⟩
    intro m hm
    simp only [List.mem_cons, List.not_mem_nil, or_false] at hm
    rcases hm with rfl | rfl <;> rfl
  exact ⟨status, t, run, ok, (resolves ok _).1, (resolves ok _).1⟩

end LibZbxPgsql.NamedQueryTable
