import LibZbxPgsql.Heaps
import LibZbxPgsql.Sessions
import LibZbxPgsql.StringBuffers

set_option autoImplicit false

/-! `pg_params.c`. `param_len`, `param_append` and `param_free` on a heap. The array carries
no length: each of them looks for the `NULL` cell. -/
namespace LibZbxPgsql.ParamMemory
open StateFaultWp Heaps StringBuffers
open CStrings (CStr)

inductive Cell
  | char (c : Char)
  | pointer (p : Option Addr)
deriving DecidableEq

abbrev PGparams := Option Addr

def stringBlock (s : CStr) : List Cell := s.map .char ++ [.char NUL]

def strdup (A : Allocator Cell) (s : CStr) : Program Cell Addr := allocate A (stringBlock s)

def loadPointer (a : Addr) (i : ℕ) : Program Cell (Option Addr) := do
  match ← load a i with
  | .pointer p => return p
  | .char _ => throw .access

/-- `for (c = params; *c; c++) len++`. With as many rounds as the block has cells, the
    next cell is outside it. -/
def countCells (params : Addr) : ℕ → ℕ → Program Cell ℕ
  | 0, _ => throw .access
  | rounds + 1, len => do
    match ← loadPointer params len with
    | none => return len
    | some _ => if len + 1 ≤ INT_MAX then countCells params rounds (len + 1) else throw .overflow

def param_len (params : PGparams) : Program Cell ℕ :=
  match params with
  | none => return 0
  | some params => do
    let cells ← block params
    countCells params cells.length 0

def param_append (A : Allocator Cell) (params : PGparams) (s : Option CStr) :
    Program Cell PGparams :=
  -- never append nulls or empty strings
  match s with
  | none => return params
  | some [] => return params
  | some (c :: s) =>
    match params with
    | none => do
      -- allocate new array
      let params ← malloc A 2
      let copy ← strdup A (c :: s)
      store params 0 (.pointer (some copy))
      store params 1 (.pointer none)
      return some params
    | some params => do
      -- extend array and append
      let len ← param_len (some params)
      if len + 2 ≤ INT_MAX then
        let params ← realloc A params (len + 2)
        let copy ← strdup A (c :: s) -- dup so we can free everything later
        store params len (.pointer (some copy))
        store params (len + 1) (.pointer none)
        return some params
      else throw .overflow

/-- `for (p = params; *p; p++) zbx_free(*p)`; `zbx_free` clears the cell. -/
def freeCells (params : Addr) : ℕ → ℕ → Program Cell Unit
  | 0, _ => throw .access
  | rounds + 1, i => do
    match ← loadPointer params i with
    | none => return ()
    | some p =>
      free p
      store params i (.pointer none)
      freeCells params rounds (i + 1)

def param_free (params : PGparams) : Program Cell Unit :=
  match params with
  | none => return ()
  | some params => do
    let cells ← block params
    freeCells params cells.length 0
    free params

def arrayBlock (ps : List Addr) : List Cell :=
  ps.map (fun p => .pointer (some p)) ++ [.pointer none]

/-- The array at `a` has copies of the strings, at the addresses `ps`; they and the array
    are all that was added to the heap `h₀`. -/
structure ArrayOf (h₀ : Heap Cell) (strings : List CStr) (a : Addr) (ps : List Addr)
    (h : Heap Cell) : Prop where
  array : h.lookup a = some (arrayBlock ps)
  copies : ps.map h.lookup = strings.map fun s => some (stringBlock s)
  apart : (a :: ps).Nodup
  fresh : ∀ x ∈ a :: ps, x ∉ h₀
  frame : ∀ x, x ∉ a :: ps → h.lookup x = h₀.lookup x

theorem ArrayOf.length_eq {h₀ h : Heap Cell} {strings : List CStr} {a : Addr} {ps : List Addr}
    (holds : ArrayOf h₀ strings a ps h) : ps.length = strings.length := by
  have same := congrArg List.length holds.copies
  rwa [List.length_map, List.length_map] at same

theorem ArrayOf.live {h₀ h : Heap Cell} {strings : List CStr} {a : Addr} {ps : List Addr}
    (holds : ArrayOf h₀ strings a ps h) {x : Addr} (hx : x ∈ ps) :
    ∃ s, h.lookup x = some (stringBlock s) := by
  have mapped : h.lookup x ∈ ps.map h.lookup := List.mem_map_of_mem hx
  rw [holds.copies] at mapped
  obtain ⟨s, -, hs⟩ := List.mem_map.mp mapped
  exact ⟨s, hs.symm⟩

def Represents (h₀ : Heap Cell) (strings : List CStr) (params : PGparams) (h : Heap Cell) :
    Prop :=
  match params with
  | none => strings = [] ∧ h = h₀
  | some a => strings ≠ [] ∧ ∃ ps, ArrayOf h₀ strings a ps h

theorem loadPointer_ok {m : Memory Cell} {a : Addr} {cells : List Cell}
    (h : m.heap.lookup a = some cells) {i : ℕ} {p : Option Addr}
    (hp : cells[i]? = some (.pointer p)) : loadPointer a i m = .ok p m := by
  simp only [loadPointer, bind, EStateM.bind, load_ok h hp]
  rfl

theorem countCells_ok {m : Memory Cell} {a : Addr} (done rest : List Addr)
    (h : m.heap.lookup a = some (arrayBlock (done ++ rest)))
    (fits : (done ++ rest).length ≤ INT_MAX) :
    countCells a (rest.length + 1) done.length m = .ok (done ++ rest).length m := by
  induction rest generalizing done with
  | nil =>
    have last : (arrayBlock (done ++ []))[done.length]? = some (.pointer none) := by
      simp [arrayBlock]
    simp only [countCells, bind, EStateM.bind, loadPointer_ok h last, List.append_nil]
    rfl
  | cons p rest ih =>
    have here : (arrayBlock (done ++ p :: rest))[done.length]? = some (.pointer (some p)) := by
      simp [arrayBlock]
    have next := ih (done ++ [p]) (by simpa using h) (by simpa using fits)
    have moved : (done ++ [p]).length = done.length + 1 := List.length_append
    rw [List.length_append, List.length_cons] at fits
    rw [moved, List.append_assoc, List.singleton_append] at next
    simp only [countCells, bind, EStateM.bind, loadPointer_ok h here]
    rw [if_pos (by omega)]
    exact next

theorem param_len_ok {m : Memory Cell} {a : Addr} {ps : List Addr}
    (h : m.heap.lookup a = some (arrayBlock ps)) (fits : ps.length ≤ INT_MAX) :
    param_len (some a) m = .ok ps.length m := by
  have cells : (arrayBlock ps).length = ps.length + 1 := by simp [arrayBlock]
  simp only [param_len, bind, EStateM.bind, block_ok h, cells]
  exact countCells_ok [] ps h fits

theorem wp_stored {β : Type} {m : Memory Cell} {a : Addr} {cells : List Cell} {i : ℕ} {c : Cell}
    {f : Unit → Program Cell β} {Q : β → Memory Cell → Prop} {E : Fault → Memory Cell → Prop}
    (h : m.heap.lookup a = some cells) (hi : i < cells.length)
    (rest : wp (f ()) Q E { m with heap := m.heap.insert a (cells.set i c) }) :
    wp (store a i c >>= f) Q E m := by
  rw [wp_bind, wp, store_ok h hi]
  exact rest

/-- The last two stores of an append, and what the heap is then. -/
theorem wp_filled {m : Memory Cell} {a p : Addr} (ps : List Addr) {c d : Cell}
    (h : m.heap.lookup a = some (ps.map (fun p => .pointer (some p)) ++ [c, d])) :
    wp (do
        store a ps.length (.pointer (some p))
        store a (ps.length + 1) (.pointer none)
        return some a : Program Cell PGparams)
      (fun params t => params = some a ∧ t.heap.lookup a = some (arrayBlock (ps ++ [p])) ∧
        (∀ x, x ≠ a → t.heap.lookup x = m.heap.lookup x) ∧ t.freed = m.freed)
      (fun _ _ => False) m := by
  have first : (ps.map (fun p => Cell.pointer (some p)) ++ [c, d]).set ps.length
      (.pointer (some p)) = ps.map (fun p => .pointer (some p)) ++ [.pointer (some p), d] := by
    simp
  have second : (ps.map (fun p => Cell.pointer (some p)) ++ [.pointer (some p), d]).set
      (ps.length + 1) (.pointer none) = arrayBlock (ps ++ [p]) := by
    simp [arrayBlock]
  refine wp_stored h (by simp) ?_
  rw [first]
  refine wp_stored (Finmap.lookup_insert _) (by simp) ?_
  rw [second, wp_pure]
  refine ⟨rfl, Finmap.lookup_insert _, ?_, rfl⟩
  intro x hx
  rw [Finmap.lookup_insert_of_ne _ hx, Finmap.lookup_insert_of_ne _ hx]

theorem append_first (A : Allocator Cell) (m : Memory Cell) (c : Char) (s : CStr) :
    wp (param_append A none (some (c :: s)))
      (fun params t => ∃ a p, params = some a ∧ ArrayOf m.heap [c :: s] a [p] t.heap)
      (fun _ _ => False) m := by
  rw [param_append]
  refine wp_seq (wp_allocate A m _) ?_
  rintro a _ ⟨new, rfl⟩
  refine wp_seq (wp_allocate A _ _) ?_
  rintro p t ⟨apart, rfl⟩
  rw [Finmap.mem_insert, not_or] at apart
  have pair : (Finmap.insert p (stringBlock (c :: s))
      (Finmap.insert a (List.replicate 2 A.blank) m.heap)).lookup a =
        some ([].map (fun p => .pointer (some p)) ++ [A.blank, A.blank]) := by
    rw [Finmap.lookup_insert_of_ne _ (Ne.symm apart.1), Finmap.lookup_insert]
    rfl
  refine wp_post (wp_filled [] pair) ?_
  rintro params t ⟨rfl, array, frame, -⟩
  refine ⟨a, p, rfl, ?_⟩
  constructor
  · exact array
  · rw [List.map_singleton, List.map_singleton, frame p apart.1, Finmap.lookup_insert]
  · simpa using Ne.symm apart.1
  · intro x hx
    rw [List.mem_cons, List.mem_singleton] at hx
    rcases hx with rfl | rfl
    · exact new
    · exact apart.2
  · intro x hx
    rw [List.mem_cons, List.mem_singleton, not_or] at hx
    rw [frame x hx.1, Finmap.lookup_insert_of_ne _ hx.2, Finmap.lookup_insert_of_ne _ hx.1]

section Resize
variable {h₀ : Heap Cell} {strings : List CStr} {a a' : Addr} {ps : List Addr} {m t : Memory Cell}
  {cells : List Cell}

theorem ArrayOf.resized_apart (holds : ArrayOf h₀ strings a ps m.heap)
    (moved : Resized m a cells a' t) {x : Addr} (hx : x ∈ ps) : x ≠ a ∧ x ≠ a' := by
  have other : x ≠ a := fun same => (List.nodup_cons.mp holds.apart).1 (same ▸ hx)
  refine ⟨other, ?_⟩
  rintro rfl
  rcases moved.placed with same | ⟨absent, -⟩
  · exact other same
  · obtain ⟨s, hs⟩ := holds.live hx
    exact absent (Finmap.mem_of_lookup_eq_some hs)

theorem ArrayOf.resized_copy (holds : ArrayOf h₀ strings a ps m.heap)
    (moved : Resized m a cells a' t) {x : Addr} (hx : x ∈ ps) :
    t.heap.lookup x = m.heap.lookup x := by
  have apart := holds.resized_apart moved hx
  exact moved.frame x apart.1 apart.2

theorem ArrayOf.resized_frame (holds : ArrayOf h₀ strings a ps m.heap)
    (moved : Resized m a cells a' t) {x : Addr} (hx' : x ≠ a') (hx : x ∉ ps) :
    t.heap.lookup x = h₀.lookup x := by
  by_cases same : x = a
  · rw [same] at hx' ⊢
    rcases moved.placed with back | ⟨-, gone⟩
    · exact absurd back.symm hx'
    · rw [Finmap.lookup_eq_none.mpr gone,
        Finmap.lookup_eq_none.mpr (holds.fresh a List.mem_cons_self)]
  · rw [moved.frame x same hx']
    exact holds.frame x (by rw [List.mem_cons, not_or]; exact ⟨same, hx⟩)

theorem ArrayOf.resized_fresh (holds : ArrayOf h₀ strings a ps m.heap)
    (moved : Resized m a cells a' t) : a' ∉ h₀ := by
  rcases moved.placed with rfl | ⟨absent, -⟩
  · exact holds.fresh a' List.mem_cons_self
  · by_cases known : a' ∈ a :: ps
    · exact holds.fresh a' known
    · rw [← Finmap.lookup_eq_none, ← holds.frame a' known]
      exact Finmap.lookup_eq_none.mpr absent

/-- The array after `realloc` has moved it, `strdup` has made a copy at `p`, and the two
    cells are stored. -/
theorem ArrayOf.extend {p : Addr} {h : Heap Cell} {s : CStr}
    (holds : ArrayOf h₀ strings a ps m.heap) (moved : Resized m a cells a' t) (new : p ∉ t.heap)
    (array : h.lookup a' = some (arrayBlock (ps ++ [p])))
    (frame : ∀ x, x ≠ a' → h.lookup x = (t.heap.insert p (stringBlock s)).lookup x) :
    ArrayOf h₀ (strings ++ [s]) a' (ps ++ [p]) h := by
  have p_other : p ≠ a' := by
    rintro rfl
    exact new (Finmap.mem_of_lookup_eq_some moved.here)
  have p_new : p ∉ ps := by
    intro hp
    obtain ⟨s, hs⟩ := holds.live hp
    exact new (Finmap.mem_of_lookup_eq_some ((holds.resized_copy moved hp).trans hs))
  constructor
  · exact array
  · rw [List.map_append, List.map_append, List.map_singleton, List.map_singleton,
      frame p p_other, Finmap.lookup_insert, ← holds.copies]
    congr 1
    refine List.map_congr_left fun x hx => ?_
    have x_other : x ≠ p := fun same => p_new (same ▸ hx)
    rw [frame x (holds.resized_apart moved hx).2, Finmap.lookup_insert_of_ne _ x_other,
      holds.resized_copy moved hx]
  · rw [List.nodup_cons, List.mem_append, List.mem_singleton, not_or]
    refine ⟨⟨fun h => (holds.resized_apart moved h).2 rfl, Ne.symm p_other⟩, ?_⟩
    rw [← List.concat_eq_append]
    exact (List.nodup_cons.mp holds.apart).2.concat p_new
  · intro x hx
    rw [List.mem_cons, List.mem_append, List.mem_singleton] at hx
    rcases hx with rfl | hx | rfl
    · exact holds.resized_fresh moved
    · exact holds.fresh x (List.mem_cons_of_mem _ hx)
    · rw [← Finmap.lookup_eq_none, ← holds.resized_frame moved p_other p_new]
      exact Finmap.lookup_eq_none.mpr new
  · intro x hx
    rw [List.mem_cons, List.mem_append, List.mem_singleton, not_or, not_or] at hx
    rw [frame x hx.1, Finmap.lookup_insert_of_ne _ hx.2.2, holds.resized_frame moved hx.1 hx.2.1]

end Resize

theorem append_more (A : Allocator Cell) {h₀ : Heap Cell} {strings : List CStr} {a : Addr}
    {ps : List Addr} {m : Memory Cell} (holds : ArrayOf h₀ strings a ps m.heap) (c : Char)
    (s : CStr) (fits : strings.length + 2 ≤ INT_MAX) :
    wp (param_append A (some a) (some (c :: s)))
      (fun params t => ∃ a' ps', params = some a' ∧
        ArrayOf h₀ (strings ++ [c :: s]) a' ps' t.heap)
      (fun _ _ => False) m := by
  have counted : wp (param_len (some a)) (fun len t => len = ps.length ∧ t = m)
      (fun _ _ => False) m := by
    rw [wp, param_len_ok holds.array (by rw [holds.length_eq]; omega)]
    exact ⟨rfl, rfl⟩
  have cells : (arrayBlock ps).length = ps.length + 1 := by simp [arrayBlock]
  rw [param_append]
  refine wp_seq counted ?_
  rintro len t ⟨hlen, ht⟩
  rw [hlen, ht, if_pos (by rw [holds.length_eq]; exact fits)]
  refine wp_seq (wp_realloc A holds.array (n := ps.length + 2) (by omega)) ?_
  intro a' t moved
  refine wp_seq (wp_allocate A t _) ?_
  rintro p _ ⟨new, rfl⟩
  have p_other : a' ≠ p := by
    rintro rfl
    exact new (Finmap.mem_of_lookup_eq_some moved.here)
  have room : (t.heap.insert p (stringBlock (c :: s))).lookup a' =
      some (ps.map (fun p => .pointer (some p)) ++ [.pointer none, A.blank]) := by
    rw [Finmap.lookup_insert_of_ne _ p_other, moved.here, cells]
    simp [arrayBlock]
  refine wp_post (wp_filled ps room) ?_
  rintro params t' ⟨rfl, array, frame, -⟩
  exact ⟨a', ps ++ [p], rfl, holds.extend moved new array frame⟩

/-- What an `int` does not hold, `param_append` does not reach. -/
theorem append_overflow (A : Allocator Cell) {h₀ : Heap Cell} {strings : List CStr} {a : Addr}
    {ps : List Addr} {m : Memory Cell} (holds : ArrayOf h₀ strings a ps m.heap) (c : Char)
    (s : CStr) (last : strings.length + 1 = INT_MAX) :
    param_append A (some a) (some (c :: s)) m = .error .overflow m := by
  have counted := param_len_ok holds.array (by rw [holds.length_eq]; omega)
  simp only [param_append, bind, EStateM.bind, counted]
  rw [if_neg (by rw [holds.length_eq]; omega)]
  rfl

/-- The cells as the loop of `param_free` leaves them: cleared up to the one it is at. -/
def clearedBlock (n : ℕ) (rest : List Addr) : List Cell :=
  List.replicate n (.pointer none) ++ arrayBlock rest

theorem freeCells_ok {a : Addr} (rest : List Addr) (n : ℕ) (m : Memory Cell)
    (array : m.heap.lookup a = some (clearedBlock n rest)) (apart : (a :: rest).Nodup)
    (live : ∀ p ∈ rest, p ∈ m.heap) :
    ∃ t, freeCells a (rest.length + 1) n m = .ok () t ∧ t.freed = m.freed ++ rest ∧ a ∈ t.heap ∧
      ∀ x, x ≠ a → t.heap.lookup x = if x ∈ rest then none else m.heap.lookup x := by
  induction rest generalizing n m with
  | nil =>
    have last : (clearedBlock n [])[n]? = some (.pointer none) := by
      simp [clearedBlock, arrayBlock]
    refine ⟨m, ?_, by simp, Finmap.mem_of_lookup_eq_some array, by simp⟩
    simp only [freeCells, bind, EStateM.bind, loadPointer_ok array last]
    rfl
  | cons p rest ih =>
    obtain ⟨not_a, distinct⟩ := List.nodup_cons.mp apart
    obtain ⟨not_p, distinct⟩ := List.nodup_cons.mp distinct
    rw [List.mem_cons, not_or] at not_a
    have here : (clearedBlock n (p :: rest))[n]? = some (.pointer (some p)) := by
      simp [clearedBlock, arrayBlock]
    obtain ⟨copy, hcopy⟩ := Finmap.mem_iff.mp (live p List.mem_cons_self)
    have kept : (Memory.mk (m.heap.erase p) (m.freed ++ [p])).heap.lookup a =
        some (clearedBlock n (p :: rest)) := by
      rw [Finmap.lookup_erase_ne not_a.1, array]
    have room : n < (clearedBlock n (p :: rest)).length := by simp [clearedBlock, arrayBlock]
    have cleared : (clearedBlock n (p :: rest)).set n (.pointer none) =
        clearedBlock (n + 1) rest := by
      simp [clearedBlock, arrayBlock, List.replicate_succ']
    set m₁ : Memory Cell := ⟨(m.heap.erase p).insert a (clearedBlock (n + 1) rest), m.freed ++ [p]⟩
      with m₁_def
    have others : ∀ x, x ≠ a → x ≠ p → m₁.heap.lookup x = m.heap.lookup x := by
      intro x hx hp
      rw [m₁_def, Finmap.lookup_insert_of_ne _ hx, Finmap.lookup_erase_ne hp]
    obtain ⟨t, run, freed, there, frame⟩ := ih (n + 1) m₁ (Finmap.lookup_insert _)
      (List.nodup_cons.mpr ⟨not_a.2, distinct⟩) (by
        intro q hq
        have hqa : q ≠ a := fun same => not_a.2 (same ▸ hq)
        have hqp : q ≠ p := fun same => not_p (same ▸ hq)
        obtain ⟨b, hb⟩ := Finmap.mem_iff.mp (live q (List.mem_cons_of_mem _ hq))
        exact Finmap.mem_of_lookup_eq_some ((others q hqa hqp).trans hb))
    refine ⟨t, ?_, ?_, there, ?_⟩
    · simp only [freeCells, bind, EStateM.bind, loadPointer_ok array here, free_ok hcopy,
        store_ok kept room, cleared]
      exact run
    · rw [freed, m₁_def, List.append_assoc, List.singleton_append]
    · intro x hx
      rw [frame x hx]
      by_cases same : x = p
      · rw [same, if_neg not_p, if_pos List.mem_cons_self, m₁_def,
          Finmap.lookup_insert_of_ne _ (same ▸ hx), Finmap.lookup_erase]
      · rw [others x hx same]
        simp [same]

/-- Each copy and then the array go through `free`, and the heap is as before them. -/
theorem param_free_ok {h₀ : Heap Cell} {strings : List CStr} {a : Addr} {ps : List Addr}
    {m : Memory Cell} (holds : ArrayOf h₀ strings a ps m.heap) :
    param_free (some a) m = .ok () ⟨h₀, m.freed ++ (ps ++ [a])⟩ := by
  have cells : (arrayBlock ps).length = ps.length + 1 := by simp [arrayBlock]
  obtain ⟨t, run, freed, there, frame⟩ := freeCells_ok ps 0 m holds.array holds.apart (by
    intro p hp
    obtain ⟨s, hs⟩ := holds.live hp
    exact Finmap.mem_of_lookup_eq_some hs)
  obtain ⟨last, hlast⟩ := Finmap.mem_iff.mp there
  have heap : t.heap.erase a = h₀ := by
    apply Finmap.ext_lookup
    intro x
    by_cases same : x = a
    · rw [same, Finmap.lookup_erase, Finmap.lookup_eq_none.mpr (holds.fresh a List.mem_cons_self)]
    · rw [Finmap.lookup_erase_ne same, frame x same]
      split
      · next hx =>
        exact (Finmap.lookup_eq_none.mpr (holds.fresh x (List.mem_cons_of_mem _ hx))).symm
      · next hx => exact holds.frame x (by rw [List.mem_cons, not_or]; exact ⟨same, hx⟩)
  simp only [param_free, bind, EStateM.bind, block_ok holds.array, cells, run, free_ok hlast]
  rw [heap, freed, List.append_assoc]

def nonEmpty (l : List (Option CStr)) : List CStr :=
  l.filterMap fun s => if CStrings.strisnull s then none else s

def appendAll (A : Allocator Cell) (params : PGparams) (l : List (Option CStr)) :
    Program Cell PGparams :=
  l.foldlM (param_append A) params

theorem nonEmpty_skip {s : Option CStr} (h : CStrings.strisnull s = true)
    (l : List (Option CStr)) : nonEmpty (s :: l) = nonEmpty l := by
  rw [nonEmpty, List.filterMap_cons, if_pos h]
  rfl

theorem nonEmpty_keep (c : Char) (s : CStr) (l : List (Option CStr)) :
    nonEmpty (some (c :: s) :: l) = (c :: s) :: nonEmpty l := rfl

theorem append_skip (A : Allocator Cell) (params : PGparams) {s : Option CStr}
    (h : CStrings.strisnull s = true) : param_append A params s = pure params := by
  match s with
  | none => rfl
  | some [] => rfl

theorem append_step (A : Allocator Cell) {h₀ : Heap Cell} {strings : List CStr}
    {params : PGparams} {m : Memory Cell} (holds : Represents h₀ strings params m.heap) (c : Char)
    (s : CStr) (fits : strings.length + 1 < INT_MAX) :
    wp (param_append A params (some (c :: s)))
      (fun params t => Represents h₀ (strings ++ [c :: s]) params t.heap)
      (fun _ _ => False) m := by
  cases params with
  | none =>
    obtain ⟨rfl, rfl⟩ := holds
    refine wp_post (append_first A m c s) ?_
    rintro _ t ⟨a, p, rfl, array⟩
    exact ⟨List.cons_ne_nil _ _, [p], array⟩
  | some a =>
    obtain ⟨-, ps, array⟩ := holds
    refine wp_post (append_more A array c s (by omega)) ?_
    rintro _ t ⟨a', ps', rfl, array'⟩
    exact ⟨by simp, ps', array'⟩

theorem appendAll_ok (A : Allocator Cell) {h₀ : Heap Cell} (l : List (Option CStr))
    {strings : List CStr} {params : PGparams} {m : Memory Cell}
    (holds : Represents h₀ strings params m.heap)
    (fits : strings.length + (nonEmpty l).length < INT_MAX) :
    wp (appendAll A params l)
      (fun params t => Represents h₀ (strings ++ nonEmpty l) params t.heap)
      (fun _ _ => False) m := by
  induction l generalizing strings params m with
  | nil =>
    rw [appendAll, List.foldlM_nil, wp_pure, nonEmpty, List.filterMap_nil, List.append_nil]
    exact holds
  | cons s l ih =>
    rw [appendAll, List.foldlM_cons]
    by_cases skipped : CStrings.strisnull s = true
    · rw [append_skip A params skipped, pure_bind, nonEmpty_skip skipped]
      rw [nonEmpty_skip skipped] at fits
      exact ih holds fits
    · obtain ⟨t, rfl, given⟩ := CStrings.strisnull_eq_false (Bool.not_eq_true _ ▸ skipped)
      obtain ⟨c, cs, rfl⟩ := List.exists_cons_of_ne_nil given
      rw [nonEmpty_keep, List.length_cons] at fits
      refine wp_seq (append_step A holds c cs (by omega)) ?_
      intro params t step
      rw [nonEmpty_keep, List.append_cons]
      exact ih step (by rw [List.length_append, List.length_singleton]; omega)

theorem appendAll_overflow (A : Allocator Cell) {h₀ : Heap Cell} (l : List (Option CStr))
    {strings : List CStr} {params : PGparams} {m : Memory Cell}
    (holds : Represents h₀ strings params m.heap) (below : strings.length < INT_MAX)
    (passed : INT_MAX ≤ strings.length + (nonEmpty l).length) :
    wp (appendAll A params l) (fun _ _ => False) (fun e _ => e = .overflow) m := by
  induction l generalizing strings params m with
  | nil =>
    rw [nonEmpty, List.filterMap_nil, List.length_nil] at passed
    omega
  | cons s l ih =>
    rw [appendAll, List.foldlM_cons]
    by_cases skipped : CStrings.strisnull s = true
    · rw [append_skip A params skipped, pure_bind]
      rw [nonEmpty_skip skipped] at passed
      exact ih holds below passed
    · obtain ⟨t, rfl, given⟩ := CStrings.strisnull_eq_false (Bool.not_eq_true _ ▸ skipped)
      obtain ⟨c, cs, rfl⟩ := List.exists_cons_of_ne_nil given
      rw [nonEmpty_keep, List.length_cons] at passed
      by_cases room : strings.length + 1 < INT_MAX
      · refine wp_seq (append_step A holds c cs room) ?_
        intro params t step
        exact ih step (by rw [List.length_append, List.length_singleton]; omega)
          (by rw [List.length_append, List.length_singleton]; omega)
      · cases params with
        | none =>
          obtain ⟨rfl, -⟩ := holds
          rw [List.length_nil] at room
          exact absurd (by decide) room
        | some a =>
          obtain ⟨-, ps, array⟩ := holds
          rw [wp_bind, wp, append_overflow A array c cs (by omega)]

/-- The fold makes the array of the strings, of which `param_len` finds the number, and
    which `param_free` releases down to the heap the fold began with. -/
def FaithfulList (A : Allocator Cell) (l : List (Option CStr)) (m : Memory Cell) : Prop :=
  ∃ params t, appendAll A none l m = .ok params t ∧
    Represents m.heap (nonEmpty l) params t.heap ∧
    param_len params t = .ok (nonEmpty l).length t ∧
    ∃ freed, param_free params t = .ok () ⟨m.heap, t.freed ++ freed⟩ ∧ freed.Nodup ∧
      ∀ a, params = some a → ∃ ps, ArrayOf m.heap (nonEmpty l) a ps t.heap ∧ freed = ps ++ [a]

theorem faithful_of_fits (A : Allocator Cell) {l : List (Option CStr)} {m : Memory Cell}
    (fits : (nonEmpty l).length < INT_MAX) : FaithfulList A l m := by
  have start : Represents m.heap [] none m.heap := ⟨rfl, rfl⟩
  obtain ⟨params, t, run, holds⟩ := wp_returns
    (appendAll_ok A l start (by rw [List.length_nil, Nat.zero_add]; exact fits))
  rw [List.nil_append] at holds
  refine ⟨params, t, run, holds, ?_⟩
  cases params with
  | none =>
    obtain ⟨empty, same⟩ := holds
    refine ⟨by rw [empty]; rfl, [], ?_, List.nodup_nil, by simp⟩
    rw [← same, List.append_nil]
    rfl
  | some a =>
    obtain ⟨-, ps, array⟩ := holds
    have len := param_len_ok array.array (by rw [array.length_eq]; omega)
    rw [array.length_eq] at len
    refine ⟨len, ps ++ [a], param_free_ok array, ?_, ?_⟩
    · exact (List.perm_append_singleton a ps).nodup_iff.mpr array.apart
    · rintro _ ⟨rfl⟩
      exact ⟨ps, array, rfl⟩

theorem not_faithful (A : Allocator Cell) {l : List (Option CStr)} {m : Memory Cell}
    (passed : INT_MAX ≤ (nonEmpty l).length) : ¬ FaithfulList A l m := by
  rintro ⟨params, t, run, -⟩
  have start : Represents m.heap [] none m.heap := ⟨rfl, rfl⟩
  have faults := appendAll_overflow A l start (by decide)
    (by rw [List.length_nil, Nat.zero_add]; exact passed)
  exact wp_ok faults run

theorem param_arrays_faithful_iff (A : Allocator Cell) (l : List (Option CString))
    (m : Memory Cell) :
    FaithfulList A (l.map chars) m ↔ (nonEmpty (l.map chars)).length < INT_MAX := by
  constructor
  · intro faithful
    by_contra passed
    exact not_faithful A (Nat.not_lt.mp passed) faithful
  · exact faithful_of_fits A

theorem nonEmpty_replicate (n : ℕ) :
    (nonEmpty ((List.replicate n (some (letters 1))).map chars)).length = n := by
  have each : chars (some (letters 1)) = some ['a'] := rfl
  rw [List.map_replicate, each]
  induction n with
  | zero => rfl
  | succ n ih => rw [List.replicate_succ, nonEmpty_keep, List.length_cons, ih]

theorem param_arrays_faithful_last :
    ¬ FaithfulList (bump (.char NUL))
      ((List.replicate (2 ^ 31 - 1) (some (letters 1))).map chars) ⟨∅, []⟩ := by
  apply not_faithful
  rw [nonEmpty_replicate]
  exact Nat.le_refl _

section Handles
open AgentModel (Server Agent World cells paramsHandle)
open WorldView Sessions
variable {S : Server}

theorem nonEmpty_bound (l : List (Option CStr)) (s : Option CStr) :
    nonEmpty (l ++ [s]) = nonEmpty l ++ bound s := by
  rw [nonEmpty, List.filterMap_append]
  match s with
  | none | some [] | some (_ :: _) => rfl

theorem appended_cells (l : List (Option CStr)) {w : World S} {v : View S} (h : Shows w v) :
    wp (l.foldlM Connections.param_append none : Agent S AgentModel.PGparams)
      (fun params _ => cells params = nonEmpty l) (fun _ _ => False) w := by
  let I : List (Option CStr) → AgentModel.PGparams → World S → Prop := fun done params w =>
    cells params = nonEmpty done ∧ Packed params ∧
      Shows w { v with live := paramsHandle params ++ v.live }
  have step : ∀ done s params w, I done params w →
      wp (Connections.param_append params s) (I (done ++ [s])) (fun _ _ => False) w := by
    rintro done s params w ⟨same, packed, shows⟩
    refine wp_post (param_append_spec params shows rfl packed s) ?_
    rintro params' w' ⟨added, packed', shows'⟩
    exact ⟨by rw [added, same, nonEmpty_bound], packed', shows'⟩
  have start : I [] none w := ⟨rfl, packed_none, h⟩
  refine wp_post (wp_foldlM step l [] none w start) ?_
  rintro params w' ⟨same, -⟩
  exact same

end Handles

end LibZbxPgsql.ParamMemory
