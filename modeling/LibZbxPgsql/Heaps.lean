import Mathlib.Data.Finmap
import Mathlib.Data.Finset.Lattice.Fold
import Mathlib.Order.Lattice.Nat
import LibZbxPgsql.StateFaultWp

set_option autoImplicit false

/-! A heap maps the address of each block that is allocated to the cells of the block. An
access outside a block faults, and so does one to a block that was released. Where new blocks
go, what they hold and which of them grow in place is up to the allocator. -/
namespace LibZbxPgsql.Heaps
open StateFaultWp

variable {α : Type}

abbrev Addr := ℕ

abbrev Heap (α : Type) := Finmap fun _ : Addr => List α

structure Allocator (α : Type) where
  place : Heap α → ℕ → Addr
  place_fresh : ∀ h n, place h n ∉ h
  blank : α
  growsInPlace : Heap α → Addr → ℕ → Bool

/-- The blocks, and the addresses that went through `free`, in order. -/
structure Memory (α : Type) where
  heap : Heap α
  freed : List Addr

inductive Fault
  | access
  | release
  | overflow
deriving DecidableEq

abbrev Program (α β : Type) := EStateM Fault (Memory α) β

def block (a : Addr) : Program α (List α) := do
  let m ← get
  match m.heap.lookup a with
  | none => throw .access
  | some cells => return cells

def load (a : Addr) (i : ℕ) : Program α α := do
  let cells ← block a
  match cells[i]? with
  | none => throw .access
  | some c => return c

def store (a : Addr) (i : ℕ) (c : α) : Program α Unit := do
  let cells ← block a
  if i < cells.length then
    modify fun m => { m with heap := m.heap.insert a (cells.set i c) }
  else throw .access

def allocate (A : Allocator α) (cells : List α) : Program α Addr := do
  let m ← get
  let a := A.place m.heap cells.length
  set { m with heap := m.heap.insert a cells }
  return a

def malloc (A : Allocator α) (n : ℕ) : Program α Addr := allocate A (List.replicate n A.blank)

/-- The first `n` cells stay; a block that does not grow in place moves. -/
def realloc (A : Allocator α) (a : Addr) (n : ℕ) : Program α Addr := do
  let cells ← block a
  let m ← get
  let grown := cells.take n ++ List.replicate (n - cells.length) A.blank
  if A.growsInPlace m.heap a n then
    set { m with heap := m.heap.insert a grown }
    return a
  else
    let a' := A.place m.heap n
    set { m with heap := (m.heap.insert a' grown).erase a }
    return a'

def free (a : Addr) : Program α Unit := do
  let m ← get
  match m.heap.lookup a with
  | none => throw .release
  | some _ => set { m with heap := m.heap.erase a, freed := m.freed ++ [a] }

variable {m : Memory α} {a : Addr} {cells : List α}

theorem get_ok (m : Memory α) : (get : Program α (Memory α)) m = .ok m m := rfl

theorem block_ok (h : m.heap.lookup a = some cells) : block a m = .ok cells m := by
  simp only [block, bind, EStateM.bind, get_ok, h]
  rfl

theorem load_ok (h : m.heap.lookup a = some cells) {i : ℕ} {c : α} (hc : cells[i]? = some c) :
    load a i m = .ok c m := by
  simp only [load, bind, EStateM.bind, block_ok h, hc]
  rfl

theorem store_ok (h : m.heap.lookup a = some cells) {i : ℕ} (hi : i < cells.length) (c : α) :
    store a i c m = .ok () { m with heap := m.heap.insert a (cells.set i c) } := by
  simp only [store, bind, EStateM.bind, block_ok h, if_pos hi]
  rfl

theorem free_ok (h : m.heap.lookup a = some cells) :
    free a m = .ok () { heap := m.heap.erase a, freed := m.freed ++ [a] } := by
  simp only [free, bind, EStateM.bind, get_ok, h]
  rfl

theorem wp_allocate (A : Allocator α) (m : Memory α) (cells : List α) :
    wp (allocate A cells)
      (fun a t => a ∉ m.heap ∧ t = { m with heap := m.heap.insert a cells })
      (fun _ _ => False) m := by
  rw [allocate, wp_bind, wp_get, wp_bind, wp_set, wp_pure]
  exact ⟨A.place_fresh _ _, rfl⟩

/-- Distinct blocks that are there can all be released. -/
theorem free_all_ok (l : List Addr) (m : Memory α) (distinct : l.Nodup)
    (live : ∀ x ∈ l, x ∈ m.heap) :
    ∃ t, l.forM free m = .ok () t ∧ t.freed = m.freed ++ l ∧
      ∀ x, t.heap.lookup x = if x ∈ l then none else m.heap.lookup x := by
  induction l generalizing m with
  | nil => exact ⟨m, rfl, by simp, by simp⟩
  | cons a l ih =>
    obtain ⟨not_a, distinct⟩ := List.nodup_cons.mp distinct
    obtain ⟨cells, here⟩ := Finmap.mem_iff.mp (live a List.mem_cons_self)
    obtain ⟨t, run, freed, heap⟩ := ih ⟨m.heap.erase a, m.freed ++ [a]⟩ distinct (by
      intro x hx
      have other : x ≠ a := fun same => not_a (same ▸ hx)
      exact Finmap.mem_erase.mpr ⟨other, live x (List.mem_cons_of_mem _ hx)⟩)
    refine ⟨t, ?_, by simpa using freed, ?_⟩
    · simp only [List.forM, bind, EStateM.bind, free_ok here]
      exact run
    · intro x
      rw [heap x]
      by_cases same : x = a
      · rw [same, if_neg not_a, if_pos List.mem_cons_self]
        exact Finmap.lookup_erase _ _
      · simp only [Finmap.lookup_erase_ne same, List.mem_cons, same, false_or]

/-- The block grew where it was or moved to an address that was free; no other block is
    touched. -/
structure Resized (m : Memory α) (a : Addr) (cells : List α) (a' : Addr) (t : Memory α) :
    Prop where
  here : t.heap.lookup a' = some cells
  placed : a' = a ∨ a' ∉ m.heap ∧ a ∉ t.heap
  frame : ∀ x, x ≠ a → x ≠ a' → t.heap.lookup x = m.heap.lookup x
  freed : t.freed = m.freed

theorem wp_realloc (A : Allocator α) (h : m.heap.lookup a = some cells) {n : ℕ}
    (grows : cells.length ≤ n) :
    wp (realloc A a n)
      (Resized m a (cells ++ List.replicate (n - cells.length) A.blank))
      (fun _ _ => False) m := by
  have found : wp (block a : Program α (List α)) (fun c t => c = cells ∧ t = m)
      (fun _ _ => False) m := by
    rw [wp, block_ok h]
    exact ⟨rfl, rfl⟩
  rw [realloc]
  refine wp_seq found ?_
  rintro c t ⟨hc, ht⟩
  rw [hc, ht, wp_bind, wp_get, List.take_of_length_le grows]
  apply wp_ite
  · intro _
    rw [wp_bind, wp_set, wp_pure]
    exact ⟨Finmap.lookup_insert _, .inl rfl, fun x hx _ => Finmap.lookup_insert_of_ne _ hx, rfl⟩
  · intro _
    rw [wp_bind, wp_set, wp_pure]
    have fresh := A.place_fresh m.heap n
    have apart : A.place m.heap n ≠ a := by
      intro same
      rw [same] at fresh
      exact fresh (Finmap.mem_of_lookup_eq_some h)
    constructor
    · rw [Finmap.lookup_erase_ne apart, Finmap.lookup_insert]
    · exact .inr ⟨fresh, Finmap.notMem_erase_self⟩
    · intro x hx hx'
      rw [Finmap.lookup_erase_ne hx, Finmap.lookup_insert_of_ne _ hx']
    · rfl

def bump (blank : α) : Allocator α where
  place h _ := h.keys.sup id + 1
  place_fresh h n := by
    intro taken
    have last : h.keys.sup id + 1 ≤ h.keys.sup id :=
      Finset.le_sup (f := id) (Finmap.mem_keys.mpr taken)
    exact Nat.not_succ_le_self _ last
  blank := blank
  growsInPlace _ _ _ := false

end LibZbxPgsql.Heaps
