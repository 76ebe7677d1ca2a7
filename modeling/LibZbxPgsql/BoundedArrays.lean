import Mathlib.Data.List.Basic

set_option autoImplicit false

/-! An access outside an array is `none`. A string in an array ends at the first terminator;
the loops of C's string functions look for it, or copy up to it. -/
namespace LibZbxPgsql.BoundedArrays

variable {α : Type}

def store (b : List α) (i : ℕ) (c : α) : Option (List α) :=
  if i < b.length then some (b.set i c) else none

theorem store_middle (before after : List α) (c d : α) :
    store (before ++ c :: after) before.length d = some (before ++ d :: after) := by
  rw [store, if_pos (by simp)]
  simp

theorem store_outside {b : List α} {i : ℕ} (h : b.length ≤ i) (c : α) : store b i c = none := by
  rw [store, if_neg (by omega)]

section Strings
variable [DecidableEq α] (nul : α)

/-- `while (*p) p++`, over the cells from `p` on: the number of steps. -/
def seek : List α → Option ℕ
  | [] => none
  | c :: cells => if c = nul then some 0 else (seek cells).map (· + 1)

/-- `while ((*p++ = *src++))`, over the cells from `src` on: the array written to, and
    where `p` ends. -/
def copy : List α → List α → ℕ → Option (List α × ℕ)
  | [], _, _ => none
  | c :: src, b, p =>
    (store b p c).bind fun b => if c = nul then some (b, p + 1) else copy src b (p + 1)

def stringOf (b : List α) : List α := b.takeWhile (· ≠ nul)

variable {nul}

theorem seek_string {s : List α} (plain : nul ∉ s) (rest : List α) :
    seek nul (s ++ nul :: rest) = some s.length := by
  induction s with
  | nil => simp [seek]
  | cons c s ih =>
    rw [List.mem_cons, not_or] at plain
    rw [List.cons_append, seek, if_neg (Ne.symm plain.1), ih plain.2]
    rfl

theorem stringOf_string {s : List α} (plain : nul ∉ s) (rest : List α) :
    stringOf nul (s ++ nul :: rest) = s := by
  have all : ∀ c ∈ s, decide (c ≠ nul) = true := by
    intro c hc
    exact decide_eq_true fun same => plain (same ▸ hc)
  rw [stringOf, List.takeWhile_append_of_pos all, List.takeWhile_cons]
  simp

/-- Copying a string over cells it fits in. -/
theorem copy_fits {s hole : List α} (before after : List α) (plain : nul ∉ s)
    (room : hole.length = s.length + 1) :
    copy nul (s ++ [nul]) (before ++ hole ++ after) before.length =
      some (before ++ s ++ nul :: after, before.length + s.length + 1) := by
  induction s generalizing before hole with
  | nil =>
    obtain ⟨x, rfl⟩ := List.length_eq_one_iff.mp room
    simp [copy, store_middle]
  | cons c s ih =>
    rw [List.mem_cons, not_or] at plain
    obtain ⟨x, hole, rfl⟩ := List.exists_cons_of_length_eq_add_one room
    rw [List.length_cons, List.length_cons, Nat.add_right_cancel_iff] at room
    have rest := ih (before ++ [c]) plain.2 room
    simp only [List.append_assoc, List.cons_append, List.nil_append, List.length_append,
      List.length_singleton] at rest
    rw [List.cons_append, copy, List.append_assoc, List.cons_append, store_middle,
      Option.bind_some, if_neg (Ne.symm plain.1), rest]
    simp only [List.append_assoc, List.cons_append, List.length_cons, Option.some.injEq,
      Prod.mk.injEq, true_and]
    omega

/-- Copying a string past the end of the array. -/
theorem copy_overruns {s b : List α} {p : ℕ} (plain : nul ∉ s) (short : b.length ≤ p + s.length) :
    copy nul (s ++ [nul]) b p = none := by
  induction s generalizing b p with
  | nil => rw [List.nil_append, copy, store_outside (by simpa using short), Option.bind_none]
  | cons c s ih =>
    rw [List.mem_cons, not_or] at plain
    rw [List.length_cons] at short
    rw [List.cons_append, copy, store]
    split
    · rw [Option.bind_some, if_neg (Ne.symm plain.1)]
      exact ih plain.2 (by rw [List.length_set]; omega)
    · rfl

end Strings

end LibZbxPgsql.BoundedArrays
