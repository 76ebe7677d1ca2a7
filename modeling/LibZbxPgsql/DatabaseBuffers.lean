import Mathlib.Algebra.GroupWithZero.Nat
import LibZbxPgsql.StringBuffers
import LibZbxPgsql.DeepDiscovery

set_option autoImplicit false

namespace LibZbxPgsql.DatabaseBuffers
open CStrings hiding strcat2
open BoundedArrays StringBuffers Discovery DeepDiscovery

def bufferlen (rows : List CStr) : ℤ :=
  rows.foldl (fun bufferlen name => toInt (bufferlen + (name.length + 1))) 1

/-- `c = strcat2(c, PQgetvalue(res, i, 0)) + 1`, for each row. -/
def copyRows (c : Cursor) : List CStr → Option Cursor
  | [] => some c
  | name :: rows => do
    let c ← strcat2 c (some name)
    copyRows ⟨c.buffer, c.pos + 1⟩ rows

def databases (rows : List CStr) : Option (List Char) := do
  let databases ← zeroed (bufferlen rows)
  let c ← copyRows ⟨databases, 0⟩ rows
  return c.buffer

/-- The strings that `for (db = databases; *db; db += strlen(db) + 1)` visits, or `none`
    where it reads outside the buffer or is not done after `fuel` rounds. -/
def walk (databases : List Char) : ℕ → ℕ → Option (List CStr)
  | 0, _ => none
  | fuel + 1, db => do
    let c ← databases[db]?
    if c = NUL then return []
    else
      let strlen ← seek NUL (databases.drop db)
      let names ← walk databases fuel (db + (strlen + 1))
      return (databases.drop db).take strlen :: names

def rowBytes : List CStr → ℕ
  | [] => 0
  | name :: rows => name.length + 1 + rowBytes rows

theorem toInt_toInt_add (a b : ℤ) : toInt (toInt a + b) = toInt (a + b) := by
  unfold toInt
  omega

theorem bufferlen_from (n : ℤ) (rows : List CStr) :
    rows.foldl (fun bufferlen name => toInt (bufferlen + (name.length + 1))) (toInt n) =
      toInt (n + rowBytes rows) := by
  induction rows generalizing n with
  | nil => simp [rowBytes]
  | cons name rows ih =>
    rw [List.foldl_cons, toInt_toInt_add, ih, rowBytes]
    congr 1
    push_cast
    omega

theorem bufferlen_eq (rows : List CStr) : bufferlen rows = toInt (1 + rowBytes rows) :=
  bufferlen_from 1 rows

theorem multiString_length (rows : List CStr) :
    (multiString rows).length = rowBytes rows + 1 := by
  induction rows with
  | nil => rfl
  | cons name rows ih =>
    rw [multiString, List.length_append, List.length_cons, ih, rowBytes]
    omega

theorem length_le_rowBytes (rows : List CStr) : rows.length ≤ rowBytes rows := by
  induction rows with
  | nil => exact Nat.le_refl 0
  | cons name rows ih =>
    rw [rowBytes, List.length_cons]
    omega

def packed (rows : List CStr) : List Char := rows.flatMap (· ++ [NUL])

theorem packed_multiString (rows : List CStr) : packed rows ++ [NUL] = multiString rows := by
  induction rows with
  | nil => rfl
  | cons name rows ih =>
    rw [multiString, ← ih, packed, packed, List.flatMap_cons]
    simp [NUL]

/-- One round moves the first name and its terminator to the cells behind the pointer. -/
theorem copyRows_step {before name : List Char} {k : ℕ} (plain : NUL ∉ name)
    (room : name.length < k) (rows : List CStr) :
    copyRows ⟨before ++ List.replicate k NUL, before.length⟩ (name :: rows) =
      copyRows ⟨(before ++ name ++ [NUL]) ++ List.replicate (k - (name.length + 1)) NUL,
        (before ++ name ++ [NUL]).length⟩ rows := by
  have cells : before ++ name ++ List.replicate (k - name.length) NUL =
      (before ++ name ++ [NUL]) ++ List.replicate (k - (name.length + 1)) NUL := by
    obtain ⟨m, hm⟩ : ∃ m, k - name.length = m + 1 := ⟨k - name.length - 1, by omega⟩
    rw [hm, ← Nat.sub_sub, hm, List.replicate_succ]
    simp
  have pos : (before ++ name ++ [NUL]).length = before.length + name.length + 1 := by
    simp only [List.length_append, List.length_singleton]
  have first := strcat2_zeroed before name k plain
  rw [if_pos room, cells] at first
  rw [copyRows, first, pos, Option.bind_eq_bind, Option.bind_some]

theorem copyRows_fits (before : List Char) {k : ℕ} {rows : List CStr}
    (plain : ∀ name ∈ rows, NUL ∉ name) (room : rowBytes rows ≤ k) :
    copyRows ⟨before ++ List.replicate k NUL, before.length⟩ rows =
      some ⟨before ++ packed rows ++ List.replicate (k - rowBytes rows) NUL,
        before.length + rowBytes rows⟩ := by
  induction rows generalizing before k with
  | nil => simp [copyRows, packed, rowBytes]
  | cons name rows ih =>
    rw [rowBytes] at room
    have others := fun n hn => plain n (List.mem_cons_of_mem name hn)
    rw [copyRows_step (plain name List.mem_cons_self) (by omega), ih _ others (by omega)]
    rw [packed, packed, List.flatMap_cons, rowBytes, Nat.sub_sub]
    simp only [List.append_assoc, List.length_append, List.length_singleton, Nat.add_assoc]

theorem copyRows_overrun (before : List Char) {k : ℕ} {rows : List CStr}
    (plain : ∀ name ∈ rows, NUL ∉ name) (short : k < rowBytes rows) :
    copyRows ⟨before ++ List.replicate k NUL, before.length⟩ rows = none := by
  induction rows generalizing before k with
  | nil => exact absurd short (Nat.not_lt_zero k)
  | cons name rows ih =>
    rw [rowBytes] at short
    have here := plain name List.mem_cons_self
    have others := fun n hn => plain n (List.mem_cons_of_mem name hn)
    by_cases room : name.length < k
    · rw [copyRows_step here room, ih _ others (by omega)]
    · rw [copyRows, strcat2_zeroed before name k here, if_neg room]
      rfl

theorem walk_names (before : List Char) {names : List CStr} (h : ∀ name ∈ names, IsName name)
    {fuel : ℕ} (enough : names.length < fuel) :
    walk (before ++ multiString names) fuel before.length = some names := by
  induction names generalizing before fuel with
  | nil =>
    obtain ⟨fuel, rfl⟩ : ∃ n, fuel = n + 1 := ⟨fuel - 1, by omega⟩
    simp [walk, multiString, NUL]
  | cons name names ih =>
    rw [List.length_cons] at enough
    obtain ⟨fuel, rfl⟩ : ∃ n, fuel = n + 1 := ⟨fuel - 1, by omega⟩
    obtain ⟨nonempty, plain⟩ := h name List.mem_cons_self
    obtain ⟨c, cs, rfl⟩ := List.exists_cons_of_ne_nil nonempty
    have first : c ≠ NUL := fun e => plain (e ▸ List.mem_cons_self)
    have here : (before ++ multiString ((c :: cs) :: names))[before.length]? = some c := by
      simp [multiString]
    have length : seek NUL ((before ++ multiString ((c :: cs) :: names)).drop before.length) =
        some (c :: cs).length := by
      rw [List.drop_left, multiString]
      exact seek_string plain _
    have visited : ((before ++ multiString ((c :: cs) :: names)).drop before.length).take
        (c :: cs).length = c :: cs := by
      rw [List.drop_left, multiString, List.take_left]
    have rest : walk (before ++ (c :: cs) ++ [NUL] ++ multiString names) fuel
        (before ++ (c :: cs) ++ [NUL]).length = some names :=
      ih _ (fun n hn => h n (List.mem_cons_of_mem _ hn)) (by omega)
    have buffer : before ++ (c :: cs) ++ [NUL] ++ multiString names =
        before ++ multiString ((c :: cs) :: names) := by
      simp [multiString, NUL]
    have advanced : (before ++ (c :: cs) ++ [NUL]).length =
        before.length + ((c :: cs).length + 1) := by
      simp only [List.length_append, List.length_singleton, Nat.add_assoc]
    rw [buffer, advanced] at rest
    rw [walk, here]
    simp only [Option.bind_eq_bind, Option.bind_some, if_neg first, length, visited, rest]
    rfl

structure DatabaseName where
  chars : CStr
  isName : IsName chars

def listed (names : List DatabaseName) : List CStr := names.map DatabaseName.chars

theorem listed_names {names : List DatabaseName} {name : CStr} (h : name ∈ listed names) :
    IsName name := by
  obtain ⟨n, -, rfl⟩ := List.mem_map.mp h
  exact n.isName

/-- The buffer is filled inside its bytes, and walked inside them to the same names. -/
def RoundTrips (rows : List CStr) : Prop :=
  ∃ buffer, databases rows = some buffer ∧ (buffer.length : ℤ) = bufferlen rows ∧
    walk buffer buffer.length 0 = some rows

/-- The buffer that fits, down to its last byte, the end marker. -/
theorem databases_fits {rows : List CStr} (plain : ∀ name ∈ rows, NUL ∉ name)
    (fits : 1 + rowBytes rows ≤ INT_MAX) : databases rows = some (multiString rows) := by
  have size : bufferlen rows = ((rowBytes rows + 1 : ℕ) : ℤ) := by
    rw [bufferlen_eq, Nat.add_comm]
    exact_mod_cast toInt_small fits
  have filled := copyRows_fits [] (k := rowBytes rows + 1) plain (by omega)
  rw [List.nil_append, List.nil_append, List.length_nil, Nat.add_sub_cancel_left] at filled
  rw [databases, size, zeroed, if_neg (by omega), Option.bind_eq_bind, Option.bind_some,
    Int.toNat_natCast, filled, ← packed_multiString]
  rfl

theorem roundTrips_of_fits {names : List DatabaseName}
    (fits : 1 + rowBytes (listed names) ≤ INT_MAX) : RoundTrips (listed names) := by
  have plain : ∀ name ∈ listed names, NUL ∉ name := fun name h => (listed_names h).2
  refine ⟨multiString (listed names), databases_fits plain fits, ?_, ?_⟩
  · rw [bufferlen_eq, multiString_length, Nat.add_comm]
    exact_mod_cast (toInt_small fits).symm
  · have rounds : (listed names).length < (multiString (listed names)).length := by
      have each := length_le_rowBytes (listed names)
      rw [multiString_length]
      omega
    exact walk_names [] (fun name h => listed_names h) rounds

/-- A size that does not fit an `int` leaves no buffer, or one that the rows overrun. -/
theorem not_roundTrips {names : List DatabaseName}
    (large : INT_MAX < 1 + rowBytes (listed names)) : ¬ RoundTrips (listed names) := by
  rintro ⟨buffer, run, -⟩
  have wrapped := toInt_large large
  push_cast at wrapped
  rw [← bufferlen_eq] at wrapped
  have short : (bufferlen (listed names)).toNat < rowBytes (listed names) := by
    unfold INT_MAX at large
    omega
  rw [databases, zeroed] at run
  by_cases negative : bufferlen (listed names) < 0
  · rw [if_pos negative] at run
    cases run
  · have overrun := copyRows_overrun []
      (fun name h => (listed_names h).2) short
    rw [List.nil_append, List.length_nil] at overrun
    rw [if_neg negative, Option.bind_eq_bind, Option.bind_some, overrun] at run
    cases run

theorem database_list_round_trips_iff (names : List DatabaseName) :
    RoundTrips (listed names) ↔ 1 + ((listed names).map (·.length + 1)).sum ≤ INT_MAX := by
  have bytes : ((listed names).map (·.length + 1)).sum = rowBytes (listed names) := by
    generalize listed names = rows
    induction rows with
    | nil => rfl
    | cons name rows ih => rw [List.map_cons, List.sum_cons, ih, rowBytes]
  rw [bytes]
  constructor
  · intro trip
    by_contra large
    exact not_roundTrips (Nat.not_le.mp large) trip
  · exact roundTrips_of_fits

def longName (n : ℕ) : DatabaseName :=
  ⟨List.replicate (n + 1) 'a', by simp, fun h => absurd (List.eq_of_mem_replicate h) (by decide)⟩

theorem rowBytes_longName (n : ℕ) : rowBytes (listed [longName n]) = n + 2 := by
  rw [listed, List.map_singleton, rowBytes, rowBytes, longName, List.length_replicate]

/-- The size of this list wraps to a single byte. -/
theorem long_list_overruns : ¬ RoundTrips (listed [longName (2 ^ 32 - 2)]) := by
  apply not_roundTrips
  rw [rowBytes_longName]
  decide

/-- On its buffer, the walk visits what it visits on the multi-string without bounds. -/
theorem walk_walkStrings {names : List CStr} (h : ∀ name ∈ names, IsName name) :
    walk (multiString names) (multiString names).length 0 =
      some (walkStrings (multiString names).length (multiString names)) := by
  have rounds : names.length < (multiString names).length := by
    have each := length_le_rowBytes names
    rw [multiString_length]
    omega
  rw [walkStrings_multiString h (Nat.le_refl _)]
  exact walk_names [] h rounds

end LibZbxPgsql.DatabaseBuffers
