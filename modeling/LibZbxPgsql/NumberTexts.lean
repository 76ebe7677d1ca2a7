import LibZbxPgsql.CStrings
import Mathlib.Algebra.Order.Field.Power
import Mathlib.Algebra.Order.Floor.Semifield
import Mathlib.Data.Rat.Floor
import Mathlib.Tactic.Linarith
import Mathlib.Tactic.Positivity
import Mathlib.Tactic.Ring

set_option autoImplicit false

namespace LibZbxPgsql.NumberTexts
open CStrings

theorem digitsValue_eq (s : CStr) : digitsValue s = Nat.ofDigitChars 10 s 0 := rfl

theorem digitsValue_append (a b : CStr) :
    digitsValue (a ++ b) = 10 ^ b.length * digitsValue a + digitsValue b := by
  rw [digitsValue_eq, Nat.ofDigitChars_append, Nat.ofDigitChars_eq_ofDigitChars_zero]
  rfl

theorem digitValue_lt {c : Char} (h : isdigit c = true) : digitValue c < 10 := by
  have bounds : '0'.toNat ≤ c.toNat ∧ c.toNat ≤ '9'.toNat := by
    simpa [isdigit, Char.isDigit, Char.le_def, UInt32.le_iff_toNat_le] using h
  have zero : '0'.toNat = 48 := rfl
  have nine : '9'.toNat = 57 := rfl
  rw [digitValue]
  omega

theorem digitsValue_lt {s : CStr} (h : s.all isdigit = true) :
    digitsValue s < 10 ^ s.length := by
  induction s with
  | nil => decide
  | cons c s ih =>
    rw [List.all_cons, Bool.and_eq_true] at h
    have first := digitValue_lt h.1
    have rest := ih h.2
    have whole := digitsValue_append [c] s
    have one : digitsValue [c] = digitValue c := by simp [digitsValue]
    rw [List.singleton_append, one] at whole
    rw [whole, List.length_cons, pow_succ]
    nlinarith

def Stops (s : CStr) : Prop := ∀ c ∈ s.head?, isdigit c = false

theorem takeWhile_stops {s : CStr} (h : Stops s) : s.takeWhile isdigit = [] := by
  cases s with
  | nil => rfl
  | cons c s => rw [List.takeWhile_cons, h c rfl]; rfl

theorem dropWhile_stops {s : CStr} (h : Stops s) : s.dropWhile isdigit = s := by
  cases s with
  | nil => rfl
  | cons c s => rw [List.dropWhile_cons, h c rfl]; rfl

section Reading
variable {a b : CStr} (ha : a.all isdigit = true) (hb : Stops b)

include ha hb

theorem takeWhile_digits : (a ++ b).takeWhile isdigit = a := by
  rw [List.takeWhile_append_of_pos (by simpa using ha), takeWhile_stops hb, List.append_nil]

theorem dropWhile_digits : (a ++ b).dropWhile isdigit = b := by
  rw [List.dropWhile_append_of_pos (by simpa using ha), dropWhile_stops hb]

end Reading

theorem isspace_digit {c : Char} (h : isdigit c = true) : isspace c = false := by
  by_contra hs
  simp only [isspace, Bool.not_eq_false, Bool.or_eq_true, decide_eq_true_eq] at hs
  rcases hs with ((((rfl | rfl) | rfl) | rfl) | rfl) | rfl <;> revert h <;> decide

/-- A text that begins with a digit has no sign. -/
theorem signOf_digit {c : Char} (h : isdigit c = true) (s : CStr) :
    signOf (c :: s) = (false, c :: s) := by
  rw [signOf, List.dropWhile_cons, isspace_digit h]
  simp only [Bool.false_eq_true, if_false]
  split
  · rename_i he
    cases he
    exact absurd h (by decide)
  · rename_i he
    cases he
    exact absurd h (by decide)
  · rfl

/-- The digits of a number; the exponent with `true` for a minus. -/
structure Numeral where
  whole : CStr
  fraction : CStr
  exponent : Option (Bool × CStr)
  whole_given : whole ≠ []
  whole_digits : whole.all isdigit = true
  fraction_digits : fraction.all isdigit = true
  exponent_digits : ∀ e ∈ exponent, e.2.all isdigit = true ∧ 2 ≤ e.2.length
  scientific : exponent ≠ none → whole.length = 1

def fractionText : CStr → CStr
  | [] => []
  | c :: digits => '.' :: c :: digits

def exponentText : Option (Bool × CStr) → CStr
  | none => []
  | some (negative, digits) => 'e' :: (if negative then '-' else '+') :: digits

def exponentValue : Option (Bool × CStr) → ℤ
  | none => 0
  | some (negative, digits) =>
    if negative then -(digitsValue digits : ℤ) else digitsValue digits

namespace Numeral

def text (n : Numeral) : CStr :=
  n.whole ++ (fractionText n.fraction ++ exponentText n.exponent)

def value (n : Numeral) : ℚ :=
  (digitsValue (n.whole ++ n.fraction) : ℚ) *
    10 ^ (exponentValue n.exponent - n.fraction.length)

end Numeral

theorem exponentText_stops (e : Option (Bool × CStr)) : Stops (exponentText e) := by
  intro c hc
  cases e with
  | none => cases hc
  | some e =>
    cases hc
    decide

theorem fractionText_stops (fraction : CStr) (e : Option (Bool × CStr)) :
    Stops (fractionText fraction ++ exponentText e) := by
  cases fraction with
  | nil => exact exponentText_stops e
  | cons d digits =>
    intro c hc
    cases hc
    decide

theorem exponentOf_text {e : Option (Bool × CStr)} (h : ∀ x ∈ e, x.2.all isdigit = true) :
    exponentOf (exponentText e) = exponentValue e := by
  cases e with
  | none => rfl
  | some e =>
    obtain ⟨negative, digits⟩ := e
    have all : digits.takeWhile isdigit = digits := by
      have whole := takeWhile_digits (h _ rfl) (b := []) (fun _ hc => by cases hc)
      rwa [List.append_nil] at whole
    cases negative <;> simp [exponentText, exponentOf, exponentValue, all]

section Conversions
variable (n : Numeral)

theorem signOf_text : signOf n.text = (false, n.text) := by
  obtain ⟨c, digits, hw⟩ := List.exists_cons_of_ne_nil n.whole_given
  have first : isdigit c = true := by
    have all := n.whole_digits
    rw [hw, List.all_cons, Bool.and_eq_true] at all
    exact all.1
  rw [Numeral.text, hw, List.cons_append, signOf_digit first]

theorem strtod_text : strtod n.text = n.value := by
  have stops := fractionText_stops n.fraction n.exponent
  rw [strtod, signOf_text]
  simp only [Numeral.text, takeWhile_digits n.whole_digits stops,
    dropWhile_digits n.whole_digits stops]
  have exponent := exponentOf_text fun e he => (n.exponent_digits e he).1
  have after := exponentText_stops n.exponent
  cases hf : n.fraction with
  | nil =>
    have value : n.value =
        (digitsValue n.whole : ℚ) * 10 ^ exponentOf (exponentText n.exponent) := by
      rw [Numeral.value, hf, exponent, List.append_nil, List.length_nil, Nat.cast_zero, sub_zero]
    rw [value]
    cases n.exponent with
    | none => simp [fractionText, exponentText]
    | some e => simp [fractionText, exponentText]
  | cons c digits =>
    have fraction : (c :: digits).all isdigit = true := hf ▸ n.fraction_digits
    simp only [fractionText, List.cons_append]
    rw [← List.cons_append, takeWhile_digits fraction after, dropWhile_digits fraction after,
      exponent, ← hf]
    simp [Numeral.value]

theorem strtoull_text : strtoull n.text = min (digitsValue n.whole) ULLONG_MAX := by
  have stops := fractionText_stops n.fraction n.exponent
  rw [strtoull, signOf_text]
  simp only [Numeral.text, takeWhile_digits n.whole_digits stops]
  split
  · omega
  · simp only [Bool.false_eq_true, if_false]
    omega

theorem strtol_text : strtol n.text = min LONG_MAX (digitsValue n.whole) := by
  have stops := fractionText_stops n.fraction n.exponent
  rw [strtol, signOf_text]
  simp only [Numeral.text, takeWhile_digits n.whole_digits stops]
  rfl

end Conversions

def Numeral.ofNat (k : ℕ) : Numeral where
  whole := Nat.toDigits 10 k
  fraction := []
  exponent := none
  whole_given := Nat.toDigits_ne_nil
  whole_digits := by
    rw [List.all_eq_true]
    exact fun c hc => Nat.isDigit_of_mem_toDigits (by decide) (by decide) hc
  fraction_digits := rfl
  exponent_digits := fun _ he => by cases he
  scientific := fun h => absurd rfl h

@[simp] theorem ofNat_whole (k : ℕ) : digitsValue (Numeral.ofNat k).whole = k :=
  Nat.ofDigitChars_ten_toDigits

@[simp] theorem ofNat_value (k : ℕ) : (Numeral.ofNat k).value = k := by
  have whole : digitsValue (Nat.toDigits 10 k) = k := Nat.ofDigitChars_ten_toDigits
  simp [Numeral.value, Numeral.ofNat, exponentValue, whole]

theorem ofNat_length {k : ℕ} (h : k < 10 ^ 20) : (Numeral.ofNat k).text.length ≤ 20 := by
  have short := (Nat.length_toDigits_le_iff (b := 10) (by decide) (by decide : 0 < 20)).mpr h
  simpa [Numeral.text, Numeral.ofNat, fractionText, exponentText] using short

/-- The first digits of an integer. -/
def Numeral.cut (k n : ℕ) (positive : 0 < n) : Numeral where
  whole := (Nat.toDigits 10 k).take n
  fraction := []
  exponent := none
  whole_given := by simp [Nat.toDigits_ne_nil, Nat.pos_iff_ne_zero.mp positive]
  whole_digits := by
    rw [List.all_eq_true]
    exact fun c hc => Nat.isDigit_of_mem_toDigits (by decide) (by decide) (List.mem_of_mem_take hc)
  fraction_digits := rfl
  exponent_digits := fun _ he => by cases he
  scientific := fun h => absurd rfl h

/-- An integer of more digits than are kept, and what is kept of it. -/
theorem digitsValue_take {k n : ℕ} (long : n + 1 < (Nat.toDigits 10 k).length) :
    10 ^ n ≤ k ∧ 10 ^ n ≤ digitsValue ((Nat.toDigits 10 k).take (n + 1)) := by
  have value : digitsValue (Nat.toDigits 10 k) = k := Nat.ofDigitChars_ten_toDigits
  have parts := digitsValue_append ((Nat.toDigits 10 k).take (n + 1))
    ((Nat.toDigits 10 k).drop (n + 1))
  have rest : digitsValue ((Nat.toDigits 10 k).drop (n + 1)) <
      10 ^ ((Nat.toDigits 10 k).drop (n + 1)).length := by
    refine digitsValue_lt (List.all_eq_true.mpr fun c hc => ?_)
    exact Nat.isDigit_of_mem_toDigits (by decide) (by decide) (List.mem_of_mem_drop hc)
  have large : 10 ^ (((Nat.toDigits 10 k).drop (n + 1)).length + n) ≤ k := by
    by_contra small
    have dropped := List.length_drop (i := n + 1) (l := Nat.toDigits 10 k)
    have fewer := (Nat.length_toDigits_le_iff (b := 10) (by decide) (by omega)).mpr
      (Nat.lt_of_not_le small)
    omega
  rw [List.take_append_drop, value] at parts
  refine ⟨(Nat.pow_le_pow_right (by decide) (by omega)).trans large, ?_⟩
  by_contra small
  have bound : digitsValue ((Nat.toDigits 10 k).take (n + 1)) + 1 ≤ 10 ^ n := by omega
  have scaled := Nat.mul_le_mul_left (10 ^ ((Nat.toDigits 10 k).drop (n + 1)).length) bound
  rw [Nat.mul_add] at scaled
  rw [pow_add] at large
  omega

structure SignedDigits where
  sign : Option Bool
  digits : CStr
  given : digits ≠ []
  all_digits : digits.all isdigit = true

def signText : Option Bool → CStr
  | none => []
  | some true => ['-']
  | some false => ['+']

namespace SignedDigits

def text (n : SignedDigits) : CStr := signText n.sign ++ n.digits

def value (n : SignedDigits) : ℤ :=
  if n.sign = some true then -(digitsValue n.digits : ℤ) else digitsValue n.digits

end SignedDigits

theorem signOf_signed (n : SignedDigits) :
    signOf n.text = (decide (n.sign = some true), n.digits) := by
  obtain ⟨c, digits, hd⟩ := List.exists_cons_of_ne_nil n.given
  have first : isdigit c = true := by
    have all := n.all_digits
    rw [hd, List.all_cons, Bool.and_eq_true] at all
    exact all.1
  rw [SignedDigits.text, hd]
  match n.sign with
  | none => exact signOf_digit first digits
  | some true => rfl
  | some false => rfl

theorem strtoull_signed (n : SignedDigits) (h : digitsValue n.digits < 2 ^ 64) :
    (strtoull n.text : ℤ) = n.value % 2 ^ 64 := by
  have all : n.digits.takeWhile isdigit = n.digits := by
    have whole := takeWhile_digits n.all_digits (b := []) (fun _ hc => by cases hc)
    rwa [List.append_nil] at whole
  rw [strtoull, signOf_signed, SignedDigits.value]
  simp only [all, ULLONG_MAX, decide_eq_true_eq]
  rw [if_neg (by omega)]
  split <;> omega

section Floor
variable {n : Numeral}

variable (n) in
theorem value_nonneg : 0 ≤ n.value := by
  rw [Numeral.value]
  positivity

theorem floor_plain (h : n.exponent = none) : ⌊n.value⌋₊ = digitsValue n.whole := by
  have small : digitsValue n.fraction < 10 ^ n.fraction.length := digitsValue_lt n.fraction_digits
  have quotient : n.value =
      ((10 ^ n.fraction.length * digitsValue n.whole + digitsValue n.fraction : ℕ) : ℚ) /
        ((10 ^ n.fraction.length : ℕ) : ℚ) := by
    rw [Numeral.value, digitsValue_append, h, exponentValue, zero_sub, zpow_neg, zpow_natCast,
      div_eq_mul_inv]
    push_cast
    rfl
  rw [quotient, Nat.floor_div_eq_div, Nat.mul_add_div (by positivity), Nat.div_eq_of_lt small,
    Nat.add_zero]

/-- One digit, times a power of ten. -/
theorem floor_scaled {d : ℕ} (hd : d < 10) (e : ℤ) :
    ⌊(d : ℚ) * 10 ^ e⌋₊ = d ↔ d = 0 ∨ e = 0 := by
  rcases lt_trichotomy e 0 with he | rfl | he
  · obtain ⟨k, rfl⟩ : ∃ k : ℕ, e = -(k + 1 : ℕ) := ⟨(-e - 1).toNat, by omega⟩
    have quotient : (d : ℚ) * 10 ^ (-((k + 1 : ℕ) : ℤ)) = (d : ℚ) / ((10 ^ (k + 1) : ℕ) : ℚ) := by
      rw [zpow_neg, zpow_natCast, div_eq_mul_inv]
      push_cast
      rfl
    have below : d < 10 ^ (k + 1) := hd.trans_le (Nat.le_self_pow (by omega) 10)
    rw [quotient, Nat.floor_div_eq_div, Nat.div_eq_of_lt below]
    omega
  · simp
  · obtain ⟨k, rfl⟩ : ∃ k : ℕ, e = (k + 1 : ℕ) := ⟨(e - 1).toNat, by omega⟩
    have product : (d : ℚ) * 10 ^ ((k + 1 : ℕ) : ℤ) = ((d * 10 ^ (k + 1) : ℕ) : ℚ) := by
      rw [zpow_natCast]
      push_cast
      rfl
    have power : 10 ≤ 10 ^ (k + 1) := Nat.le_self_pow (by omega) 10
    rw [product, Nat.floor_natCast]
    constructor
    · intro same
      by_contra other
      have positive : 0 < d := by omega
      have grows : d * 10 ≤ d * 10 ^ (k + 1) := Nat.mul_le_mul_left d power
      omega
    · rintro (rfl | zero)
      · exact Nat.zero_mul _
      · omega

end Floor

end LibZbxPgsql.NumberTexts
