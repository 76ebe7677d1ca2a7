import Mathlib.Data.List.Lex
import Mathlib.Data.String.Basic
import Mathlib.Data.Rat.Defs
import Mathlib.Algebra.Group.Int.Defs

set_option autoImplicit false

/-! A C string is the list of its bytes before the terminating NUL, a `Char` for each; where
the pointer may be `NULL`, it is an `Option CStr`. -/
namespace LibZbxPgsql.CStrings

abbrev CStr := List Char

/-- A string literal that the source breaks over several lines. -/
def literal (lines : List String) : CStr := lines.flatMap String.toList

def MAX_STRING_LEN : ℕ := 2048

/-- `strisnull(c)`: the pointer is `NULL` or addresses an empty string. -/
def strisnull : Option CStr → Bool
  | none => true
  | some [] => true
  | some (_ :: _) => false

/-- Only the sign of the result is specified in C. -/
def strcmp : CStr → CStr → ℤ
  | [], [] => 0
  | [], _ :: _ => -1
  | _ :: _, [] => 1
  | a :: as, b :: bs => if a < b then -1 else if b < a then 1 else strcmp as bs

def strncmp (a b : CStr) (n : ℕ) : ℤ := strcmp (a.take n) (b.take n)

def isspace (c : Char) : Bool :=
  c = ' ' || c = '\t' || c = '\n' || c = '\x0b' || c = '\x0c' || c = '\r'

def isdigit (c : Char) : Bool := c.isDigit

def toupper (c : Char) : Char := c.toUpper

/-- At most `n - 1` characters are stored, and a NUL. -/
def zbx_snprintf (n : ℕ) (formatted : CStr) : CStr := formatted.take (n - 1)

def zbx_strlcpy (src : CStr) (n : ℕ) : CStr := src.take (n - 1)

/-- `strcat2` on the string its destination holds; a `NULL` source leaves it alone. -/
def strcat2 (dest : CStr) (src : Option CStr) : CStr :=
  match src with
  | none => dest
  | some src => dest ++ src

theorem zbx_snprintf_fits {n : ℕ} {formatted : CStr} (h : formatted.length < n) :
    zbx_snprintf n formatted = formatted := List.take_of_length_le (by omega)

theorem strcmp_eq_zero_iff (a b : CStr) : strcmp a b = 0 ↔ a = b := by
  induction a generalizing b with
  | nil => cases b <;> simp [strcmp]
  | cons x a ih =>
    cases b with
    | nil => simp [strcmp]
    | cons y b =>
      rw [strcmp]
      rcases lt_trichotomy x y with h | h | h
      · simp [h, h.ne]
      · subst h
        simp [ih]
      · simp [h, h.not_gt, h.ne']

theorem strcmp_neg_iff (a b : CStr) : strcmp a b < 0 ↔ a < b := by
  induction a generalizing b with
  | nil => cases b <;> simp [strcmp]
  | cons x a ih =>
    cases b with
    | nil => simp [strcmp]
    | cons y b =>
      rw [strcmp, List.cons_lt_cons_iff]
      rcases lt_trichotomy x y with h | h | h
      · simp [h]
      · subst h
        simp [ih]
      · simp [h, h.not_gt, h.ne']

theorem strcmp_pos_iff (a b : CStr) : 0 < strcmp a b ↔ b < a := by
  have zero := strcmp_eq_zero_iff a b
  have neg := strcmp_neg_iff a b
  constructor
  · intro h
    rcases lt_trichotomy a b with hab | hab | hab
    · have := neg.mpr hab
      omega
    · have := zero.mpr hab
      omega
    · exact hab
  · intro h
    have h1 : ¬ strcmp a b = 0 := fun e => h.ne' (zero.mp e)
    have h2 : ¬ strcmp a b < 0 := fun e => h.not_gt (neg.mp e)
    omega

/-- A comparison that reaches the terminator of one string decides equality. -/
theorem strncmp_eq_zero_iff (a b : CStr) (n : ℕ) (h : b.length < n) :
    strncmp a b n = 0 ↔ a = b := by
  rw [strncmp, strcmp_eq_zero_iff, List.take_of_length_le h.le]
  constructor
  · intro e
    have hlen := congrArg List.length e
    rw [List.length_take] at hlen
    rwa [List.take_of_length_le (by omega)] at e
  · rintro rfl
    exact List.take_of_length_le h.le

theorem strncmp_zero_comm (a b : CStr) (n : ℕ) : strncmp a b n = 0 ↔ strncmp b a n = 0 := by
  rw [strncmp, strncmp, strcmp_eq_zero_iff, strcmp_eq_zero_iff, eq_comm]

@[simp] theorem strisnull_none : strisnull none = true := rfl

@[simp] theorem strisnull_some (s : CStr) : strisnull (some s) = s.isEmpty := by
  cases s <;> rfl

/-- A parameter that is not null or empty is a non-empty string. -/
theorem strisnull_eq_false {p : Option CStr} (h : strisnull p = false) :
    ∃ s, p = some s ∧ s ≠ [] := by
  match p, h with
  | some (c :: s), _ => exact ⟨c :: s, rfl, by simp⟩

def ULLONG_MAX : ℕ := 2 ^ 64 - 1

def LONG_MAX : ℤ := 2 ^ 63 - 1

def LONG_MIN : ℤ := -2 ^ 63

def digitValue (c : Char) : ℕ := c.toNat - '0'.toNat

def digitsValue (s : CStr) : ℕ := s.foldl (fun n c => 10 * n + digitValue c) 0

def signOf (s : CStr) : Bool × CStr :=
  match s.dropWhile isspace with
  | '-' :: s => (true, s)
  | '+' :: s => (false, s)
  | s => (false, s)

/-- A value out of range saturates; a minus sign negates in the unsigned type. -/
def strtoull (s : CStr) : ℕ :=
  let (negative, s) := signOf s
  let value := digitsValue (s.takeWhile isdigit)
  if value > ULLONG_MAX then ULLONG_MAX
  else if negative then (2 ^ 64 - value) % 2 ^ 64
  else value

def strtol (s : CStr) : ℤ :=
  let (negative, s) := signOf s
  let value : ℤ := digitsValue (s.takeWhile isdigit)
  if negative then max LONG_MIN (-value) else min LONG_MAX value

def atol (s : CStr) : ℤ := strtol s

def toInt (n : ℤ) : ℤ := (n + 2 ^ 31) % 2 ^ 32 - 2 ^ 31

def atoi (s : CStr) : ℤ := toInt (strtol s)

def toUInt64 (n : ℤ) : ℕ := (n % 2 ^ 64).toNat

def exponentOf : CStr → ℤ
  | c :: s =>
    if c = 'e' ∨ c = 'E' then
      let (negative, digits) := match s with
        | '-' :: s => (true, s.takeWhile isdigit)
        | '+' :: s => (false, s.takeWhile isdigit)
        | s => (false, s.takeWhile isdigit)
      if negative then -(digitsValue digits : ℤ) else digitsValue digits
    else 0
  | [] => 0

/-- `strtod` on decimal texts, taken as exact. -/
def strtod (s : CStr) : ℚ :=
  let (negative, s) := signOf s
  let whole := s.takeWhile isdigit
  let rest := s.dropWhile isdigit
  let (fraction, rest) := match rest with
    | '.' :: rest => (rest.takeWhile isdigit, rest.dropWhile isdigit)
    | rest => ([], rest)
  let mantissa : ℚ := digitsValue (whole ++ fraction)
  let value := mantissa * 10 ^ (exponentOf rest - fraction.length)
  if negative then -value else value

def truncate (q : ℚ) : ℤ := if 0 ≤ q then q.floor else -(-q).floor

/-- The loop of `is_oid`, with its `res` so far. -/
def is_oid_loop : CStr → Bool → Bool
  | [], res => res
  | c :: p, _ => if isdigit c = false then false else is_oid_loop p true

def is_oid (str : CStr) : Bool := is_oid_loop str false

inductive AddressFamily where
  | AF_INET
  | AF_INET6
  deriving DecidableEq

def is_valid_ip (inet_pton : AddressFamily → CStr → Bool) (str : CStr) : Bool :=
  let res := false
  let res := if inet_pton .AF_INET str then true else res
  if inet_pton .AF_INET6 str then true else res

end LibZbxPgsql.CStrings
