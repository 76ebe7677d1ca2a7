import Mathlib.Data.List.Basic
import Mathlib.Data.String.Basic
import Mathlib.Algebra.Group.Int.Defs

set_option autoImplicit false

/-! `consume` reads a format against its arguments and gives the text together with the
arguments left over. It is `none` where C leaves the call undefined: a conversion without an
argument of its type, or a `%` that begins no conversion. -/
namespace LibZbxPgsql.PrintfFormat

inductive Arg where
  | string (s : List Char)
  | int (n : ℤ)

def intDigits (n : ℤ) : List Char :=
  if n < 0 then '-' :: Nat.toDigits 10 n.natAbs else Nat.toDigits 10 n.natAbs

def hexDigits (n : ℤ) : List Char :=
  (Nat.toDigits 16 (n % 2 ^ 32).toNat).map Char.toUpper

/-- The conversions the module uses: `%%`, `%s`, `%i`, `%d` and `%0X`. -/
def consume : List Char → List Arg → Option (List Char × List Arg)
  | [], args => some ([], args)
  | '%' :: '%' :: format, args =>
    (consume format args).map fun (text, rest) => ('%' :: text, rest)
  | '%' :: 's' :: format, .string s :: args =>
    (consume format args).map fun (text, rest) => (s ++ text, rest)
  | '%' :: 'i' :: format, .int n :: args =>
    (consume format args).map fun (text, rest) => (intDigits n ++ text, rest)
  | '%' :: 'd' :: format, .int n :: args =>
    (consume format args).map fun (text, rest) => (intDigits n ++ text, rest)
  | '%' :: '0' :: 'X' :: format, .int n :: args =>
    (consume format args).map fun (text, rest) => (hexDigits n ++ text, rest)
  | c :: format, args =>
    if c = '%' then none
    else (consume format args).map fun (text, rest) => (c :: text, rest)

def vsnprintf (n : ℕ) (format : List Char) (args : List Arg) : Option (List Char) :=
  (consume format args).map fun (text, _) => text.take (n - 1)

inductive Conversion where
  | string
  | int
  deriving DecidableEq

def Arg.conversion : Arg → Conversion
  | .string _ => .string
  | .int _ => .int

/-- The conversions of a format, `none` where it has one of another kind. -/
def conversions : List Char → Option (List Conversion)
  | [] => some []
  | '%' :: '%' :: format => conversions format
  | '%' :: 's' :: format => (conversions format).map (.string :: ·)
  | '%' :: 'i' :: format => (conversions format).map (.int :: ·)
  | '%' :: 'd' :: format => (conversions format).map (.int :: ·)
  | '%' :: '0' :: 'X' :: format => (conversions format).map (.int :: ·)
  | c :: format => if c = '%' then none else conversions format

section Exact
variable {format text : List Char} {args rest : List Arg}

theorem consume_other {c : Char} (hc : c ≠ '%') :
    consume (c :: format) args =
      (consume format args).map fun (text, rest) => (c :: text, rest) := by
  simp [consume, hc]

theorem conversions_other {c : Char} (hc : c ≠ '%') :
    conversions (c :: format) = conversions format := by
  simp [conversions, hc]

/-- All arguments are consumed, and each string stands in the text. -/
def Exact (format : List Char) (args : List Arg) : Prop :=
  ∃ text, consume format args = some (text, []) ∧ ∀ s, .string s ∈ args → s <:+: text

theorem exact_before (h : Exact format args) (before : List Char) :
    ∃ text, (consume format args).map (fun (text, rest) => (before ++ text, rest)) =
      some (text, []) ∧ before <:+: text ∧ ∀ s, .string s ∈ args → s <:+: text := by
  obtain ⟨text, all, strings⟩ := h
  refine ⟨before ++ text, by rw [all, Option.map_some], ?_, ?_⟩
  · exact (List.prefix_append _ _).isInfix
  · intro s hs
    exact (strings s hs).trans (List.suffix_append _ _).isInfix

theorem exact_int {format' : List Char} (h : Exact format args) (digits : List Char) (n : ℤ)
    (step : consume format' (.int n :: args) =
      (consume format args).map fun (text, rest) => (digits ++ text, rest)) :
    Exact format' (.int n :: args) := by
  obtain ⟨text, all, -, strings⟩ := exact_before h digits
  refine ⟨text, step.trans all, ?_⟩
  intro s hs
  rcases List.mem_cons.mp hs with hs | hs
  · cases hs
  · exact strings s hs

/-- The arguments of a conversion in front of others. -/
theorem conversions_int {cs : Option (List Conversion)}
    (h : cs.map (.int :: ·) = some (args.map Arg.conversion)) :
    ∃ n args', args = .int n :: args' ∧ cs = some (args'.map Arg.conversion) := by
  obtain ⟨cs, rfl, he⟩ := Option.map_eq_some_iff.mp h
  match args, he with
  | .int n :: args, he => exact ⟨n, args, rfl, congrArg some (List.cons.inj he).2⟩

theorem conversions_string {cs : Option (List Conversion)}
    (h : cs.map (.string :: ·) = some (args.map Arg.conversion)) :
    ∃ s args', args = .string s :: args' ∧ cs = some (args'.map Arg.conversion) := by
  obtain ⟨cs, rfl, he⟩ := Option.map_eq_some_iff.mp h
  match args, he with
  | .string s :: args, he => exact ⟨s, args, rfl, congrArg some (List.cons.inj he).2⟩

/-- A call is exact where its arguments are of the format's conversions. -/
theorem exact_of_conversions (h : conversions format = some (args.map Arg.conversion)) :
    Exact format args := by
  induction format using conversions.induct generalizing args with
  | case1 =>
    cases args with
    | nil => exact ⟨[], rfl, fun s hs => by cases hs⟩
    | cons arg args => simp [conversions] at h
  | case2 format ih =>
    rw [conversions] at h
    obtain ⟨text, all, -, strings⟩ := exact_before (ih h) ['%']
    exact ⟨text, all, strings⟩
  | case3 format ih =>
    rw [conversions] at h
    obtain ⟨s, args, rfl, rest⟩ := conversions_string h
    obtain ⟨text, all, first, strings⟩ := exact_before (ih rest) s
    refine ⟨text, all, ?_⟩
    intro s' hs
    rcases List.mem_cons.mp hs with hs | hs
    · cases hs
      exact first
    · exact strings s' hs
  | case4 format ih =>
    rw [conversions] at h
    obtain ⟨n, args, rfl, rest⟩ := conversions_int h
    exact exact_int (ih rest) (intDigits n) n rfl
  | case5 format ih =>
    rw [conversions] at h
    obtain ⟨n, args, rfl, rest⟩ := conversions_int h
    exact exact_int (ih rest) (intDigits n) n rfl
  | case6 format ih =>
    rw [conversions] at h
    obtain ⟨n, args, rfl, rest⟩ := conversions_int h
    exact exact_int (ih rest) (hexDigits n) n rfl
  | case7 format h1 h2 h3 h4 h5 =>
    rw [conversions, if_pos rfl] at h
    · cases h
    all_goals assumption
  | case8 c format h1 h2 h3 h4 h5 other ih =>
    rw [conversions_other other] at h
    obtain ⟨text, all, -, strings⟩ := exact_before (ih h) [c]
    refine ⟨text, ?_, strings⟩
    rw [consume_other other]
    exact all

/-- A text without a percent sign is a format that stands for itself. -/
theorem consume_plain (plain : '%' ∉ format) : consume format args = some (format, args) := by
  induction format with
  | nil => rfl
  | cons c format ih =>
    rw [List.mem_cons, not_or] at plain
    rw [consume_other (Ne.symm plain.1), ih plain.2, Option.map_some]

/-- Without arguments, every two percent signs come to one. -/
theorem consume_length (h : consume format [] = some (text, rest)) :
    2 * text.length + format.count '%' = 2 * format.length := by
  induction format using conversions.induct generalizing text rest with
  | case1 =>
    cases h
    rfl
  | case2 format ih =>
    rw [consume] at h
    obtain ⟨⟨text, rest⟩, hc, he⟩ := Option.map_eq_some_iff.mp h
    cases he
    have counted := ih hc
    simp only [List.length_cons, List.count_cons_self]
    omega
  | case8 c format h1 h2 h3 h4 h5 other ih =>
    rw [consume_other other] at h
    obtain ⟨⟨text, rest⟩, hc, he⟩ := Option.map_eq_some_iff.mp h
    cases he
    have counted := ih hc
    rw [List.count_cons_of_ne other]
    simp only [List.length_cons]
    omega
  | case3 format | case4 format | case5 format | case6 format | case7 format =>
    simp [consume] at h

theorem plain_of_consume (h : consume format [] = some (format, rest)) : '%' ∉ format := by
  have counted := consume_length h
  apply List.count_eq_zero.mp
  omega

end Exact

end LibZbxPgsql.PrintfFormat
