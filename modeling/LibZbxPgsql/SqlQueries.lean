import LibZbxPgsql.SqlTokens
import Mathlib.Data.Rat.Defs

set_option autoImplicit false

/-! The queries `SELECT expression FROM table WHERE condition AND ...`, read from their
tokens. Anything else has no query here. -/
namespace LibZbxPgsql.SqlQueries
open SqlTokens

abbrev Name := List Char

inductive SqlType where
  | oid
  | integer
  | numeric
  | float
  | name
  | text
  | boolean
  | inet
  /-- A parameter or a literal, before the other operand decides. -/
  | unknown
  deriving DecidableEq

inductive Op where
  | add
  | sub
  | mul
  | div
  | eq
  | ne
  | notMatch
  deriving DecidableEq

inductive Expr where
  | column (name : Name)
  | param (n : ℕ)
  | int (n : ℕ)
  | decimal (q : ℚ)
  | text (value : List Char)
  | bool (b : Bool)
  | cast (e : Expr) (type : SqlType)
  | binary (op : Op) (l r : Expr)
  | call (function : Name)
  | apply (function : Name) (argument : Expr)
  | caseWhen (condition yes no : Expr)
  deriving DecidableEq

structure Query where
  item : Expr
  table : Name
  conditions : List Expr
  deriving DecidableEq

def word (s : String) : Token := .word s.toList

def leftParen : Token := .symbol ['(']

def rightParen : Token := .symbol [')']

def typeNamed (name : Name) : Option SqlType :=
  if name = "bigint".toList ∨ name = "integer".toList then some .integer
  else if name = "float".toList then some .float
  else if name = "inet".toList then some .inet
  else none

def opOf : Token → Option (Op × ℕ)
  | .symbol ['='] => some (.eq, 1)
  | .symbol ['!', '='] => some (.ne, 1)
  | .symbol ['<', '>'] => some (.ne, 1)
  | .symbol ['!', '~'] => some (.notMatch, 2)
  | .symbol ['+'] => some (.add, 3)
  | .symbol ['-'] => some (.sub, 3)
  | .symbol ['*'] => some (.mul, 4)
  | .symbol ['/'] => some (.div, 4)
  | _ => none

def digitsValue (digits : List Char) : ℕ := digits.foldl (fun n c => 10 * n + digitOf c) 0

def numberOf (digits : List Char) : Expr :=
  match digits.dropWhile Char.isDigit with
  | [] => .int (digitsValue digits)
  | _ :: fraction =>
    .decimal ((digitsValue (digits.takeWhile Char.isDigit ++ fraction) : ℚ) /
      10 ^ fraction.length)

def expect (token : Token) : List Token → Option (List Token)
  | [] => none
  | t :: ts => if t = token then some ts else none

mutual

/-- An expression whose operators bind at least as tightly as the level. -/
def expression : ℕ → ℕ → List Token → Option (Expr × List Token)
  | 0, _, _ => none
  | fuel + 1, level, ts => (primary fuel ts).bind fun (e, ts) => operators fuel level e ts

def operators : ℕ → ℕ → Expr → List Token → Option (Expr × List Token)
  | 0, _, _, _ => none
  | _ + 1, _, e, [] => some (e, [])
  | fuel + 1, level, e, .symbol [':', ':'] :: .word type :: ts =>
    (typeNamed type).bind fun type => operators fuel level (.cast e type) ts
  | fuel + 1, level, e, t :: ts =>
    match opOf t with
    | none => some (e, t :: ts)
    | some (op, tightness) =>
      if tightness < level then some (e, t :: ts)
      else (expression fuel (tightness + 1) ts).bind fun (r, ts) =>
        operators fuel level (.binary op e r) ts

def primary : ℕ → List Token → Option (Expr × List Token)
  | 0, _ => none
  | fuel + 1, .symbol ['('] :: ts =>
    (expression fuel 0 ts).bind fun (e, ts) => (expect rightParen ts).map (e, ·)
  | _ + 1, .number digits :: ts => some (numberOf digits, ts)
  | _ + 1, .text value :: ts => some (.text value, ts)
  | _ + 1, .param n :: ts => some (.param n, ts)
  | fuel + 1, .word name :: ts =>
    if name = "case".toList then
      (expect (word "when") ts).bind fun ts =>
      (expression fuel 0 ts).bind fun (condition, ts) =>
      (expect (word "then") ts).bind fun ts =>
      (expression fuel 0 ts).bind fun (yes, ts) =>
      (expect (word "else") ts).bind fun ts =>
      (expression fuel 0 ts).bind fun (no, ts) =>
      (expect (word "end") ts).map (.caseWhen condition yes no, ·)
    else if name = "true".toList then some (.bool true, ts)
    else if name = "false".toList then some (.bool false, ts)
    else
      match ts with
      | .symbol ['('] :: .symbol [')'] :: ts => some (.call name, ts)
      | .symbol ['('] :: ts =>
        (expression fuel 0 ts).bind fun (e, ts) =>
        (expect rightParen ts).map (.apply name e, ·)
      | ts => some (.column name, ts)
  | _ + 1, _ => none

end

def wholeExpression (ts : List Token) : Option Expr :=
  match expression (4 * ts.length + 4) 0 ts with
  | some (e, []) => some e
  | _ => none

def segments (token : Token) : List Token → List (List Token)
  | [] => [[]]
  | t :: ts =>
    match segments token ts with
    | [] => [[]]
    | segment :: more =>
      if t = token then [] :: segment :: more else (t :: segment) :: more

def breakAt (token : Token) : List Token → Option (List Token × List Token)
  | [] => none
  | t :: ts =>
    if t = token then some ([], ts)
    else (breakAt token ts).map fun (before, after) => (t :: before, after)

/-- A query may end with a semicolon. -/
def unterminated (ts : List Token) : List Token :=
  if ts.getLast? = some (.symbol [';']) then ts.dropLast else ts

def whereClause : List Token → Option (List Expr)
  | [] => some []
  | t :: ts =>
    if t = word "where" then (segments (word "and") ts).mapM wholeExpression else none

def source : List Token → Option (Name × List Expr)
  | .word table :: ts => (whereClause ts).map (table, ·)
  | _ => none

def query : List Token → Option Query
  | [] => none
  | t :: ts =>
    if t = word "select" then
      (breakAt (word "from") (unterminated ts)).bind fun (item, ts) =>
      (wholeExpression item).bind fun item =>
      (source ts).map fun (table, conditions) => ⟨item, table, conditions⟩
    else none

def parse (text : List Char) : Option Query := (tokens text).bind query

section Parts
variable {token : Token} {a b : List Token}

theorem breakAt_append (h : token ∉ a) (b : List Token) :
    breakAt token (a ++ token :: b) = some (a, b) := by
  induction a with
  | nil => simp [breakAt]
  | cons t ts ih =>
    rw [List.mem_cons, not_or] at h
    rw [List.cons_append, breakAt, if_neg (Ne.symm h.1), ih h.2]
    rfl

theorem segments_ne_nil (token : Token) (ts : List Token) : segments token ts ≠ [] := by
  cases ts with
  | nil => simp [segments]
  | cons t ts =>
    rw [segments]
    cases segments token ts with
    | nil => simp
    | cons segment more =>
      dsimp only
      split <;> simp

theorem segments_append (h : token ∉ a) (b : List Token) :
    segments token (a ++ token :: b) = a :: segments token b := by
  induction a with
  | nil =>
    rw [List.nil_append, segments]
    cases hs : segments token b with
    | nil => exact absurd hs (segments_ne_nil token b)
    | cons segment more => simp
  | cons t ts ih =>
    rw [List.mem_cons, not_or] at h
    rw [List.cons_append, segments, ih h.2]
    simp [Ne.symm h.1]

theorem segments_last (h : token ∉ a) : segments token a = [a] := by
  induction a with
  | nil => rfl
  | cons t ts ih =>
    rw [List.mem_cons, not_or] at h
    rw [segments, ih h.2]
    simp [Ne.symm h.1]

/-- Conditions that each follow the token, after a first. -/
theorem segments_flatMap {conditions : List (List Token)} (h : token ∉ a)
    (hc : ∀ c ∈ conditions, token ∉ c) :
    segments token (a ++ conditions.flatMap fun c => token :: c) = a :: conditions := by
  induction conditions generalizing a with
  | nil => rw [List.flatMap_nil, List.append_nil, segments_last h]
  | cons c cs ih =>
    have rest := ih (hc c List.mem_cons_self) fun d hd => hc d (List.mem_cons_of_mem _ hd)
    rw [List.flatMap_cons, List.cons_append, segments_append h, rest]

theorem unterminated_concat (ts : List Token) : unterminated (ts ++ [.symbol [';']]) = ts := by
  rw [unterminated, if_pos (by simp), List.dropLast_concat]

/-- A query of an expression from a table, with a first condition and others. -/
theorem query_where {item first : List Token} {table : Name} {conditions : List (List Token)}
    {e : Expr} {es : List Expr} (hi : word "from" ∉ item) (he : wholeExpression item = some e)
    (hf : word "and" ∉ first) (hc : ∀ c ∈ conditions, word "and" ∉ c)
    (hes : (first :: conditions).mapM wholeExpression = some es) :
    query (word "select" :: (item ++ word "from" :: .word table :: word "where" ::
      (first ++ conditions.flatMap fun c => word "and" :: c)) ++ [.symbol [';']]) =
      some ⟨e, table, es⟩ := by
  have from_table : source (.word table :: word "where" ::
      (first ++ conditions.flatMap fun c => word "and" :: c)) = some (table, es) := by
    rw [source, whereClause, if_pos rfl, segments_flatMap hf hc, hes]
    rfl
  rw [List.cons_append, query, if_pos rfl, unterminated_concat, breakAt_append hi]
  simp only [Option.bind_some, he, from_table, Option.map_some]

end Parts

end LibZbxPgsql.SqlQueries
