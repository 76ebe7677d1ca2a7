import LibZbxPgsql.SqlEvaluation

set_option autoImplicit false

/-! The queries `SELECT item AS name, ... FROM table alias JOIN table alias ON condition ...
WHERE condition AND ...`, with the columns qualified by their tables' aliases. Only the items
that are columns are read. -/
namespace LibZbxPgsql.SqlJoins
open SqlTokens SqlQueries SqlEvaluation

structure JoinQuery where
  /-- The names of the output, and the columns they stand for. -/
  outputs : List (Name × Name)
  /-- The tables, and their aliases. -/
  tables : List (Name × Name)
  /-- Those of the joins, and those of the `WHERE` clause. -/
  conditions : List Expr
  deriving DecidableEq

/-- A qualified name as one word. -/
def qualified : List Token → List Token
  | .word a :: .symbol ['.'] :: .word b :: ts => .word (a ++ '.' :: b) :: qualified ts
  | t :: ts => t :: qualified ts
  | [] => []

/-- The tokens with nothing between the outermost parentheses. -/
def outermost : ℕ → List Token → List Token
  | _, [] => []
  | 0, t :: ts => t :: outermost (if t = leftParen then 1 else 0) ts
  | depth + 1, t :: ts =>
    if t = leftParen then outermost (depth + 2) ts
    else if t = rightParen then
      if depth = 0 then t :: outermost depth ts else outermost depth ts
    else outermost (depth + 1) ts

def upTo (token : Token) (ts : List Token) : List Token := ts.takeWhile (· ≠ token)

def output : List Token → Option (Name × Name)
  | [.word column, as_word, .word name] =>
    if as_word = word "as" then some (name, column) else none
  | _ => none

def joined : List Token → Option ((Name × Name) × List Expr)
  | [.word table, .word a] => some ((table, a), [])
  | .word table :: .word a :: t :: ts =>
    if t = word "on" then (wholeExpression ts).map fun e => ((table, a), [e]) else none
  | _ => none

def sources (ts : List Token) : Option (List (Name × Name) × List Expr) :=
  (breakAt (word "where") ts).bind fun (tables, conditions) =>
  ((segments (word "join") tables).mapM joined).bind fun joins =>
  ((segments (word "and") (upTo (word "order") conditions)).mapM wholeExpression).map fun kept =>
    (joins.map Prod.fst, joins.flatMap Prod.snd ++ kept)

def joinQuery : List Token → Option JoinQuery
  | [] => none
  | t :: ts =>
    if t = word "select" then
      (breakAt (word "from") (outermost 0 (qualified (unterminated ts)))).bind fun (items, ts) =>
      (sources ts).map fun (tables, conditions) =>
        ⟨(segments (.symbol [',']) items).filterMap output, tables, conditions⟩
    else none

def parseJoin (text : List Char) : Option JoinQuery := (tokens text).bind joinQuery

/-- A query whose only item is over all the rows that are kept. -/
structure TotalQuery where
  item : Expr
  tables : List (Name × Name)
  conditions : List Expr
  deriving DecidableEq

def totalQuery : List Token → Option TotalQuery
  | [] => none
  | t :: ts =>
    if t = word "select" then
      (breakAt (word "from") (qualified (unterminated ts))).bind fun (item, ts) =>
      (wholeExpression item).bind fun item =>
      (sources ts).map fun (tables, conditions) => ⟨item, tables, conditions⟩
    else none

def parseTotal (text : List Char) : Option TotalQuery := (tokens text).bind totalQuery

section Evaluation
variable {α : Type} [DecidableEq α] (session : Session α)

/-- The column of that name, of the rows of the joined table that every condition holds
    of. The joined table has a row for each choice of one row of every table. -/
def runJoin (table : Table α) (params : List (List Char)) (name : Name) (q : JoinQuery) :
    Option (List (Value α)) :=
  (q.outputs.lookup name).bind fun column =>
  (kept session table.types params q.conditions table.rows).bind fun rows =>
  rows.mapM fun row => evalRow session table.types params row (.column column)

def runTotal (table : Table α) (params : List (List Char)) (q : TotalQuery) : Outcome α :=
  (kept session table.types params q.conditions table.rows).bind fun rows =>
    evalGroup session table.types params rows q.item

section Rules
variable {R : Type} {columns : Columns α R} {rows : List R} {params : List (List Char)}
  {name c : Name} {t : SqlType} {f : R → Value α} {q : JoinQuery}

theorem runJoin_rows {p : R → Bool} (named : q.outputs.lookup name = some c)
    (hc : columns.lookup c = some (t, f))
    (h : ∀ r ∈ rows, keeps session (tableOf columns rows).types params q.conditions
      (rowOf columns r) = some (p r)) :
    runJoin session (tableOf columns rows) params name q = some ((rows.filter p).map f) := by
  have group := kept_map session h
  rw [runJoin, named, Option.bind_some]
  change (kept session _ params q.conditions (rows.map (rowOf columns))).bind _ = _
  rw [group, Option.bind_some]
  exact column_values session rows params hc (rows.filter p)

theorem runTotal_group {p : R → Bool} {q : TotalQuery}
    (h : ∀ r ∈ rows, keeps session (tableOf columns rows).types params q.conditions
      (rowOf columns r) = some (p r)) :
    runTotal session (tableOf columns rows) params q =
      evalGroup session (tableOf columns rows).types params
        ((rows.filter p).map (rowOf columns)) q.item := by
  have group := kept_map session h
  change (kept session _ params q.conditions (rows.map (rowOf columns))).bind _ = _
  rw [group, Option.bind_some]

end Rules

section Columns
variable {R : Type} {columns : Columns α R} {rows : List R} {r : R} {c d : Name}
  {t u : SqlType} {params : List (List Char)}

/-- Two columns that are equal. -/
theorem decides_columns {A : Type} [DecidableEq A] {mk : A → Datum α} {g h : R → A}
    (hm : Embeds mk) (hc : columns.lookup c = some (t, fun r => some (mk (g r))))
    (hd : columns.lookup d = some (u, fun r => some (mk (h r)))) (kt : t ≠ .unknown)
    (ku : u ≠ .unknown) :
    Decides session (tableOf columns rows).types params (rowOf columns r)
      (.binary .eq (.column c) (.column d)) (decide (g r = h r)) := by
  have right := evalRow_column session rows r params hd
  have read : resolve session (typeOf (tableOf columns rows).types (.column d)) t
      (some (mk (h r))) = some (some (mk (h r))) := by
    rw [typeOf_column hd, resolve_known session ku]
  have decided := decides_compare session (g := fun r => some (g r)) hm hc kt right read
  simp only [Option.some.injEq] at decided
  exact decided

end Columns

end Evaluation

end LibZbxPgsql.SqlJoins
