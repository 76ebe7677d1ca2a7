import LibZbxPgsql.DescendingRows
import LibZbxPgsql.SqlEvaluation

set_option autoImplicit false

/-! The queries `SELECT COALESCE((SELECT item AS name FROM table WHERE condition AND ... ORDER
BY name DESC LIMIT n), default)` on the times of a view, read from their tokens and evaluated.
Anything else has no query here. -/
namespace LibZbxPgsql.OrderedQueries
open SqlTokens SqlQueries SqlEvaluation DescendingRows

inductive Instant where
  | now
  | column (name : Name)
  deriving DecidableEq

inductive Item where
  | epoch (i : Instant)
  | sub (l r : Item)
  deriving DecidableEq

inductive Condition where
  | holds (e : Expr)
  | notIn (column : Name) (values : List (List Char))
  deriving DecidableEq

structure OrderedQuery where
  item : Item
  table : Name
  conditions : List Condition
  limit : ℕ
  default : ℕ
  deriving DecidableEq

def expectAll : List Token → List Token → Option (List Token)
  | [], ts => some ts
  | token :: tokens, ts => (expect token ts).bind (expectAll tokens)

def instant : List Token → Option (Instant × List Token)
  | .word name :: .symbol ['('] :: .symbol [')'] :: ts =>
    if name = "now".toList then some (.now, ts) else none
  | .word name :: ts => some (.column name, ts)
  | _ => none

def epoch (ts : List Token) : Option (Item × List Token) :=
  (expectAll [word "extract", leftParen, word "epoch", word "from"] ts).bind fun ts =>
  (instant ts).bind fun (i, ts) => (expect rightParen ts).map (.epoch i, ·)

def item (ts : List Token) : Option (Item × List Token) :=
  (epoch ts).bind fun (l, ts) =>
    match ts with
    | .symbol ['-'] :: ts => (epoch ts).map fun (r, ts) => (.sub l r, ts)
    | ts => some (l, ts)

def texts : List Token → Option (List (List Char))
  | [.text s, .symbol [')']] => some [s]
  | .text s :: .symbol [','] :: ts => (texts ts).map (s :: ·)
  | _ => none

def condition : List Token → Option Condition
  | .word column :: .word a :: .word b :: .symbol ['('] :: ts =>
    if a = "not".toList ∧ b = "in".toList then (texts ts).map (.notIn column ·) else none
  | ts => (wholeExpression ts).map .holds

def ending (name : Name) : List Token → Option (ℕ × ℕ)
  | [.word a, .word by_name, .word b, .word c, .number n, .symbol [')'], .symbol [','],
      .number d, .symbol [')']] =>
    if a = "by".toList ∧ by_name = name ∧ b = "desc".toList ∧ c = "limit".toList then
      some (digitsValue n, digitsValue d)
    else none
  | _ => none

def query (ts : List Token) : Option OrderedQuery :=
  (expectAll [word "select", word "coalesce", leftParen, leftParen, word "select"]
    (unterminated ts)).bind fun ts =>
  (item ts).bind fun (item, ts) =>
    match ts with
    | .word a :: .word name :: .word b :: .word table :: .word c :: ts =>
      if a = "as".toList ∧ b = "from".toList ∧ c = "where".toList then
        (breakAt (word "order") ts).bind fun (conditions, ts) =>
        ((segments (word "and") conditions).mapM condition).bind fun conditions =>
        (ending name ts).map fun (limit, default) => ⟨item, table, conditions, limit, default⟩
      else none
    | _ => none

def parse (text : List Char) : Option OrderedQuery := (tokens text).bind query

/-- A query of an item, with a first condition and others. -/
theorem query_ordered {item_tokens first tail : List Token} {name : Name}
    {conditions : List (List Token)} {it : Item} {cs : List Condition} {limit default : ℕ}
    (hi : ∀ ts, item (item_tokens ++ ts) = some (it, ts))
    (hf : word "and" ∉ first) (ho : word "order" ∉ first)
    (hc : ∀ c ∈ conditions, word "and" ∉ c) (hco : ∀ c ∈ conditions, word "order" ∉ c)
    (hcs : (first :: conditions).mapM condition = some cs)
    (ht : ending name tail = some (limit, default)) (table : Name) :
    query (word "select" :: word "coalesce" :: leftParen :: leftParen :: word "select" ::
      (item_tokens ++ word "as" :: .word name :: word "from" :: .word table :: word "where" ::
        ((first ++ conditions.flatMap fun c => word "and" :: c) ++ word "order" :: tail)) ++
      [.symbol [';']]) = some ⟨it, table, cs, limit, default⟩ := by
  have plain : word "order" ∉ first ++ conditions.flatMap fun c => word "and" :: c := by
    rw [List.mem_append, List.mem_flatMap, not_or]
    refine ⟨ho, ?_⟩
    rintro ⟨c, hm, h⟩
    rcases List.mem_cons.mp h with h | h
    · exact absurd h (by decide)
    · exact hco c hm h
  rw [query, unterminated_concat]
  simp only [expectAll, expect, if_pos, Option.bind_some, hi]
  change (if "as".toList = "as".toList ∧ "from".toList = "from".toList ∧
    "where".toList = "where".toList then (breakAt (word "order") (_ ++ word "order" :: tail)).bind _
    else none) = _
  rw [if_pos ⟨rfl, rfl, rfl⟩, breakAt_append plain, Option.bind_some]
  simp only [segments_flatMap hf hc, hcs, Option.bind_some, ht, Option.map_some]

def placeholders (types : Name → Option SqlType) : Expr → List (ℕ × SqlType)
  | .binary _ (.param n) r => (n, typeOf types r) :: placeholders types r
  | .binary _ l (.param n) => placeholders types l ++ [(n, typeOf types l)]
  | .binary _ l r => placeholders types l ++ placeholders types r
  | .cast (.param n) type => [(n, type)]
  | .cast e _ => placeholders types e
  | .apply _ e => placeholders types e
  | .caseWhen condition yes no =>
    placeholders types condition ++ placeholders types yes ++ placeholders types no
  | _ => []

def Condition.placeholders (types : Name → Option SqlType) : Condition → List (ℕ × SqlType)
  | .holds e => OrderedQueries.placeholders types e
  | .notIn _ _ => []

/-- The columns of a view, and those of them that are times, in seconds. -/
structure View (α R : Type) where
  columns : Columns α R
  times : List (Name × (R → Option ℚ))

section Evaluation
variable {α R : Type} [DecidableEq α] (session : Session α) (now : ℚ) (view : View α R)
  (params : List (List Char))

def View.types : Name → Option SqlType := fun c => (view.columns.lookup c).map Prod.fst

def evalInstant (r : R) : Instant → Option (Option ℚ)
  | .now => some (some now)
  | .column c => (view.times.lookup c).map fun time => time r

def evalItem (r : R) : Item → Option (Option ℚ)
  | .epoch i => evalInstant now view r i
  | .sub a b =>
    (evalItem r a).bind fun x => (evalItem r b).map fun y =>
      x.bind fun x => y.map fun y => x - y

/-- A `NULL` is neither in a list nor not. -/
def evalCondition (r : R) : Condition → Option (Value α)
  | .holds e => evalRow session view.types params (rowOf view.columns r) e
  | .notIn c values =>
    (evalRow session view.types params (rowOf view.columns r) (.column c)).bind fun
      | none => some none
      | some (.text s) => some (some (.bool (s ∉ values)))
      | some _ => none

def keepsRow (conditions : List Condition) (r : R) : Option Bool :=
  (conditions.mapM (evalCondition session view params r)).map fun values =>
    values.all (· = some (.bool true))

def keptRows (keep : R → Option Bool) : List R → Option (List R)
  | [] => some []
  | r :: rows =>
    (keep r).bind fun kept => (keptRows keep rows).map fun rows => if kept then r :: rows else rows

/-- The parameter reads as a value of the type its placeholder has. -/
def bindsAs : ℕ × SqlType → Bool
  | (0, _) => false
  | (n + 1, type) => (params[n]?.bind (input session type)).isSome

def binds (conditions : List Condition) : Bool :=
  (conditions.flatMap (Condition.placeholders view.types)).all (bindsAs session params)

/-- Parameters are read before any row is. -/
def run (rows : List R) (q : OrderedQuery) : Option ℚ :=
  if binds session view params q.conditions then
    (keptRows (keepsRow session view params q.conditions) rows).bind fun rows =>
    (rows.mapM fun r => evalItem now view r q.item).bind fun values =>
    (scalar ((descending values).take q.limit)).map fun value => value.getD q.default
  else none

variable {session now view params}

omit [DecidableEq α] in
theorem typeOf_column {c : Name} {t : SqlType} {f : R → Value α}
    (h : view.columns.lookup c = some (t, f)) : typeOf view.types (.column c) = t := by
  simp [typeOf, View.types, h]

omit [DecidableEq α] in
theorem placeholders_param {c : Name} {t : SqlType} {f : R → Value α}
    (h : view.columns.lookup c = some (t, f)) (op : Op) (n : ℕ) :
    placeholders view.types (.binary op (.column c) (.param n)) = [(n, t)] := by
  rw [← typeOf_column h]
  rfl

theorem keptRows_filter {keep : R → Option Bool} {p : R → Bool} {rows : List R}
    (h : ∀ r ∈ rows, keep r = some (p r)) : keptRows keep rows = some (rows.filter p) := by
  induction rows with
  | nil => rfl
  | cons r rows ih =>
    rw [keptRows, h r List.mem_cons_self, Option.bind_some,
      ih fun r hr => h r (List.mem_cons_of_mem _ hr), Option.map_some, List.filter_cons]

/-- A first condition, and others that are expressions. -/
theorem keepsRow_cons {r : R} {c : Condition} {es : List Expr} {v : Value α}
    {k : Bool} (hc : evalCondition session view params r c = some v)
    (hk : keeps session view.types params es (rowOf view.columns r) = some k) :
    keepsRow session view params (c :: es.map .holds) r =
      some (decide (v = some (.bool true)) && k) := by
  rw [keeps, Option.map_eq_some_iff] at hk
  obtain ⟨values, hv, rfl⟩ := hk
  have rest : (es.map Condition.holds).mapM (evalCondition session view params r) =
      some values := by
    rw [List.mapM_map]
    exact hv
  rw [keepsRow, List.mapM_cons, hc, rest]
  rfl

theorem run_first {q : OrderedQuery} {rows : List R} {p : R → Bool} {f : R → Option ℚ}
    (bound : binds session view params q.conditions = true) (one : q.limit = 1)
    (h : ∀ r ∈ rows, keepsRow session view params q.conditions r = some (p r))
    (hv : ∀ r, evalItem now view r q.item = some (f r)) :
    run session now view params rows q =
      some ((first ((rows.filter p).map f)).getD q.default) := by
  rw [run, if_pos bound, keptRows_filter h, Option.bind_some,
    mapM_some _ _ _ fun r _ => hv r, Option.bind_some, one, scalar_first, Option.map_some]

theorem run_unbound {q : OrderedQuery} {rows : List R}
    (unbound : ¬ binds session view params q.conditions = true) :
    run session now view params rows q = none := by
  rw [run, if_neg unbound]

end Evaluation

end LibZbxPgsql.OrderedQueries
