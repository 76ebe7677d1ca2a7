import LibZbxPgsql.SqlQueries
import Mathlib.Algebra.BigOperators.Ring.Finset
import Mathlib.Data.Rat.Floor

set_option autoImplicit false

/-! Expressions are evaluated over the values of a row, or over a group of rows where they
aggregate. A value may be `NULL`; an evaluation that fails is a query that fails. The type `α`
is that of network addresses. -/
namespace LibZbxPgsql.SqlEvaluation
open SqlTokens SqlQueries

inductive Datum (α : Type) where
  | number (q : ℚ)
  | text (value : List Char)
  | bool (b : Bool)
  | address (a : α)
  deriving DecidableEq

/-- `none` is `NULL`. -/
abbrev Value (α : Type) := Option (Datum α)

/-- `none` is an error. -/
abbrev Outcome (α : Type) := Option (Value α)

structure Session (α : Type) where
  backendPid : ℕ
  setting : Name → Option (List Char)
  inet_in : List Char → Option α

structure Table (α : Type) where
  types : Name → Option SqlType
  rows : List (Name → Value α)

abbrev Columns (α R : Type) := List (Name × SqlType × (R → Value α))

def rowOf {α R : Type} (columns : Columns α R) (r : R) : Name → Value α :=
  fun c => (columns.lookup c).bind fun column => column.2 r

def tableOf {α R : Type} (columns : Columns α R) (rows : List R) : Table α where
  types c := (columns.lookup c).map Prod.fst
  rows := rows.map (rowOf columns)

def wider : SqlType → SqlType → SqlType
  | .float, _ => .float
  | _, .float => .float
  | .numeric, _ => .numeric
  | _, .numeric => .numeric
  | _, _ => .integer

def isArithmetic : Op → Bool
  | .add | .sub | .mul | .div => true
  | .eq | .ne | .notMatch => false

def pg_backend_pid : Name := "pg_backend_pid".toList
def current_setting : Name := "current_setting".toList
def count : Name := "count".toList
def sum : Name := "sum".toList

section Types
variable (types : Name → Option SqlType)

def typeOf : Expr → SqlType
  | .column c => (types c).getD .unknown
  | .param _ => .unknown
  | .int _ => .integer
  | .decimal _ => .numeric
  | .text _ => .unknown
  | .bool _ => .boolean
  | .cast _ type => type
  | .binary op l r => if isArithmetic op then wider (typeOf l) (typeOf r) else .boolean
  | .call _ => .integer
  | .apply f e =>
    if f = sum then wider .numeric (typeOf e) else if f = count then .integer else .text
  | .caseWhen _ yes no => wider (typeOf yes) (typeOf no)

end Types

/-- A name is cut to 63 bytes, a `Char` each. -/
def nameIn (room : ℕ) (s : List Char) : List Char := s.take room

def isNumeral (s : List Char) : Bool := s ≠ [] && s.all Char.isDigit

section Evaluation
variable {α : Type} [DecidableEq α] (session : Session α)

def input (type : SqlType) (s : List Char) : Option (Datum α) :=
  match type with
  | .oid => if isNumeral s ∧ digitsValue s < 2 ^ 32 then some (.number (digitsValue s)) else none
  | .integer => if isNumeral s then some (.number (digitsValue s)) else none
  | .name => some (.text (nameIn 63 s))
  | .text => some (.text s)
  | .unknown => some (.text s)
  | .inet => (session.inet_in s).map .address
  | .numeric | .float | .boolean => none

/-- An operand of unknown type is read as the other's. -/
def resolve (own other : SqlType) (v : Value α) : Outcome α :=
  match own, v with
  | .unknown, some (.text s) => (input session other s).map some
  | _, v => some v

def castTo (own type : SqlType) (v : Value α) : Outcome α :=
  match v with
  | none => some none
  | some (.text s) => (input session type s).map some
  | some (.number q) =>
    match type with
    | .integer => if own = .integer ∨ q.den = 1 then some v else none
    | .numeric | .float => some v
    | _ => none
  | some _ => none

def equal : Datum α → Datum α → Option Bool
  | .number x, .number y => some (x = y)
  | .text x, .text y => some (x = y)
  | .bool x, .bool y => some (x = y)
  | .address x, .address y => some (x = y)
  | _, _ => none

/-- The patterns that are a word anchored at the start. -/
def anchored : List Char → Option (List Char)
  | '^' :: w => if w.all isWordChar then some w else none
  | _ => none

def operate (op : Op) (type : SqlType) (x y : Datum α) : Option (Datum α) :=
  match op, x, y with
  | .eq, x, y => (equal x y).map .bool
  | .ne, x, y => (equal x y).map fun b => .bool !b
  | .add, .number x, .number y => some (.number (x + y))
  | .sub, .number x, .number y => some (.number (x - y))
  | .mul, .number x, .number y => some (.number (x * y))
  | .div, .number x, .number y =>
    if y = 0 then none
    else if type = .integer then some (.number ((x / y).num.tdiv (x / y).den))
    else some (.number (x / y))
  | .notMatch, .text s, .text pattern => (anchored pattern).map fun w => .bool !(w.isPrefixOf s)
  | _, _, _ => none

/-- Every operator is `NULL` where an operand is. -/
def strict (op : Op) (type : SqlType) : Value α → Value α → Outcome α
  | some x, some y => (operate op type x y).map some
  | _, _ => some none

section Expressions
variable (types : Name → Option SqlType) (params : List (List Char))
  (column : Name → Outcome α) (aggregate : Name → Expr → Outcome α)

def eval : Expr → Outcome α
  | .column c => column c
  | .param 0 => none
  | .param (n + 1) => (params[n]?).map fun s => some (.text s)
  | .int n => some (some (.number n))
  | .decimal q => some (some (.number q))
  | .text s => some (some (.text s))
  | .bool b => some (some (.bool b))
  | .cast e type => (eval e).bind (castTo session (typeOf types e) type)
  | .binary op l r =>
    (eval l).bind fun x => (resolve session (typeOf types l) (typeOf types r) x).bind fun x =>
    (eval r).bind fun y => (resolve session (typeOf types r) (typeOf types l) y).bind fun y =>
    strict op (wider (typeOf types l) (typeOf types r)) x y
  | .call f => if f = pg_backend_pid then some (some (.number session.backendPid)) else none
  | .apply f e =>
    if f = current_setting then
      (eval e).bind fun
        | some (.text s) => (session.setting s).map fun value => some (.text value)
        | _ => none
    else aggregate f e
  | .caseWhen condition yes no =>
    (eval condition).bind fun c => if c = some (.bool true) then eval yes else eval no

end Expressions

section Rows
variable (types : Name → Option SqlType) (params : List (List Char))

def evalRow (row : Name → Value α) (e : Expr) : Option (Value α) :=
  eval session types params (fun c => (types c).map fun _ => row c) (fun _ _ => none) e

/-- A row is kept where every condition is true, not false or `NULL`. -/
def keeps (conditions : List Expr) (row : Name → Value α) : Option Bool :=
  (conditions.mapM (evalRow session types params row)).map fun values =>
    values.all (· = some (.bool true))

def kept (conditions : List Expr) : List (Name → Value α) → Option (List (Name → Value α))
  | [] => some []
  | row :: rows =>
    (keeps session types params conditions row).bind fun keep =>
    (kept conditions rows).map fun rows => if keep then row :: rows else rows

def numberOf : Datum α → Option ℚ
  | .number q => some q
  | _ => none

/-- `COUNT` and `SUM` pass over `NULL`s; a sum of none is `NULL`. -/
def aggregateOf (f : Name) (values : List (Value α)) : Outcome α :=
  let given := values.filterMap id
  if f = count then some (some (.number given.length))
  else if f = sum then
    match given with
    | [] => some none
    | given => (given.mapM numberOf).map fun numbers => some (.number numbers.sum)
  else none

def evalGroup (rows : List (Name → Value α)) (e : Expr) : Outcome α :=
  eval session types params (fun _ => none)
    (fun f e => (rows.mapM fun row => evalRow session types params row e).bind (aggregateOf f)) e

end Rows

def aggregates : Expr → Bool
  | .apply f _ => f = count || f = sum
  | .cast e _ => aggregates e
  | .binary _ l r => aggregates l || aggregates r
  | .caseWhen condition yes no => aggregates condition || aggregates yes || aggregates no
  | _ => false

def run (table : Table α) (params : List (List Char)) (q : Query) : Option (List (Value α)) :=
  (kept session table.types params q.conditions table.rows).bind fun rows =>
    if aggregates q.item then
      (evalGroup session table.types params rows q.item).map fun v => [v]
    else rows.mapM fun row => evalRow session table.types params row q.item

/-- The first value that a command returns, where it reads the table of that name. -/
def firstValue (name : Name) (table : Table α) (command : List Char × List (List Char)) :
    Outcome α :=
  (parse command.1).bind fun q =>
    if q.table = name then (run session table command.2 q).bind List.head? else none

omit [DecidableEq α] in
theorem resolve_known {own : SqlType} (h : own ≠ .unknown) (other : SqlType) (v : Value α) :
    resolve session own other v = some v := by
  cases own <;> first | rfl | exact absurd rfl h

section Operations
variable {types : Name → Option SqlType} {params : List (List Char)} {column : Name → Outcome α}
  {aggregate : Name → Expr → Outcome α} {e l r : Expr} {x y : Value α}

/-- An operation on two operands of known types. -/
theorem eval_binary (op : Op) {t u : SqlType} (tl : typeOf types l = t) (tr : typeOf types r = u)
    (kl : t ≠ .unknown) (kr : u ≠ .unknown)
    (hl : eval session types params column aggregate l = some x)
    (hr : eval session types params column aggregate r = some y) :
    eval session types params column aggregate (.binary op l r) = strict op (wider t u) x y := by
  rw [eval, hl, Option.bind_some, tl, tr, resolve_known session kl, Option.bind_some, hr,
    Option.bind_some, resolve_known session kr, Option.bind_some]

theorem eval_cast (type : SqlType) (he : eval session types params column aggregate e = some x) :
    eval session types params column aggregate (.cast e type) =
      castTo session (typeOf types e) type x := by
  rw [eval, he, Option.bind_some]

theorem eval_case (he : eval session types params column aggregate e = some x) :
    eval session types params column aggregate (.caseWhen e l r) =
      if x = some (.bool true) then eval session types params column aggregate l
      else eval session types params column aggregate r := by
  rw [eval, he, Option.bind_some]

theorem eval_setting {name value : List Char} (h : session.setting name = some value) :
    eval session types params column aggregate (.apply current_setting (.text name)) =
      some (some (.text value)) := by
  rw [eval, if_pos rfl, eval, Option.bind_some]
  simp only [h, Option.map_some]

end Operations

section Rules
variable {types : Name → Option SqlType} {params : List (List Char)} {row : Name → Value α}

@[simp] theorem keeps_nil : keeps session types params [] row = some true := rfl

theorem keeps_cons (e : Expr) (es : List Expr) :
    keeps session types params (e :: es) row =
      (evalRow session types params row e).bind fun v =>
        (keeps session types params es row).map fun keep =>
          decide (v = some (.bool true)) && keep := by
  rw [keeps, List.mapM_cons]
  cases evalRow session types params row e with
  | none => rfl
  | some v =>
    simp only [keeps, Option.bind_eq_bind, Option.bind_some, Option.pure_def]
    cases es.mapM (evalRow session types params row) <;> simp

/-- Where every row's conditions can be decided, the rows kept are those they hold of. -/
theorem kept_map {R : Type} {rowOf : R → Name → Value α} {p : R → Bool}
    {conditions : List Expr} {rows : List R}
    (h : ∀ r ∈ rows, keeps session types params conditions (rowOf r) = some (p r)) :
    kept session types params conditions (rows.map rowOf) =
      some ((rows.filter p).map rowOf) := by
  induction rows with
  | nil => rfl
  | cons r rows ih =>
    rw [List.map_cons, kept, h r List.mem_cons_self, Option.bind_some,
      ih fun r hr => h r (List.mem_cons_of_mem _ hr), Option.map_some, List.filter_cons]
    cases p r <;> rfl

theorem keeps_append {es es' : List Expr} {k k' : Bool}
    (h : keeps session types params es row = some k)
    (h' : keeps session types params es' row = some k') :
    keeps session types params (es ++ es') row = some (k && k') := by
  induction es generalizing k with
  | nil =>
    cases h
    exact h'
  | cons e es ih =>
    rw [keeps_cons] at h
    obtain ⟨v, hv, h⟩ := Option.bind_eq_some_iff.mp h
    obtain ⟨k₁, hk, rfl⟩ := Option.map_eq_some_iff.mp h
    rw [List.cons_append, keeps_cons, hv, Option.bind_some, ih hk, Option.map_some,
      Bool.and_assoc]

variable (types params) in
/-- The condition evaluates, and is true or not as `b` says. -/
def Decides (row : Name → Value α) (e : Expr) (b : Bool) : Prop :=
  ∃ v, evalRow session types params row e = some v ∧ decide (v = some (.bool true)) = b

theorem keeps_of_decides {e : Expr} {es : List Expr} {b k : Bool}
    (h : Decides session types params row e b)
    (hk : keeps session types params es row = some k) :
    keeps session types params (e :: es) row = some (b && k) := by
  obtain ⟨v, hv, rfl⟩ := h
  rw [keeps_cons, hv, Option.bind_some, hk, Option.map_some]

theorem mapM_some {A B : Type} (f : A → Option B) (g : A → B) (l : List A)
    (h : ∀ a ∈ l, f a = some (g a)) : l.mapM f = some (l.map g) := by
  induction l with
  | nil => rfl
  | cons a l ih =>
    rw [List.mapM_cons, h a List.mem_cons_self, ih fun x hx => h x (List.mem_cons_of_mem _ hx)]
    rfl

end Rules

structure Embeds {A : Type} (mk : A → Datum α) : Prop where
  injective : Function.Injective mk
  comparable : ∀ a b, equal (mk a) (mk b) = some (decide (mk a = mk b))

theorem embeds_number : Embeds (α := α) fun n : ℕ => .number n where
  injective a b h := by simpa using h
  comparable a b := by simp [equal]

theorem embeds_text : Embeds (α := α) .text where
  injective a b h := by simpa using h
  comparable a b := by simp [equal]

theorem embeds_bool : Embeds (α := α) .bool where
  injective a b h := by simpa using h
  comparable a b := by simp [equal]

theorem embeds_address : Embeds (α := α) .address where
  injective a b h := by simpa using h
  comparable a b := by simp [equal]

theorem decides_equal {A : Type} [DecidableEq A] {mk : A → Datum α} (hm : Embeds mk)
    (type : SqlType) (v : Option A) (a : A) :
    ∃ v', strict .eq type (v.map mk) (some (mk a)) = some v' ∧
      decide (v' = some (.bool true)) = decide (v = some a) := by
  cases v with
  | none => exact ⟨none, rfl, by simp⟩
  | some b =>
    refine ⟨some (.bool (decide (mk b = mk a))), ?_, by simp [hm.injective.eq_iff]⟩
    simp only [Option.map_some, strict, operate, hm.comparable]

section Columns
variable {R : Type} {columns : Columns α R} {rows : List R} {r : R} {c : Name} {t : SqlType}
  {f : R → Value α} {params : List (List Char)}

variable (rows params r) in
theorem evalRow_column (hc : columns.lookup c = some (t, f)) :
    evalRow session (tableOf columns rows).types params (rowOf columns r) (.column c) =
      some (f r) := by
  simp [evalRow, eval, tableOf, rowOf, hc]

omit [DecidableEq α] in
theorem typeOf_column (hc : columns.lookup c = some (t, f)) :
    typeOf (tableOf columns rows).types (.column c) = t := by
  simp [typeOf, tableOf, hc]

/-- A column compared with an operand that reads as a value of its type. -/
theorem evalRow_compare (op : Op) {e : Expr} {v : Value α} {d : Value α}
    (hc : columns.lookup c = some (t, f)) (ht : t ≠ .unknown)
    (he : evalRow session (tableOf columns rows).types params (rowOf columns r) e = some v)
    (hd : resolve session (typeOf (tableOf columns rows).types e) t v = some d) :
    evalRow session (tableOf columns rows).types params (rowOf columns r)
        (.binary op (.column c) e) =
      strict op (wider t (typeOf (tableOf columns rows).types e)) (f r) d := by
  have left := evalRow_column session rows r params hc
  unfold evalRow at left he ⊢
  rw [eval, left, Option.bind_some, typeOf_column hc, resolve_known session ht,
    Option.bind_some, he, Option.bind_some, hd, Option.bind_some]

section Fields
variable {A : Type} [DecidableEq A] {mk : A → Datum α} {g : R → Option A} {a : A}

theorem decides_compare {e : Expr} {v : Value α} (hm : Embeds mk)
    (hc : columns.lookup c = some (t, fun r => (g r).map mk)) (ht : t ≠ .unknown)
    (he : evalRow session (tableOf columns rows).types params (rowOf columns r) e = some v)
    (hd : resolve session (typeOf (tableOf columns rows).types e) t v = some (some (mk a))) :
    Decides session (tableOf columns rows).types params (rowOf columns r)
      (.binary .eq (.column c) e) (decide (g r = some a)) := by
  obtain ⟨v', hv, truth⟩ :=
    decides_equal hm (wider t (typeOf (tableOf columns rows).types e)) (g r) a
  exact ⟨v', (evalRow_compare session .eq hc ht he hd).trans hv, truth⟩

/-- A column compared with a parameter that reads as a value of its type. -/
theorem decides_param {n : ℕ} {s : List Char} (hm : Embeds mk)
    (hc : columns.lookup c = some (t, fun r => (g r).map mk)) (ht : t ≠ .unknown)
    (hp : params[n]? = some s) (hd : input session t s = some (mk a)) :
    Decides session (tableOf columns rows).types params (rowOf columns r)
      (.binary .eq (.column c) (.param (n + 1))) (decide (g r = some a)) := by
  refine decides_compare session hm hc ht (v := some (.text s)) ?_ ?_
  · rw [evalRow, eval, hp, Option.map_some]
  · rw [typeOf, resolve, hd, Option.map_some]

/-- A column compared with a parameter that is cast to its type. -/
theorem decides_cast {n : ℕ} {s : List Char} (hm : Embeds mk)
    (hc : columns.lookup c = some (t, fun r => (g r).map mk)) (ht : t ≠ .unknown)
    (hp : params[n]? = some s) (hd : input session t s = some (mk a)) :
    Decides session (tableOf columns rows).types params (rowOf columns r)
      (.binary .eq (.column c) (.cast (.param (n + 1)) t)) (decide (g r = some a)) := by
  refine decides_compare session hm hc ht (v := some (mk a)) ?_ ?_
  · rw [evalRow, eval, eval, hp, Option.map_some, Option.bind_some, castTo, hd, Option.map_some]
  · rw [typeOf, resolve_known session ht]

end Fields

theorem decides_bool {g : R → Option Bool}
    (hc : columns.lookup c = some (.boolean, fun r => (g r).map .bool)) (b : Bool) :
    Decides session (tableOf columns rows).types params (rowOf columns r)
      (.binary .eq (.column c) (.bool b)) (decide (g r = some b)) :=
  decides_compare session embeds_bool hc (by decide) (v := some (.bool b)) rfl rfl

section Texts
variable {g : R → Name} {s : Name}

variable (rows params r) in
/-- A name compared with a text no longer than one. -/
theorem evalRow_literal (op : Op) (hc : columns.lookup c = some (.name, f))
    (short : nameIn 63 s = s) :
    evalRow session (tableOf columns rows).types params (rowOf columns r)
        (.binary op (.column c) (.text s)) =
      strict op (wider .name .unknown) (f r) (some (.text s)) := by
  have literal : evalRow session (tableOf columns rows).types params (rowOf columns r) (.text s) =
      some (some (.text s)) := rfl
  refine evalRow_compare session op hc (by decide) literal ?_
  rw [typeOf, resolve, input, short, Option.map_some]

theorem decides_literal (hc : columns.lookup c = some (.name, fun r => some (.text (g r))))
    (short : nameIn 63 s = s) :
    Decides session (tableOf columns rows).types params (rowOf columns r)
      (.binary .eq (.column c) (.text s)) (decide (g r = s)) := by
  have compared := evalRow_literal session rows r params .eq hc short
  refine ⟨some (.bool (decide (g r = s))), compared.trans ?_, by simp⟩
  simp only [strict, operate, equal, Option.map_some]

theorem decides_ne (hc : columns.lookup c = some (.name, fun r => some (.text (g r))))
    (short : nameIn 63 s = s) :
    Decides session (tableOf columns rows).types params (rowOf columns r)
      (.binary .ne (.column c) (.text s)) (decide (g r ≠ s)) := by
  have compared := evalRow_literal session rows r params .ne hc short
  refine ⟨some (.bool (decide (g r ≠ s))), compared.trans ?_, by simp⟩
  simp only [strict, operate, equal, Option.map_some, decide_not]

/-- A name that does not begin with a word. -/
theorem decides_notMatch (hc : columns.lookup c = some (.name, fun r => some (.text (g r))))
    (short : nameIn 63 ('^' :: s) = '^' :: s) (words : s.all isWordChar = true) :
    Decides session (tableOf columns rows).types params (rowOf columns r)
      (.binary .notMatch (.column c) (.text ('^' :: s))) (!s.isPrefixOf (g r)) := by
  have compared := evalRow_literal session rows r params .notMatch hc short
  refine ⟨some (.bool (!s.isPrefixOf (g r))), compared.trans ?_, by simp⟩
  simp only [strict, operate, anchored, if_pos words, Option.map_some]

end Texts

/-- A query that does not aggregate returns a value for each row kept. -/
theorem run_rows {p : R → Bool} {conditions : List Expr} {item : Expr} (name : Name)
    (single : aggregates item = false) {f : R → Value α}
    (h : ∀ r ∈ rows, keeps session (tableOf columns rows).types params conditions
      (rowOf columns r) = some (p r))
    (hv : ∀ r, evalRow session (tableOf columns rows).types params (rowOf columns r) item =
      some (f r)) :
    run session (tableOf columns rows) params ⟨item, name, conditions⟩ =
      some ((rows.filter p).map f) := by
  have group := kept_map session h
  have other : ¬ aggregates item = true := by
    rw [single]
    decide
  change (kept session _ params conditions (rows.map (rowOf columns))).bind _ = _
  rw [group, Option.bind_some, if_neg other, List.mapM_map]
  exact mapM_some _ _ _ fun r _ => hv r

theorem evalGroup_apply {types : Name → Option SqlType} {group : List (Name → Value α)}
    {f : Name} {e : Expr} {values : List (Value α)} (hf : f ≠ current_setting)
    (h : (group.mapM fun row => evalRow session types params row e) = some values) :
    evalGroup session types params group (.apply f e) = aggregateOf f values := by
  rw [evalGroup, eval, if_neg hf, h, Option.bind_some]

variable (rows params) in
/-- A column over some of the rows. -/
theorem column_values (hc : columns.lookup c = some (t, f)) (group : List R) :
    ((group.map (rowOf columns)).mapM fun row =>
      evalRow session (tableOf columns rows).types params row (.column c)) =
        some (group.map f) := by
  rw [List.mapM_map]
  exact mapM_some _ f group fun r _ => evalRow_column session rows r params hc

/-- A query that aggregates returns one value, over the rows kept. -/
theorem run_group {p : R → Bool} {conditions : List Expr} {item : Expr} (name : Name)
    (whole : aggregates item = true)
    (h : ∀ r ∈ rows, keeps session (tableOf columns rows).types params conditions
      (rowOf columns r) = some (p r)) :
    run session (tableOf columns rows) params ⟨item, name, conditions⟩ =
      (evalGroup session (tableOf columns rows).types params
        ((rows.filter p).map (rowOf columns)) item).map fun v => [v] := by
  have group := kept_map session h
  change (kept session _ params conditions (rows.map (rowOf columns))).bind _ = _
  rw [group, Option.bind_some, if_pos whole]

variable (rows params) in
/-- A count of a column counts the rows where it is not `NULL`. -/
theorem group_count (hc : columns.lookup c = some (t, f)) (group : List R) :
    evalGroup session (tableOf columns rows).types params (group.map (rowOf columns))
        (.apply count (.column c)) =
      some (some (.number (group.filter fun r => (f r).isSome).length)) := by
  have given : ((group.map f).filterMap id).length =
      (group.filter fun r => (f r).isSome).length := by
    rw [List.filterMap_map, Function.id_comp, List.length_filterMap_eq_countP,
      List.countP_eq_length_filter]
  rw [evalGroup_apply session (by decide) (column_values session rows params hc group),
    aggregateOf, if_pos rfl, given]

theorem run_count {p : R → Bool} {conditions : List Expr} (name : Name)
    (hc : columns.lookup c = some (t, f))
    (h : ∀ r ∈ rows, keeps session (tableOf columns rows).types params conditions
      (rowOf columns r) = some (p r)) :
    run session (tableOf columns rows) params ⟨.apply count (.column c), name, conditions⟩ =
      some [some (.number (rows.filter fun r => (f r).isSome && p r).length)] := by
  rw [run_group session name rfl h, group_count session rows params hc, Option.map_some,
    List.filter_filter]

/-- A sum passes over what is missing; a sum of nothing is missing. -/
def total (values : List (Option ℕ)) : Option ℕ :=
  match values.filterMap id with
  | [] => none
  | given => some given.sum

def natural (n : Option ℕ) : Value α := n.map fun n : ℕ => .number n

omit [DecidableEq α] in
theorem aggregateOf_sum (values : List (Option ℕ)) :
    aggregateOf sum (values.map (natural (α := α))) = some (natural (total values)) := by
  have given : (values.map (natural (α := α))).filterMap id =
      (values.filterMap id).map fun n : ℕ => .number n := by
    rw [List.filterMap_map, List.map_filterMap]
    congr 1
  rw [aggregateOf, given, if_neg (by decide), if_pos rfl, total]
  cases values.filterMap id with
  | nil => rfl
  | cons n ns =>
    have numbers : ((n :: ns).map fun n : ℕ => (.number n : Datum α)).mapM numberOf =
        some ((n :: ns).map fun n : ℕ => (n : ℚ)) := by
      rw [List.mapM_map]
      exact mapM_some _ _ _ fun _ _ => rfl
    have whole : ((n :: ns).map fun n : ℕ => (n : ℚ)).sum = ((n :: ns).sum : ℕ) :=
      (Nat.cast_list_sum (n :: ns)).symm
    change Option.map _ (((n :: ns).map fun n : ℕ => (.number n : Datum α)).mapM numberOf) = _
    rw [numbers, Option.map_some, whole]
    rfl

variable (params) in
/-- A sum of an expression that is a natural number, or `NULL`, on every row. -/
theorem group_sum {group : List R} {e : Expr} {g : R → Option ℕ}
    (h : ∀ r ∈ group, evalRow session (tableOf columns rows).types params (rowOf columns r) e =
      some (natural (g r))) :
    evalGroup session (tableOf columns rows).types params (group.map (rowOf columns))
      (.apply sum e) = some (natural (total (group.map g))) := by
  have values : ((group.map (rowOf columns)).mapM fun row =>
      evalRow session (tableOf columns rows).types params row e) =
        some ((group.map g).map (natural (α := α))) := by
    rw [List.mapM_map, List.map_map]
    exact mapM_some _ _ group h
  rw [evalGroup_apply session (by decide) values, aggregateOf_sum]

theorem strict_add (type : SqlType) (x y : Option ℕ) :
    strict .add type (natural x) (natural (α := α) y) =
      some (natural (Option.map₂ (· + ·) x y)) := by
  cases x with
  | none => rfl
  | some x =>
    cases y with
    | none => rfl
    | some y => simp only [natural, Option.map_some, strict, operate, Option.map₂, Nat.cast_add,
        Option.bind_some]

end Columns

end Evaluation

/-- The first of the rows kept is the same in every order where they are all alike. -/
theorem heads_eq_iff {A B : Type} (p : A → Bool) (f : A → B) (l : List A) (v : B) :
    (∀ order : List A, order.Perm l → ((order.filter p).map f).head? = some v) ↔
      (∃ a ∈ l, p a = true) ∧ ∀ a ∈ l, p a = true → f a = v := by
  constructor
  · intro first
    refine ⟨?_, ?_⟩
    · have given := first l (List.Perm.refl l)
      obtain ⟨a, ha⟩ := List.exists_mem_of_ne_nil (l.filter p) (by
        intro none
        rw [none] at given
        cases given)
      exact ⟨a, (List.mem_filter.mp ha).1, (List.mem_filter.mp ha).2⟩
    · intro a ha kept
      obtain ⟨before, after, rfl⟩ := List.append_of_mem ha
      have front := first (a :: (before ++ after)) List.perm_middle.symm
      rw [List.filter_cons_of_pos kept, List.map_cons, List.head?_cons] at front
      exact Option.some.inj front
  · rintro ⟨⟨a, ha, kept⟩, alike⟩ order perm
    have present : a ∈ order.filter p := List.mem_filter.mpr ⟨perm.mem_iff.mpr ha, kept⟩
    cases h : order.filter p with
    | nil =>
      rw [h] at present
      cases present
    | cons b rest =>
      have first : b ∈ order.filter p := by
        rw [h]
        exact List.mem_cons_self
      obtain ⟨hb, kept_b⟩ := List.mem_filter.mp first
      rw [List.map_cons, List.head?_cons, alike b (perm.mem_iff.mp hb) kept_b]

end LibZbxPgsql.SqlEvaluation
