import LibZbxPgsql.DiscoveredTotals
import LibZbxPgsql.OidFilters

set_option autoImplicit false

namespace LibZbxPgsql.InheritedTotals
open StateFaultWp CStrings AgentModel Connections Drivers Discovery TableKeys ItemKeys
open HandlerPlans KeyPlans HandleDiscipline DriverDialogues WorldView Sessions Conclusions
open QueryBinding
open SqlTokens SqlQueries SqlEvaluation SqlJoins SystemCatalogs DiscoveredNumbers
open DiscoveredTotals

/-- The tokens of a query whose casts to `regclass` have been made: what was the text of a
    name is the text of the relation's oid. -/
def regclassed : List Token → List Token
  | .symbol [':', ':'] :: .word type :: ts =>
    if type = "regclass".toList then regclassed ts
    else .symbol [':', ':'] :: .word type :: regclassed ts
  | t :: ts => t :: regclassed ts
  | [] => []

/-- How the session reads a name as a relation: by its search path. Where there is none of
    that name, the query fails. -/
abbrev Regclass := CStr → Option UInt32

def oidText (oid : UInt32) : CStr := Nat.toDigits 10 oid.toNat

theorem input_oidText {α : Type} (session : Session α) (oid : UInt32) :
    input session .oid (oidText oid) = some (.number oid.toNat) := by
  have digits : isNumeral (oidText oid) = true := by
    rw [OidFilters.isNumeral_iff]
    exact ⟨Nat.toDigits_ne_nil, fun c hc =>
      Nat.isDigit_of_mem_toDigits (b := 10) (by decide) (by decide) hc⟩
  have value : SqlQueries.digitsValue (oidText oid) = oid.toNat := Nat.ofDigitChars_ten_toDigits
  rw [input, if_pos ⟨digits, by rw [value]; exact oid.toNat_lt⟩, value]

def pg_inherits : Name × Name := ("pg_inherits".toList, "i".toList)

def childTables : List (Name × Name) := [pg_inherits, (pg_class, "c".toList)]

def ofParent : Expr := .binary .eq (.column "i.inhparent".toList) (.param 1)

def parseChildren (text : CStr) : Option JoinQuery :=
  (tokens text).bind fun ts => joinQuery (regclassed ts)

def parseChildTotal (text : CStr) : Option TotalQuery :=
  (tokens text).bind fun ts => totalQuery (regclassed ts)

set_option maxRecDepth 8000 in
theorem parse_children :
    parseChildren PGSQL_DISCOVER_TABLE_CHILDREN =
      some ⟨[("oid".toList, "c.oid".toList), ("table".toList, "c.relname".toList),
          ("schema".toList, "n.nspname".toList)],
        childTables ++ [("pg_namespace".toList, "n".toList)],
        [equalColumns "i.inhrelid" "c.oid", equalColumns "c.relnamespace" "n.oid",
          ofParent]⟩ := by
  unfold PGSQL_DISCOVER_TABLE_CHILDREN
  simp only [literal, List.flatMap_cons, List.flatMap_nil]
  repeat rw [String.toList_ofList]
  decide +kernel

set_option maxRecDepth 8000 in
theorem parse_count :
    parseChildTotal PGSQL_GET_TABLE_CHILD_COUNT =
      some ⟨.apply count (.column "i.inhrelid".toList), [pg_inherits], [ofParent]⟩ := by
  unfold PGSQL_GET_TABLE_CHILD_COUNT
  simp only [literal, List.flatMap_cons, List.flatMap_nil]
  repeat rw [String.toList_ofList]
  decide +kernel

set_option maxRecDepth 8000 in
theorem parse_size :
    parseChildTotal PGSQL_GET_CHILDREN_SIZE =
      some ⟨.binary .mul (.apply sum (.cast (.column "c.relpages".toList) .integer)) (.int 8192),
        childTables, [equalColumns "inhrelid" "c.oid", ofParent]⟩ := by
  unfold PGSQL_GET_CHILDREN_SIZE
  simp only [literal, List.flatMap_cons, List.flatMap_nil]
  repeat rw [String.toList_ofList]
  decide +kernel

set_option maxRecDepth 8000 in
theorem parse_rows :
    parseChildTotal PGSQL_GET_CHILDREN_ROWS =
      some ⟨.apply sum (.cast (.column "c.reltuples".toList) .integer), childTables,
        [equalColumns "inhrelid" "c.oid", ofParent]⟩ := by
  unfold PGSQL_GET_CHILDREN_ROWS
  simp only [literal, List.flatMap_cons, List.flatMap_nil]
  repeat rw [String.toList_ofList]
  decide +kernel

structure Inherit where
  inhrelid : ℕ
  inhparent : ℕ
  deriving DecidableEq

/-- The inheritances of a catalog: every child is one of its relations. -/
structure Inheritances (cat : Catalog) where
  pg_inherits : List Inherit
  child : ∀ i ∈ pg_inherits, ∃ c ∈ cat.pg_class, i.inhrelid = c.oid

structure HeirJoin where
  i : Inherit
  c : Relation

structure ChildJoin where
  i : Inherit
  c : Relation
  n : Namespace

section Children
variable {cat : Catalog} (inh : Inheritances cat)

def Inheritances.heirJoins : List HeirJoin :=
  inh.pg_inherits.flatMap fun i => cat.pg_class.map fun c => ⟨i, c⟩

def Inheritances.childJoins : List ChildJoin :=
  inh.pg_inherits.flatMap fun i => cat.pg_class.flatMap fun c =>
    cat.pg_namespace.map fun n => ⟨i, c, n⟩

/-- The relations that inherit from the one of this oid, as often as they do. -/
def Inheritances.children (parent : ℕ) : List Relation :=
  inh.pg_inherits.flatMap fun i =>
    cat.pg_class.filter fun c => i.inhrelid = c.oid && i.inhparent = parent

def heirOf (parent : ℕ) (j : HeirJoin) : Bool :=
  j.i.inhrelid = j.c.oid && j.i.inhparent = parent

def childOf (parent : ℕ) (j : ChildJoin) : Bool :=
  j.i.inhrelid = j.c.oid && (j.c.relnamespace = j.n.oid && j.i.inhparent = parent)

theorem heirs_children (parent : ℕ) :
    (inh.heirJoins.filter (heirOf parent)).map HeirJoin.c = inh.children parent := by
  rw [Inheritances.heirJoins, Inheritances.children, List.filter_flatMap, List.map_flatMap]
  refine List.flatMap_congr fun i _ => ?_
  rw [rows_flatMap, ← flatMap_filter]
  rfl

theorem joins_children (sound : Sound cat) (parent : ℕ) :
    (inh.childJoins.filter (childOf parent)).map ChildJoin.c = inh.children parent := by
  rw [Inheritances.childJoins, Inheritances.children, List.filter_flatMap, List.map_flatMap]
  refine List.flatMap_congr fun i _ => ?_
  rw [List.filter_flatMap, List.map_flatMap, ← flatMap_filter]
  refine List.flatMap_congr fun c hc => ?_
  obtain ⟨n, hn, same⟩ := sound.schema c hc
  rw [rows_flatMap, flatMap_unique sound.namespaces hn]
  · simp [childOf, same]
  · intro n' _ other
    simp [childOf, same ▸ Ne.symm other]

/-- Every row of the parent is one child. -/
theorem children_length (sound : Sound cat) (parent : ℕ) :
    (inh.children parent).length =
      (inh.pg_inherits.filter fun i => i.inhparent = parent).length := by
  rw [Inheritances.children, ← flatMap_filter, List.length_flatMap, List.length_flatMap]
  congr 1
  refine List.map_congr_left fun i hi => ?_
  obtain ⟨c, hc, own⟩ := inh.child i hi
  rw [← flatMap_filter, flatMap_unique sound.relations hc]
  · by_cases h : i.inhparent = parent
    · simp [own, h]
    · simp [h]
  · intro c' _ other
    simp [own ▸ Ne.symm other]

end Children

section Columns
variable {α : Type}

def inheritColumns : Columns α Inherit :=
  [("i.inhrelid".toList, .oid, fun i => some (.number i.inhrelid)),
   ("i.inhparent".toList, .oid, fun i => some (.number i.inhparent))]

def heirColumns : Columns α HeirJoin :=
  [("inhrelid".toList, .oid, fun j => some (.number j.i.inhrelid)),
   ("i.inhparent".toList, .oid, fun j => some (.number j.i.inhparent)),
   ("c.oid".toList, .oid, fun j => some (.number j.c.oid)),
   ("c.relpages".toList, .integer, fun j => some (.number j.c.relpages)),
   ("c.reltuples".toList, .float, fun j => some (.number j.c.reltuples))]

def childColumns : Columns α ChildJoin :=
  [("i.inhrelid".toList, .oid, fun j => some (.number j.i.inhrelid)),
   ("i.inhparent".toList, .oid, fun j => some (.number j.i.inhparent)),
   ("c.oid".toList, .oid, fun j => some (.number j.c.oid)),
   ("c.relname".toList, .name, fun j => some (.text j.c.relname)),
   ("c.relnamespace".toList, .oid, fun j => some (.number j.c.relnamespace)),
   ("n.oid".toList, .oid, fun j => some (.number j.n.oid)),
   ("n.nspname".toList, .name, fun j => some (.text j.n.nspname))]

end Columns

section Evaluation
variable {α : Type} [DecidableEq α] (session : Session α) (regclass : Regclass) {cat : Catalog}
  (inh : Inheritances cat)

def discoverChildren (name : CStr) (output : Name) : Option (List (SqlEvaluation.Value α)) :=
  (parseChildren PGSQL_DISCOVER_TABLE_CHILDREN).bind fun q =>
  (regclass name).bind fun parent =>
    if q.tables = childTables ++ [("pg_namespace".toList, "n".toList)] then
      runJoin session (tableOf childColumns inh.childJoins) [oidText parent] output q
    else none

def childNumber (text name : CStr) : SqlEvaluation.Outcome α :=
  (parseChildTotal text).bind fun q =>
  (regclass name).bind fun parent =>
    if q.tables = [pg_inherits] then
      runTotal session (tableOf inheritColumns inh.pg_inherits) [oidText parent] q
    else if q.tables = childTables then
      runTotal session (tableOf heirColumns inh.heirJoins) [oidText parent] q
    else none

section Rules
variable {R : Type} (columns : Columns α R) (rows : List R) (r : R) (parent : UInt32)

theorem ofParent_decides {f : R → ℕ}
    (hc : columns.lookup "i.inhparent".toList = some (.oid, fun r => some (.number (f r)))) :
    Decides session (tableOf columns rows).types [oidText parent] (rowOf columns r) ofParent
      (decide (f r = parent.toNat)) := by
  have compared : Decides session (tableOf columns rows).types [oidText parent]
      (rowOf columns r) ofParent (decide (some (f r) = some parent.toNat)) :=
    decides_param session embeds_number (g := fun r => some (f r)) hc (by decide) rfl
      (input_oidText session parent)
  simp only [Option.some.injEq] at compared
  exact compared

theorem sameOid_decides {c d : String} {f g : R → ℕ}
    (hc : columns.lookup c.toList = some (.oid, fun r => some (.number (f r))))
    (hd : columns.lookup d.toList = some (.oid, fun r => some (.number (g r)))) :
    Decides session (tableOf columns rows).types [oidText parent] (rowOf columns r)
      (equalColumns c d) (decide (f r = g r)) :=
  decides_columns session embeds_number hc hd (by decide) (by decide)

end Rules

theorem inherit_keeps (parent : UInt32) (i : Inherit) :
    keeps session (tableOf (inheritColumns (α := α)) inh.pg_inherits).types [oidText parent]
      [ofParent] (rowOf inheritColumns i) = some (decide (i.inhparent = parent.toNat)) := by
  have only := keeps_of_decides session (ofParent_decides session inheritColumns inh.pg_inherits
    i parent (f := Inherit.inhparent) rfl) (keeps_nil session)
  rw [Bool.and_true] at only
  exact only

theorem heir_keeps (parent : UInt32) (j : HeirJoin) :
    keeps session (tableOf (heirColumns (α := α)) inh.heirJoins).types [oidText parent]
      [equalColumns "inhrelid" "c.oid", ofParent] (rowOf heirColumns j) =
        some (heirOf parent.toNat j) := by
  have own := sameOid_decides session heirColumns inh.heirJoins j parent
    (c := "inhrelid") (d := "c.oid") rfl rfl
  have asked := ofParent_decides session heirColumns inh.heirJoins j parent
    (f := fun j : HeirJoin => j.i.inhparent) rfl
  have both := keeps_of_decides session own (keeps_of_decides session asked (keeps_nil session))
  rw [Bool.and_true] at both
  exact both

theorem child_keeps (parent : UInt32) (j : ChildJoin) :
    keeps session (tableOf (childColumns (α := α)) inh.childJoins).types [oidText parent]
      [equalColumns "i.inhrelid" "c.oid", equalColumns "c.relnamespace" "n.oid", ofParent]
      (rowOf childColumns j) = some (childOf parent.toNat j) := by
  have own := sameOid_decides session childColumns inh.childJoins j parent
    (c := "i.inhrelid") (d := "c.oid") rfl rfl
  have schema := sameOid_decides session childColumns inh.childJoins j parent
    (c := "c.relnamespace") (d := "n.oid") rfl rfl
  have asked := ofParent_decides session childColumns inh.childJoins j parent
    (f := fun j : ChildJoin => j.i.inhparent) rfl
  have all := keeps_of_decides session own (keeps_of_decides session schema
    (keeps_of_decides session asked (keeps_nil session)))
  rw [Bool.and_true] at all
  exact all

variable {regclass inh} (sound : Sound cat) {name : CStr} {parent : UInt32}
  (found : regclass name = some parent)
include sound found

theorem discovers {output column : Name} {t : SqlType} {f : Relation → SqlEvaluation.Value α}
    (named : [("oid".toList, "c.oid".toList), ("table".toList, "c.relname".toList),
      ("schema".toList, "n.nspname".toList)].lookup output = some column)
    (hc : childColumns.lookup column = some (t, fun j => f j.c)) :
    discoverChildren session regclass inh name output =
      some ((inh.children parent.toNat).map f) := by
  have emitted : runJoin session (tableOf childColumns inh.childJoins) [oidText parent] output
      ⟨_, childTables ++ [("pg_namespace".toList, "n".toList)], _⟩ = _ :=
    runJoin_rows session named hc fun j _ => child_keeps session inh parent j
  rw [discoverChildren, parse_children, Option.bind_some, found, Option.bind_some, if_pos rfl,
    ← joins_children inh sound, List.map_map]
  exact emitted

theorem counts :
    childNumber session regclass inh PGSQL_GET_TABLE_CHILD_COUNT name =
      some (some (.number (inh.children parent.toNat).length)) := by
  rw [childNumber, parse_count, Option.bind_some, found, Option.bind_some, if_pos rfl,
    runTotal_group session fun i _ => inherit_keeps session inh parent i]
  have counted : ∀ group : List Inherit, evalGroup session
      (tableOf (inheritColumns (α := α)) inh.pg_inherits).types [oidText parent]
      (group.map (rowOf inheritColumns)) (.apply count (.column "i.inhrelid".toList)) = _ :=
    group_count session inh.pg_inherits [oidText parent]
      (f := fun i => some (.number i.inhrelid)) rfl
  rw [counted, children_length inh sound]
  simp

omit sound found in
theorem adds_up (parent : UInt32) {g : Relation → ℚ} {e : Expr}
    (values : ∀ j ∈ inh.heirJoins.filter (heirOf parent.toNat),
      evalRow session (tableOf (heirColumns (α := α)) inh.heirJoins).types [oidText parent]
        (rowOf heirColumns j) e = some (some (.number (g j.c)))) :
    evalGroup session (tableOf (heirColumns (α := α)) inh.heirJoins).types [oidText parent]
      ((inh.heirJoins.filter (heirOf parent.toNat)).map (rowOf heirColumns)) (.apply sum e) =
        some (addUp ((inh.children parent.toNat).map g)) := by
  rw [group_addUp session values, ← heirs_children inh, List.map_map]
  rfl

omit sound in
theorem sizes :
    childNumber session regclass inh PGSQL_GET_CHILDREN_SIZE name =
      some (addUp ((inh.children parent.toNat).map bytes)) := by
  rw [childNumber, parse_size, Option.bind_some, found, Option.bind_some, if_neg (by decide),
    if_pos rfl, runTotal_group session fun j _ => heir_keeps session inh parent j]
  have summed := adds_up session parent (g := fun c => (c.relpages : ℚ)) fun j _ =>
    pages_value session inh.heirJoins [oidText parent] (c := "c.relpages".toList)
      (f := fun j : HeirJoin => j.c.relpages) rfl j
  have scaled : ((inh.children parent.toNat).map fun c => (c.relpages : ℚ)).map
      (fun q => q * 8192) = (inh.children parent.toNat).map bytes := by
    rw [List.map_map]
    rfl
  rw [← scaled, ← addUp_scaled]
  exact eval_binary session .mul rfl rfl (by decide) (by decide) summed rfl

omit sound in
theorem row_totals (whole : ∀ c ∈ inh.children parent.toNat, c.reltuples.den = 1) :
    childNumber session regclass inh PGSQL_GET_CHILDREN_ROWS name =
      some (addUp ((inh.children parent.toNat).map Relation.reltuples)) := by
  rw [childNumber, parse_rows, Option.bind_some, found, Option.bind_some, if_neg (by decide),
    if_pos rfl, runTotal_group session fun j _ => heir_keeps session inh parent j]
  refine adds_up session parent fun j hj => ?_
  have child : j.c ∈ inh.children parent.toNat := by
    rw [← heirs_children inh]
    exact List.mem_map_of_mem hj
  have tuples : evalRow session (tableOf (heirColumns (α := α)) inh.heirJoins).types
      [oidText parent] (rowOf heirColumns j) (.column "c.reltuples".toList) =
        some (some (.number j.c.reltuples)) :=
    evalRow_column session inh.heirJoins j [oidText parent] (t := .float)
      (f := fun j => some (.number j.c.reltuples)) rfl
  refine (eval_cast session .integer tuples).trans ?_
  simp [castTo, whole j.c child]

end Evaluation

section Main
variable {α : Type} [DecidableEq α]

def AsksForChildren : Prop :=
  ∀ (S : Server) (g : Globals) (request : AGENT_REQUEST) (name : CStr), name ≠ [] →
    get_rparam request PARAM_FIRST = some name →
    (∀ server : S.State, ¬ Refused S server request →
      commands (lastState (call g request .PG_TABLE_CHILDREN_DISCOVERY
        (World.start server))).trace = [(PGSQL_DISCOVER_TABLE_CHILDREN, [name])]) ∧
    RunsQuery S g request .PG_TABLE_CHILDREN .AR_UINT64 (PGSQL_GET_TABLE_CHILD_COUNT, [name]) ∧
    RunsQuery S g request .PG_TABLE_CHILDREN_SIZE .AR_UINT64 (PGSQL_GET_CHILDREN_SIZE, [name]) ∧
    RunsQuery S g request .PG_TABLE_CHILDREN_ROWS .AR_UINT64 (PGSQL_GET_CHILDREN_ROWS, [name])

theorem asksForChildren : AsksForChildren := by
  intro S g request name given asked
  obtain ⟨c, n, rfl⟩ := List.exists_cons_of_ne_nil given
  have by_name : ∀ query : CStr, (requireNamePlan request tableNameMissing
      (boundScalar .AR_UINT64 query)).dialogue request =
        resultAsk request .AR_UINT64 query [c :: n] := by
    intro query
    simp only [requireNamePlan, asked]
    rfl
  refine ⟨fun server reached => ?_, runsQuery_of_asks (by_name _), runsQuery_of_asks (by_name _),
    runsQuery_of_asks (by_name _)⟩
  have asks : (plan g request .PG_TABLE_CHILDREN_DISCOVERY).dialogue request =
      discoveryAsk request PGSQL_DISCOVER_TABLE_CHILDREN [c :: n] := by
    change (requireNamePlan request _ _).dialogue request = _
    simp only [requireNamePlan, asked]
    rfl
  rw [call_sent, played, asks]
  exact discovery_sent reached

/-- Asked with one parent, the keys agree. The discovery emits its children, the count is how
    many rows that are, and the size and the rows are the sums over them. Where no relation
    of a child's name has other numbers, the size is the sum of what `pg.table.size` returns
    for the names discovered. -/
theorem children_agree {cat : Catalog} (sound : Sound cat) (inh : Inheritances cat)
    (session : Session α) (regclass : Regclass) {name : CStr} {parent : UInt32}
    (found : regclass name = some parent) :
    AsksForChildren ∧
      discoverChildren session regclass inh name "oid".toList =
        some ((inh.children parent.toNat).map fun c => some (.number c.oid)) ∧
      discoverChildren session regclass inh name "table".toList =
        some ((inh.children parent.toNat).map fun c => some (.text c.relname)) ∧
      childNumber session regclass inh PGSQL_GET_TABLE_CHILD_COUNT name =
        some (some (.number (inh.children parent.toNat).length)) ∧
      childNumber session regclass inh PGSQL_GET_CHILDREN_SIZE name =
        some (addUp ((inh.children parent.toNat).map bytes)) ∧
      ((∀ c ∈ inh.children parent.toNat, c.reltuples.den = 1) →
        childNumber session regclass inh PGSQL_GET_CHILDREN_ROWS name =
          some (addUp ((inh.children parent.toNat).map Relation.reltuples))) ∧
      ∀ c ∈ inh.children parent.toNat, SharesNumbers .table cat c →
        ∀ order : List Relation, order.Perm cat.pg_class →
          firstValue session pg_class (classTable order) (sizeText .table, [c.relname]) =
            some (some (.number (bytes c))) :=
  ⟨asksForChildren, discovers session sound found rfl rfl, discovers session sound found rfl rfl,
    counts session sound found, sizes session found, row_totals session found,
    fun c _ shared order perm => ((ownNumbers_iff session .table cat c).mpr shared order perm).1⟩

end Main

def partitioned : Catalog where
  pg_namespace := [⟨2200, "public".toList⟩, ⟨16384, "archive".toList⟩]
  pg_class := [relation 16390 2200 "readings" 10 1000 (by decide) (by decide),
    relation 16400 16384 "readings_2023" 500 80000 (by decide) (by decide),
    relation 16410 16384 "readings_2024" 20 3000 (by decide) (by decide)]
  pg_type := [1]
  pg_index := []
  pg_roles := [10]
  pg_am := []
  unique := by decide

theorem partitioned_sound : Sound partitioned where
  namespaces := by decide
  relations := by decide
  types := by decide
  roles := by decide
  methods := by decide
  entries := by decide
  schema := by decide
  rowType := by decide
  owner := by decide
  method := by decide
  entry := by decide

def years : Inheritances partitioned := ⟨[⟨16400, 16390⟩, ⟨16410, 16390⟩], by decide⟩

theorem years_children :
    years.children (16390 : UInt32).toNat =
      [relation 16400 16384 "readings_2023" 500 80000 (by decide) (by decide),
        relation 16410 16384 "readings_2024" 20 3000 (by decide) (by decide)] := by decide

theorem children_agree_partitioned :
    childNumber noAddresses (fun _ => some 16390) years PGSQL_GET_TABLE_CHILD_COUNT
        "public.readings".toList = some (some (.number 2)) ∧
      childNumber noAddresses (fun _ => some 16390) years PGSQL_GET_CHILDREN_SIZE
        "public.readings".toList = some (some (.number (4096000 + 163840))) ∧
      childNumber noAddresses (fun _ => some 16390) years PGSQL_GET_CHILDREN_ROWS
        "public.readings".toList = some (some (.number (80000 + 3000))) ∧
      (∀ order : List Relation, order.Perm partitioned.pg_class →
        firstValue noAddresses pg_class (classTable order)
          (sizeText .table, ["readings_2023".toList]) = some (some (.number 4096000))) ∧
      ∀ order : List Relation, order.Perm partitioned.pg_class →
        firstValue noAddresses pg_class (classTable order)
          (sizeText .table, ["readings_2024".toList]) = some (some (.number 163840)) := by
  have found : (fun _ => some 16390 : Regclass) "public.readings".toList = some 16390 := rfl
  obtain ⟨-, -, -, counted, sizes, tuples, own⟩ := children_agree partitioned_sound years
    noAddresses (fun _ => some 16390) found
  rw [years_children] at counted sizes tuples own
  simp only [List.forall_mem_cons, List.map_cons, List.map_nil, addUp, List.sum_cons,
    List.sum_nil] at sizes tuples own
  obtain ⟨first, second, -⟩ := own
  refine ⟨counted.trans (by simp), sizes.trans ?_, (tuples ?_).trans ?_, ?_, ?_⟩
  · norm_num [bytes, relation]
  · exact ⟨rfl, rfl, List.forall_mem_nil _⟩
  · norm_num [relation]
  · intro order perm
    exact (first (by decide) order perm).trans (by norm_num [bytes, relation])
  · intro order perm
    exact (second (by decide) order perm).trans (by norm_num [bytes, relation])

end LibZbxPgsql.InheritedTotals
