import LibZbxPgsql.IndexKeys
import LibZbxPgsql.SqlJoins
import LibZbxPgsql.TableKeys

set_option autoImplicit false

namespace LibZbxPgsql.SystemCatalogs
open CStrings TableKeys IndexKeys SqlTokens SqlQueries SqlEvaluation SqlJoins

structure Namespace where
  oid : ℕ
  nspname : Name
  deriving DecidableEq

/-- A row of `pg_class`. A name is not empty, and no longer than a name can be. -/
structure Relation where
  oid : ℕ
  relname : Name
  relnamespace : ℕ
  reltype : ℕ
  relowner : ℕ
  relam : ℕ
  relkind : Char
  relpages : ℤ
  reltuples : ℚ
  named : relname ≠ []
  fits : nameIn 63 relname = relname
  deriving DecidableEq

structure IndexEntry where
  indexrelid : ℕ
  indrelid : ℕ
  deriving DecidableEq

/-- Of the types, the roles and the access methods, the oids. -/
structure Catalog where
  pg_namespace : List Namespace
  pg_class : List Relation
  pg_type : List ℕ
  pg_index : List IndexEntry
  pg_roles : List ℕ
  pg_am : List ℕ
  unique : (pg_class.map fun c => (c.relnamespace, c.relname)).Nodup

/-- Of a schema that is neither a catalog's nor that of oversized values. -/
def userSchema (schema : Name) : Bool :=
  schema ≠ "pg_catalog".toList && (schema ≠ "information_schema".toList &&
    !"pg_toast".toList.isPrefixOf schema)

def userConditions (c : Name) : List Expr :=
  [.binary .ne (.column c) (.text "pg_catalog".toList),
   .binary .ne (.column c) (.text "information_schema".toList),
   .binary .notMatch (.column c) (.text "^pg_toast".toList)]

section Schemas
variable {α : Type} [DecidableEq α] (session : Session α) {R : Type} (columns : Columns α R)
  {c : Name} {g : R → Name}

theorem user_decides (hc : columns.lookup c = some (.name, fun r => some (.text (g r))))
    (rows : List R) (params : List CStr) (r : R) :
    Decides session (tableOf columns rows).types params (rowOf columns r)
        (.binary .ne (.column c) (.text "pg_catalog".toList))
        (decide (g r ≠ "pg_catalog".toList)) ∧
      Decides session (tableOf columns rows).types params (rowOf columns r)
        (.binary .ne (.column c) (.text "information_schema".toList))
        (decide (g r ≠ "information_schema".toList)) ∧
      Decides session (tableOf columns rows).types params (rowOf columns r)
        (.binary .notMatch (.column c) (.text "^pg_toast".toList))
        (!"pg_toast".toList.isPrefixOf (g r)) :=
  ⟨decides_ne session hc (by decide), decides_ne session hc (by decide),
    decides_notMatch session hc (by decide) (by decide)⟩

theorem user_keeps (hc : columns.lookup c = some (.name, fun r => some (.text (g r))))
    (rows : List R) (params : List CStr) (r : R) :
    keeps session (tableOf columns rows).types params (userConditions c) (rowOf columns r) =
      some (userSchema (g r)) := by
  obtain ⟨catalog, information, toast⟩ := user_decides session columns hc rows params r
  have three := keeps_of_decides session catalog
    (keeps_of_decides session information (keeps_of_decides session toast (keeps_nil session)))
  rw [Bool.and_true] at three
  exact three

end Schemas

structure TableJoin where
  c : Relation
  n : Namespace
  t : ℕ

structure IndexJoin where
  i : IndexEntry
  ic : Relation
  n : Namespace
  a : ℕ
  t : Relation
  m : ℕ

namespace Catalog
variable (cat : Catalog)

def tableJoins : List TableJoin :=
  cat.pg_class.flatMap fun c => cat.pg_namespace.flatMap fun n =>
    cat.pg_type.map fun t => ⟨c, n, t⟩

def indexJoins : List IndexJoin :=
  cat.pg_index.flatMap fun i => cat.pg_class.flatMap fun ic => cat.pg_namespace.flatMap fun n =>
    cat.pg_roles.flatMap fun a => cat.pg_class.flatMap fun t => cat.pg_am.map fun m =>
      ⟨i, ic, n, a, t, m⟩

end Catalog

def tableEmitted (j : TableJoin) : Bool :=
  j.c.relnamespace = j.n.oid && (j.c.reltype = j.t && (j.c.relkind = 'r' &&
    userSchema j.n.nspname))

def indexEmitted (j : IndexJoin) : Bool :=
  j.ic.oid = j.i.indexrelid && (j.n.oid = j.ic.relnamespace && (j.a = j.ic.relowner &&
    (j.t.oid = j.i.indrelid && (j.m = j.ic.relam && userSchema j.n.nspname))))

inductive ObjectKind where
  | table
  | index
  deriving DecidableEq

namespace ObjectKind

/-- The relations that the discovery of the kind emits. -/
def discovered (cat : Catalog) : ObjectKind → List Relation
  | .table => (cat.tableJoins.filter tableEmitted).map TableJoin.c
  | .index => (cat.indexJoins.filter indexEmitted).map IndexJoin.ic

def discoverText : ObjectKind → CStr
  | .table => PGSQL_DISCOVER_TABLES
  | .index => PGSQL_DISCOVER_INDEXES

def output : ObjectKind → Name
  | .table => "table".toList
  | .index => "index".toList

def tables : ObjectKind → List (Name × Name)
  | .table => [("pg_class".toList, "c".toList), ("pg_namespace".toList, "n".toList),
      ("pg_type".toList, "t".toList)]
  | .index => [("pg_index".toList, "i".toList), ("pg_class".toList, "ic".toList),
      ("pg_namespace".toList, "n".toList), ("pg_roles".toList, "a".toList),
      ("pg_class".toList, "t".toList), ("pg_am".toList, "m".toList)]

end ObjectKind

section Columns
variable {α : Type}

def tableColumns : Columns α TableJoin :=
  [("c.relname".toList, .name, fun j => some (.text j.c.relname)),
   ("c.relkind".toList, .name, fun j => some (.text [j.c.relkind])),
   ("c.relnamespace".toList, .oid, fun j => some (.number j.c.relnamespace)),
   ("c.reltype".toList, .oid, fun j => some (.number j.c.reltype)),
   ("n.oid".toList, .oid, fun j => some (.number j.n.oid)),
   ("n.nspname".toList, .name, fun j => some (.text j.n.nspname)),
   ("t.oid".toList, .oid, fun j => some (.number j.t))]

def indexColumns : Columns α IndexJoin :=
  [("i.indexrelid".toList, .oid, fun j => some (.number j.i.indexrelid)),
   ("i.indrelid".toList, .oid, fun j => some (.number j.i.indrelid)),
   ("ic.oid".toList, .oid, fun j => some (.number j.ic.oid)),
   ("ic.relname".toList, .name, fun j => some (.text j.ic.relname)),
   ("ic.relnamespace".toList, .oid, fun j => some (.number j.ic.relnamespace)),
   ("ic.relowner".toList, .oid, fun j => some (.number j.ic.relowner)),
   ("ic.relam".toList, .oid, fun j => some (.number j.ic.relam)),
   ("n.oid".toList, .oid, fun j => some (.number j.n.oid)),
   ("n.nspname".toList, .name, fun j => some (.text j.n.nspname)),
   ("a.oid".toList, .oid, fun j => some (.number j.a)),
   ("t.oid".toList, .oid, fun j => some (.number j.t.oid)),
   ("m.oid".toList, .oid, fun j => some (.number j.m))]

/-- The joined table of a discovery. -/
def ObjectKind.joins (cat : Catalog) : ObjectKind → Table α
  | .table => tableOf tableColumns cat.tableJoins
  | .index => tableOf indexColumns cat.indexJoins

end Columns

def equalColumns (c d : String) : Expr := .binary .eq (.column c.toList) (.column d.toList)

namespace ObjectKind

def outputs : ObjectKind → List (Name × Name)
  | .table => [("oid".toList, "c.oid".toList), ("schema".toList, "n.nspname".toList),
      ("table".toList, "c.relname".toList), ("type".toList, "t.typname".toList)]
  | .index => [("oid".toList, "ic.oid".toList), ("index".toList, "ic.relname".toList),
      ("schema".toList, "n.nspname".toList), ("table".toList, "t.relname".toList),
      ("owner".toList, "a.rolname".toList), ("access".toList, "m.amname".toList)]

def conditions : ObjectKind → List Expr
  | .table => equalColumns "c.relnamespace" "n.oid" :: equalColumns "c.reltype" "t.oid" ::
      .binary .eq (.column "c.relkind".toList) (.text ['r']) ::
      userConditions "n.nspname".toList
  | .index => equalColumns "ic.oid" "i.indexrelid" :: equalColumns "n.oid" "ic.relnamespace" ::
      equalColumns "a.oid" "ic.relowner" :: equalColumns "t.oid" "i.indrelid" ::
      equalColumns "m.oid" "ic.relam" :: userConditions "n.nspname".toList

end ObjectKind

theorem parse_discover (kind : ObjectKind) :
    parseJoin kind.discoverText = some ⟨kind.outputs, kind.tables, kind.conditions⟩ := by
  cases kind <;> unfold ObjectKind.discoverText <;> dsimp only
  · unfold PGSQL_DISCOVER_TABLES
    simp only [literal, List.flatMap_cons, List.flatMap_nil]
    repeat rw [String.toList_ofList]
    decide +kernel
  · unfold PGSQL_DISCOVER_INDEXES
    simp only [literal, List.flatMap_cons, List.flatMap_nil]
    repeat rw [String.toList_ofList]
    decide +kernel

section Emitted
variable {α : Type} [DecidableEq α] (session : Session α)

theorem equalColumns_decides {R : Type} (columns : Columns α R) (rows : List R) (r : R)
    {c d : String} {f g : R → ℕ}
    (hc : columns.lookup c.toList = some (.oid, fun r => some (.number (f r))))
    (hd : columns.lookup d.toList = some (.oid, fun r => some (.number (g r)))) :
    Decides session (tableOf columns rows).types [] (rowOf columns r) (equalColumns c d)
      (decide (f r = g r)) :=
  decides_columns session embeds_number hc hd (by decide) (by decide)

variable (cat : Catalog)

theorem table_keeps (j : TableJoin) :
    keeps session (tableOf (tableColumns (α := α)) cat.tableJoins).types []
      ObjectKind.table.conditions (rowOf tableColumns j) = some (tableEmitted j) := by
  have schema := equalColumns_decides session tableColumns cat.tableJoins j
    (c := "c.relnamespace") (d := "n.oid") rfl rfl
  have row_type := equalColumns_decides session tableColumns cat.tableJoins j
    (c := "c.reltype") (d := "t.oid") rfl rfl
  have kind : Decides session (tableOf (tableColumns (α := α)) cat.tableJoins).types []
      (rowOf tableColumns j) (.binary .eq (.column "c.relkind".toList) (.text ['r']))
      (decide ([j.c.relkind] = ['r'])) :=
    decides_literal session (g := fun j : TableJoin => [j.c.relkind]) (s := ['r']) rfl (by decide)
  have user := user_keeps session tableColumns (c := "n.nspname".toList) rfl cat.tableJoins []
    j
  have all := keeps_of_decides session schema (keeps_of_decides session row_type
    (keeps_of_decides session kind user))
  simp only [List.cons.injEq, and_true] at all
  exact all

theorem index_keeps (j : IndexJoin) :
    keeps session (tableOf (indexColumns (α := α)) cat.indexJoins).types []
      ObjectKind.index.conditions (rowOf indexColumns j) = some (indexEmitted j) := by
  have entry := equalColumns_decides session indexColumns cat.indexJoins j
    (c := "ic.oid") (d := "i.indexrelid") rfl rfl
  have schema := equalColumns_decides session indexColumns cat.indexJoins j
    (c := "n.oid") (d := "ic.relnamespace") rfl rfl
  have owner := equalColumns_decides session indexColumns cat.indexJoins j
    (c := "a.oid") (d := "ic.relowner") rfl rfl
  have table := equalColumns_decides session indexColumns cat.indexJoins j
    (c := "t.oid") (d := "i.indrelid") rfl rfl
  have access := equalColumns_decides session indexColumns cat.indexJoins j
    (c := "m.oid") (d := "ic.relam") rfl rfl
  have user := user_keeps session indexColumns (c := "n.nspname".toList) rfl cat.indexJoins []
    j
  exact keeps_of_decides session entry (keeps_of_decides session schema
    (keeps_of_decides session owner (keeps_of_decides session table
      (keeps_of_decides session access user))))

/-- The discovery returns the names of the relations it emits. -/
theorem discovery_returns (kind : ObjectKind) :
    runJoin session (kind.joins cat) [] kind.output ⟨kind.outputs, kind.tables, kind.conditions⟩ =
      some ((kind.discovered cat).map fun c => some (.text c.relname)) := by
  cases kind with
  | table =>
    have emitted : runJoin session (tableOf tableColumns cat.tableJoins) [] ObjectKind.table.output
        ⟨ObjectKind.table.outputs, ObjectKind.table.tables, ObjectKind.table.conditions⟩ =
          some ((cat.tableJoins.filter tableEmitted).map fun j => some (.text j.c.relname)) :=
      runJoin_rows session rfl rfl fun j _ => table_keeps session cat j
    rw [ObjectKind.discovered, List.map_map]
    exact emitted
  | index =>
    have emitted : runJoin session (tableOf indexColumns cat.indexJoins) [] ObjectKind.index.output
        ⟨ObjectKind.index.outputs, ObjectKind.index.tables, ObjectKind.index.conditions⟩ =
          some ((cat.indexJoins.filter indexEmitted).map fun j => some (.text j.ic.relname)) :=
      runJoin_rows session rfl rfl fun j _ => index_keeps session cat j
    rw [ObjectKind.discovered, List.map_map]
    exact emitted

end Emitted

end LibZbxPgsql.SystemCatalogs
