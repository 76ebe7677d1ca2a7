import LibZbxPgsql.DiscoveredNumbers
import Mathlib.Data.Multiset.Bind

set_option autoImplicit false

namespace LibZbxPgsql.DiscoveredTotals
open StateFaultWp CStrings PrintfFormat AgentModel Connections Drivers Discovery
open TableKeys IndexKeys ItemKeys HandlerPlans KeyPlans HandleDiscipline Conclusions Reports
open QueryBinding SqlTokens SqlQueries SqlEvaluation SqlJoins SystemCatalogs RatioQueries
open DiscoveredNumbers

section Keyed
variable {A B C K : Type}

/-- Where the keys are distinct, only the row of the wanted key matters. -/
theorem flatMap_unique {l : List B} {key : B → K} (keys : (l.map key).Nodup) {b : B}
    (hb : b ∈ l) {f : B → List C} (others : ∀ x ∈ l, key x ≠ key b → f x = []) :
    l.flatMap f = f b := by
  induction l with
  | nil => cases hb
  | cons x l ih =>
    obtain ⟨apart, keys⟩ := List.nodup_cons.mp keys
    rw [List.flatMap_cons]
    rcases List.mem_cons.mp hb with rfl | hb
    · have rest : l.flatMap f = [] := by
        rw [List.flatMap_eq_nil_iff]
        intro y hy
        refine others y (List.mem_cons_of_mem _ hy) fun same => ?_
        exact apart (same ▸ List.mem_map_of_mem hy)
      rw [rest, List.append_nil]
    · have first : f x = [] := by
        refine others x List.mem_cons_self fun same => ?_
        exact apart (same ▸ List.mem_map_of_mem hb)
      rw [first, List.nil_append, ih keys hb fun y hy => others y (List.mem_cons_of_mem _ hy)]

theorem flatMap_swap (l : List A) (m : List B) (f : A → B → List C) :
    (l.flatMap fun a => m.flatMap fun b => f a b).Perm
      (m.flatMap fun b => l.flatMap fun a => f a b) := by
  have swap := Multiset.bind_bind (l : Multiset A) (m : Multiset B)
    (f := fun a b => (f a b : Multiset C))
  rw [← Multiset.coe_eq_coe]
  simpa [Multiset.coe_bind] using swap

theorem flatMap_filter (l : List A) (p : A → Bool) :
    (l.flatMap fun a => if p a then [a] else []) = l.filter p := by
  induction l with
  | nil => rfl
  | cons a l ih =>
    rw [List.flatMap_cons, ih, List.filter_cons]
    cases p a <;> rfl

theorem rows_flatMap (l : List A) (row : A → B) (p : B → Bool) (f : B → C) :
    ((l.map row).filter p).map f = l.flatMap fun a => if p (row a) then [f (row a)] else [] := by
  induction l with
  | nil => rfl
  | cons a l ih =>
    rw [List.map_cons, List.filter_cons, List.flatMap_cons, ← ih]
    cases p (row a) <;> rfl

end Keyed

/-- What the server promises of its catalogs: identifiers are unique, and what a row refers
    to is there. -/
structure Sound (cat : Catalog) : Prop where
  namespaces : (cat.pg_namespace.map Namespace.oid).Nodup
  relations : (cat.pg_class.map Relation.oid).Nodup
  types : cat.pg_type.Nodup
  roles : cat.pg_roles.Nodup
  methods : cat.pg_am.Nodup
  entries : (cat.pg_index.map IndexEntry.indexrelid).Nodup
  schema : ∀ c ∈ cat.pg_class, ∃ n ∈ cat.pg_namespace, n.oid = c.relnamespace
  rowType : ∀ c ∈ cat.pg_class, c.relkind = 'r' → c.reltype ∈ cat.pg_type
  owner : ∀ c ∈ cat.pg_class, c.relowner ∈ cat.pg_roles
  method : ∀ c ∈ cat.pg_class, c.relkind = 'i' → c.relam ∈ cat.pg_am
  entry : ∀ c ∈ cat.pg_class, c.relkind = 'i' → ∃ i ∈ cat.pg_index, i.indexrelid = c.oid ∧
    ∃ t ∈ cat.pg_class, t.oid = i.indrelid

def inUserSchema (cat : Catalog) (c : Relation) : Bool :=
  cat.pg_namespace.any fun n => n.oid = c.relnamespace && userSchema n.nspname

section Discovered
variable {cat : Catalog}

theorem inUserSchema_iff (sound : Sound cat) {c : Relation} {n : Namespace}
    (hn : n ∈ cat.pg_namespace) (same : n.oid = c.relnamespace) :
    inUserSchema cat c = userSchema n.nspname := by
  rw [inUserSchema, Bool.eq_iff_iff, List.any_eq_true]
  constructor
  · rintro ⟨n', hn', h⟩
    simp only [Bool.and_eq_true, decide_eq_true_eq] at h
    have equal := List.inj_on_of_nodup_map sound.namespaces hn' hn (h.1.trans same.symm)
    exact equal ▸ h.2
  · intro user
    exact ⟨n, hn, by simp [same, user]⟩

theorem tables_discovered (sound : Sound cat) :
    ObjectKind.discovered cat .table =
      cat.pg_class.filter fun c => c.relkind = 'r' && inUserSchema cat c := by
  have each : ∀ c ∈ cat.pg_class, (cat.pg_namespace.flatMap fun n =>
      cat.pg_type.flatMap fun t => if tableEmitted ⟨c, n, t⟩ then [c] else []) =
        if c.relkind = 'r' && inUserSchema cat c then [c] else [] := by
    intro c hc
    obtain ⟨n, hn, same⟩ := sound.schema c hc
    rw [flatMap_unique sound.namespaces hn, inUserSchema_iff sound hn same]
    · by_cases kind : c.relkind = 'r'
      · have types : (cat.pg_type.map fun t => t).Nodup := by simpa using sound.types
        rw [flatMap_unique types (sound.rowType c hc kind)]
        · simp [tableEmitted, same]
        · intro t ht other
          simp [tableEmitted, Ne.symm other]
      · have none_emitted : (cat.pg_type.flatMap fun t =>
            if tableEmitted ⟨c, n, t⟩ then [c] else []) = [] := by
          rw [List.flatMap_eq_nil_iff]
          intro t ht
          simp [tableEmitted, kind]
        rw [none_emitted]
        simp [kind]
    · intro n' hn' other
      rw [List.flatMap_eq_nil_iff]
      intro t ht
      have apart : ¬ c.relnamespace = n'.oid := fun h => other (h.symm.trans same.symm)
      simp [tableEmitted, apart]
  rw [ObjectKind.discovered, Catalog.tableJoins, List.filter_flatMap, List.map_flatMap,
    ← flatMap_filter]
  refine List.flatMap_congr fun c hc => ?_
  rw [List.filter_flatMap, List.map_flatMap, ← each c hc]
  exact List.flatMap_congr fun n _ => rows_flatMap _ _ _ _

/-- The index as often as it is discovered by this entry. -/
def foundBy (cat : Catalog) (i : IndexEntry) (ic : Relation) : List Relation :=
  cat.pg_namespace.flatMap fun n => cat.pg_roles.flatMap fun a => cat.pg_class.flatMap fun t =>
    cat.pg_am.flatMap fun m => if indexEmitted ⟨i, ic, n, a, t, m⟩ then [ic] else []

theorem indexes_found (cat : Catalog) :
    ObjectKind.discovered cat .index =
      cat.pg_index.flatMap fun i => cat.pg_class.flatMap fun ic => foundBy cat i ic := by
  rw [ObjectKind.discovered, Catalog.indexJoins, List.filter_flatMap, List.map_flatMap]
  refine List.flatMap_congr fun i _ => ?_
  rw [List.filter_flatMap, List.map_flatMap]
  refine List.flatMap_congr fun ic _ => ?_
  rw [foundBy, List.filter_flatMap, List.map_flatMap]
  refine List.flatMap_congr fun n _ => ?_
  rw [List.filter_flatMap, List.map_flatMap]
  refine List.flatMap_congr fun a _ => ?_
  rw [List.filter_flatMap, List.map_flatMap]
  exact List.flatMap_congr fun t _ => rows_flatMap _ _ _ _

theorem foundBy_other {i : IndexEntry} {ic : Relation} (other : i.indexrelid ≠ ic.oid) :
    foundBy cat i ic = [] := by
  simp only [foundBy, List.flatMap_eq_nil_iff]
  intro n _ a _ t _ m _
  simp [indexEmitted, Ne.symm other]

theorem foundBy_self {i : IndexEntry} {ic c : Relation} (h : c ∈ foundBy cat i ic) : c = ic := by
  simp only [foundBy, List.mem_flatMap] at h
  obtain ⟨n, -, a, -, t, -, m, -, found⟩ := h
  split at found
  · exact List.mem_singleton.mp found
  · cases found

/-- An index is discovered by its own entry, once, if its schema is a user's. -/
theorem foundBy_entry (sound : Sound cat) {i : IndexEntry} {ic t : Relation}
    (hc : ic ∈ cat.pg_class) (kind : ic.relkind = 'i') (own : i.indexrelid = ic.oid)
    (ht : t ∈ cat.pg_class) (table : t.oid = i.indrelid) :
    foundBy cat i ic = if inUserSchema cat ic then [ic] else [] := by
  obtain ⟨n, hn, same⟩ := sound.schema ic hc
  have roles : (cat.pg_roles.map fun a => a).Nodup := by simpa using sound.roles
  have methods : (cat.pg_am.map fun m => m).Nodup := by simpa using sound.methods
  rw [foundBy, flatMap_unique sound.namespaces hn, flatMap_unique roles (sound.owner ic hc),
    flatMap_unique sound.relations ht, flatMap_unique methods (sound.method ic hc kind),
    inUserSchema_iff sound hn same]
  · simp [indexEmitted, own, same, table]
  · intro m hm other
    simp [indexEmitted, other]
  · intro t' ht' other
    rw [List.flatMap_eq_nil_iff]
    intro m hm
    simp [indexEmitted, table ▸ other]
  · intro a ha other
    simp only [List.flatMap_eq_nil_iff]
    intro t' ht' m hm
    simp [indexEmitted, other]
  · intro n' hn' other
    simp only [List.flatMap_eq_nil_iff]
    intro a ha t' ht' m hm
    simp [indexEmitted, same ▸ other]

/-- Every index of a user's schema is discovered, once. -/
theorem indexes_discovered (sound : Sound cat) :
    ((ObjectKind.discovered cat .index).filter fun c => c.relkind = 'i').Perm
      (cat.pg_class.filter fun c => c.relkind = 'i' && inUserSchema cat c) := by
  have each : ∀ ic ∈ cat.pg_class,
      (cat.pg_index.flatMap fun i => foundBy cat i ic).filter (fun c => c.relkind = 'i') =
        if ic.relkind = 'i' && inUserSchema cat ic then [ic] else [] := by
    intro ic hc
    by_cases kind : ic.relkind = 'i'
    · obtain ⟨i, hi, own, t, ht, table⟩ := sound.entry ic hc kind
      rw [flatMap_unique sound.entries hi, foundBy_entry sound hc kind own ht table]
      · cases inUserSchema cat ic <;> simp [kind]
      · exact fun i' hi' other => foundBy_other (own ▸ other)
    · have none_left : (cat.pg_index.flatMap fun i => foundBy cat i ic).filter
          (fun c => c.relkind = 'i') = [] := by
        rw [List.filter_eq_nil_iff]
        intro c found
        obtain ⟨i, -, found⟩ := List.mem_flatMap.mp found
        rw [foundBy_self found]
        simpa using kind
      rw [none_left]
      simp [kind]
  rw [indexes_found]
  refine ((flatMap_swap _ _ _).filter _).trans (.of_eq ?_)
  rw [List.filter_flatMap, ← flatMap_filter]
  exact List.flatMap_congr each

end Discovered

def totalText : ObjectKind → CStr
  | .table => PGSQL_GET_TABLE_SIZE_SUM
  | .index => PGSQL_GET_INDEX_SIZE_SUM

def pages : Expr := .cast (.column "relpages".toList) .integer

set_option maxRecDepth 8000 in
theorem parse_table_total :
    parseTotal PGSQL_GET_TABLE_SIZE_SUM =
      some ⟨.binary .mul (.apply sum pages) (.int 8192),
        [(pg_class, "t".toList), ("pg_namespace".toList, "n".toList)],
        equalColumns "n.oid" "t.relnamespace" ::
          .binary .eq (.column "t.relkind".toList) (.text ['r']) ::
          userConditions "n.nspname".toList⟩ := by
  unfold PGSQL_GET_TABLE_SIZE_SUM
  simp only [literal, List.flatMap_cons, List.flatMap_nil]
  repeat rw [String.toList_ofList]
  decide +kernel

set_option maxRecDepth 8000 in
theorem parse_index_total :
    parse PGSQL_GET_INDEX_SIZE_SUM =
      some ⟨.apply sum (.binary .mul pages (.int 8192)), pg_class,
        [.binary .eq (.column "relkind".toList) (.text ['i'])]⟩ := by
  unfold PGSQL_GET_INDEX_SIZE_SUM
  simp only [literal, List.flatMap_cons, List.flatMap_nil]
  repeat rw [String.toList_ofList]
  decide +kernel

structure SchemaJoin where
  t : Relation
  n : Namespace

section Sums
variable {α : Type}

def schemaColumns : Columns α SchemaJoin :=
  [("relpages".toList, .integer, fun j => some (.number j.t.relpages)),
   ("t.relkind".toList, .name, fun j => some (.text [j.t.relkind])),
   ("t.relnamespace".toList, .oid, fun j => some (.number j.t.relnamespace)),
   ("n.oid".toList, .oid, fun j => some (.number j.n.oid)),
   ("n.nspname".toList, .name, fun j => some (.text j.n.nspname))]

def schemaJoins (cat : Catalog) : List SchemaJoin :=
  cat.pg_class.flatMap fun t => cat.pg_namespace.map fun n => ⟨t, n⟩

def addUp : List ℚ → Value α
  | [] => none
  | q :: qs => some (.number (q :: qs).sum)

theorem addUp_perm {a b : List ℚ} (h : a.Perm b) : addUp (α := α) a = addUp b := by
  cases a with
  | nil => rw [h.nil_eq]
  | cons q qs =>
    cases b with
    | nil => cases h.eq_nil
    | cons r rs => rw [addUp, addUp, h.sum_eq]

def bytes (c : Relation) : ℚ := c.relpages * 8192

theorem aggregateOf_addUp (values : List ℚ) :
    aggregateOf sum (values.map fun q => (some (.number q) : Value α)) = some (addUp values) := by
  have given : (values.map fun q => (some (.number q) : Value α)).filterMap id =
      values.map .number := by
    rw [List.filterMap_map]
    exact congrFun List.filterMap_eq_map values
  rw [aggregateOf, given, if_neg (by decide), if_pos rfl]
  cases values with
  | nil => rfl
  | cons q qs =>
    have numbers : ((q :: qs).map (Datum.number (α := α))).mapM numberOf = some (q :: qs) := by
      rw [List.mapM_map]
      exact (mapM_some _ id _ fun _ _ => rfl).trans (by rw [List.map_id])
    change Option.map _ (((q :: qs).map (Datum.number (α := α))).mapM numberOf) = _
    rw [numbers]
    rfl

variable [DecidableEq α] (session : Session α)

theorem group_addUp {R : Type} {columns : Columns α R} {rows group : List R} {e : Expr}
    {params : List CStr} {f : R → ℚ} (h : ∀ r ∈ group, evalRow session
      (tableOf columns rows).types params (rowOf columns r) e = some (some (.number (f r)))) :
    evalGroup session (tableOf columns rows).types params (group.map (rowOf columns))
      (.apply sum e) = some (addUp (group.map f)) := by
  have values : ((group.map (rowOf columns)).mapM fun row =>
      evalRow session (tableOf columns rows).types params row e) =
        some ((group.map f).map fun q => some (.number q)) := by
    rw [List.mapM_map, List.map_map]
    exact mapM_some _ _ group h
  rw [evalGroup_apply session (by decide) values, aggregateOf_addUp]

theorem addUp_scaled (values : List ℚ) :
    strict (α := α) .mul (wider (wider .numeric .integer) .integer) (addUp values)
      (some (.number 8192)) = some (addUp (values.map fun q => q * 8192)) := by
  cases values with
  | nil => rfl
  | cons q qs =>
    have scaled : ((q :: qs).map fun q => q * 8192).sum = (q :: qs).sum * 8192 := by
      rw [List.sum_map_mul_right, List.map_id']
    change some (some (Datum.number ((q :: qs).sum * 8192))) =
      some (some (Datum.number ((q :: qs).map fun q => q * 8192).sum))
    rw [scaled]

def tableTotal (cat : Catalog) : Outcome α :=
  (parseTotal PGSQL_GET_TABLE_SIZE_SUM).bind fun q =>
    if q.tables = [(pg_class, "t".toList), ("pg_namespace".toList, "n".toList)] then
      runTotal session (tableOf schemaColumns (schemaJoins cat)) [] q
    else none

def indexTotal (cat : Catalog) : Outcome α :=
  firstValue session pg_class (classTable cat.pg_class) (PGSQL_GET_INDEX_SIZE_SUM, [])

def sizeTotal (cat : Catalog) : ObjectKind → Outcome α
  | .table => tableTotal session cat
  | .index => indexTotal session cat

def schemaKept (j : SchemaJoin) : Bool :=
  j.n.oid = j.t.relnamespace && (j.t.relkind = 'r' && userSchema j.n.nspname)

theorem schema_keeps (rows : List SchemaJoin) (j : SchemaJoin) :
    keeps session (tableOf (schemaColumns (α := α)) rows).types []
      (equalColumns "n.oid" "t.relnamespace" ::
        .binary .eq (.column "t.relkind".toList) (.text ['r']) ::
        userConditions "n.nspname".toList) (rowOf schemaColumns j) = some (schemaKept j) := by
  have schema := equalColumns_decides session schemaColumns rows j
    (c := "n.oid") (d := "t.relnamespace") rfl rfl
  have kind : Decides session (tableOf (schemaColumns (α := α)) rows).types []
      (rowOf schemaColumns j) (.binary .eq (.column "t.relkind".toList) (.text ['r']))
      (decide ([j.t.relkind] = ['r'])) :=
    decides_literal session (g := fun j : SchemaJoin => [j.t.relkind]) (s := ['r']) rfl (by decide)
  have user := user_keeps session schemaColumns (c := "n.nspname".toList) rfl rows [] j
  have all := keeps_of_decides session schema (keeps_of_decides session kind user)
  simp only [List.cons.injEq, and_true] at all
  exact all

/-- The query keeps every table of a user's schema, once. -/
theorem schema_kept {cat : Catalog} (sound : Sound cat) :
    ((schemaJoins cat).filter schemaKept).map SchemaJoin.t =
      cat.pg_class.filter fun c => c.relkind = 'r' && inUserSchema cat c := by
  rw [schemaJoins, List.filter_flatMap, List.map_flatMap, ← flatMap_filter]
  refine List.flatMap_congr fun c hc => ?_
  obtain ⟨n, hn, same⟩ := sound.schema c hc
  rw [rows_flatMap, flatMap_unique sound.namespaces hn, inUserSchema_iff sound hn same]
  · simp [schemaKept, same]
  · intro n' hn' other
    simp [schemaKept, same ▸ other]

theorem pages_value {R : Type} {columns : Columns α R} (rows : List R) (params : List CStr)
    {c : Name} {f : R → ℤ}
    (hc : columns.lookup c = some (.integer, fun r => some (.number (f r)))) (r : R) :
    evalRow session (tableOf columns rows).types params (rowOf columns r)
      (.cast (.column c) .integer) = some (some (.number (f r))) := by
  refine (eval_cast session .integer (evalRow_column session rows r params hc)).trans ?_
  rw [typeOf_column hc]
  simp [castTo]

theorem tableTotal_eq {cat : Catalog} (sound : Sound cat) :
    tableTotal session cat =
      some (addUp ((ObjectKind.discovered cat .table).map bytes)) := by
  let rows := (schemaJoins cat).filter schemaKept
  let types := (tableOf (schemaColumns (α := α)) (schemaJoins cat)).types
  have summed : evalGroup session types [] (rows.map (rowOf schemaColumns)) (.apply sum pages) =
      some (addUp (rows.map fun j => (j.t.relpages : ℚ))) :=
    group_addUp session fun j _ => pages_value session (schemaJoins cat) []
      (f := fun j : SchemaJoin => j.t.relpages) rfl j
  have scaled : evalGroup session types [] (rows.map (rowOf schemaColumns))
      (.binary .mul (.apply sum pages) (.int 8192)) =
        strict .mul (wider (wider .numeric .integer) .integer)
          (addUp (rows.map fun j => (j.t.relpages : ℚ))) (some (.number 8192)) :=
    eval_binary session .mul rfl rfl (by decide) (by decide) summed rfl
  have same : (rows.map fun j => (j.t.relpages : ℚ)).map (fun q => q * 8192) =
      (ObjectKind.discovered cat .table).map bytes := by
    rw [tables_discovered sound, ← schema_kept sound, List.map_map, List.map_map]
    rfl
  rw [tableTotal, parse_table_total, Option.bind_some, if_pos rfl]
  refine (runTotal_group session fun j _ => schema_keeps session (schemaJoins cat) j).trans ?_
  rw [← same, ← addUp_scaled]
  exact scaled

/-- The indexes of the schemas that no discovery shows. -/
def systemIndexes (cat : Catalog) : List Relation :=
  cat.pg_class.filter fun c => c.relkind = 'i' && !inUserSchema cat c

/-- The relations that the total of a kind is over. -/
def totalled (cat : Catalog) : ObjectKind → List Relation
  | .table => ObjectKind.discovered cat .table
  | .index => ((ObjectKind.discovered cat .index).filter fun c => c.relkind = 'i') ++
      systemIndexes cat

theorem indexes_totalled {cat : Catalog} (sound : Sound cat) :
    (cat.pg_class.filter fun c => c.relkind = 'i').Perm (totalled cat .index) := by
  have parts := List.filter_append_perm (inUserSchema cat)
    (cat.pg_class.filter fun c => c.relkind = 'i')
  rw [List.filter_filter, List.filter_filter] at parts
  refine parts.symm.trans ?_
  refine (List.Perm.append ?_ (.of_eq ?_))
  · refine (List.Perm.of_eq ?_).trans (indexes_discovered sound).symm
    exact List.filter_congr fun c _ => Bool.and_comm _ _
  · exact List.filter_congr fun c _ => Bool.and_comm _ _

theorem indexTotal_eq {cat : Catalog} (sound : Sound cat) :
    indexTotal session cat = some (addUp ((totalled cat .index).map bytes)) := by
  let types := (classTable (α := α) cat.pg_class).types
  have kept : ∀ c ∈ cat.pg_class, keeps session types []
      [.binary .eq (.column "relkind".toList) (.text ['i'])] (rowOf classColumns c) =
        some (decide (c.relkind = 'i')) := by
    intro c _
    have kind : Decides session types [] (rowOf classColumns c)
        (.binary .eq (.column "relkind".toList) (.text ['i'])) (decide ([c.relkind] = ['i'])) :=
      decides_literal session (g := fun c : Relation => [c.relkind]) rfl (by decide)
    have only := keeps_of_decides session kind (keeps_nil session)
    simp only [List.cons.injEq, and_true, Bool.and_true] at only
    exact only
  have value : ∀ c : Relation, evalRow session types [] (rowOf classColumns c)
      (.binary .mul pages (.int 8192)) = some (some (.number (bytes c))) := by
    intro c
    have own := pages_value session cat.pg_class [] lookup_pages c
    have block : evalRow session types [] (rowOf classColumns c) (.int 8192) =
        some (some (.number 8192)) := rfl
    exact eval_binary session .mul (t := .integer) (u := .integer) rfl rfl (by decide) (by decide)
      own block
  have summed : evalGroup session types []
      ((cat.pg_class.filter fun c => decide (c.relkind = 'i')).map (rowOf classColumns))
      (.apply sum (.binary .mul pages (.int 8192))) =
        some (addUp ((cat.pg_class.filter fun c => decide (c.relkind = 'i')).map bytes)) :=
    group_addUp session fun c _ => value c
  rw [indexTotal, firstValue, parse_index_total, Option.bind_some, if_pos rfl]
  refine (congrArg (fun o => Option.bind o List.head?)
    (run_group session pg_class rfl kept)).trans ?_
  refine (congrArg (fun o => (Option.map (fun v => [v]) o).bind List.head?) summed).trans ?_
  rw [addUp_perm ((indexes_totalled sound).map bytes)]
  rfl

end Sums

section Main
variable {α : Type} [DecidableEq α]

theorem total_runs (S : Server) (g : Globals) {request : AGENT_REQUEST} (kind : ObjectKind)
    (absent : strisnull (get_rparam request PARAM_FIRST) = true) :
    RunsQuery S g request (sizeHandler kind) .AR_UINT64 (totalText kind, []) := by
  cases kind with
  | table =>
    refine runsQuery_of_asks ((intByName_asks _ _).trans ?_)
    rw [if_pos absent, bound_strisnull absent]
    rfl
  | index =>
    refine runsQuery_of_asks ?_
    change (optionalNamePlan request .AR_UINT64 _ _).dialogue request = _
    simp only [optionalNamePlan, absent]
    rfl

/-- Without a name, the size key of a kind asks for one total. That of the tables is the sum
    over the tables discovered; that of the indexes is the sum over the indexes discovered
    and those of the system's schemas, which are not. -/
theorem sizes_total {cat : Catalog} (sound : Sound cat) (session : Session α) (kind : ObjectKind) :
    (∀ (S : Server) (g : Globals) (request : AGENT_REQUEST),
      strisnull (get_rparam request PARAM_FIRST) = true →
        RunsQuery S g request (sizeHandler kind) .AR_UINT64 (totalText kind, [])) ∧
      sizeTotal session cat kind = some (addUp ((totalled cat kind).map bytes)) := by
  refine ⟨fun S g request absent => total_runs S g kind absent, ?_⟩
  cases kind with
  | table => exact tableTotal_eq session sound
  | index => exact indexTotal_eq session sound

end Main

theorem twoSchemas_sound : Sound twoSchemas where
  namespaces := by decide
  relations := by decide
  types := by decide
  roles := by decide
  methods := by decide
  entries := by decide
  schema := by decide
  rowType := by decide
  owner := by decide
  method := by decide
  entry := by decide

theorem sizes_total_twoSchemas :
    (∀ (S : Server) (g : Globals) (request : AGENT_REQUEST),
      strisnull (get_rparam request PARAM_FIRST) = true →
        RunsQuery S g request (sizeHandler .table) .AR_UINT64 (totalText .table, [])) ∧
      sizeTotal noAddresses twoSchemas .table =
        some (addUp ((totalled twoSchemas .table).map bytes)) :=
  sizes_total twoSchemas_sound noAddresses .table

end LibZbxPgsql.DiscoveredTotals
