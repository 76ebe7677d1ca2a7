import LibZbxPgsql.CStrings

set_option autoImplicit false

/-! `pg_config.c`. The settings libconfig parsed are loaded into two parallel arrays, kept in
`strcmp` order of the keys, which `get_query_by_name` searches by halving. An access outside
an array or a comparison against a `NULL` key is a fault, `none`. -/
namespace LibZbxPgsql.NamedQueries
open CStrings

def INT_MAX : ℤ := 2 ^ 31 - 1

def MAX_GLOBBING_PATH_LENGTH : ℕ := 512

def DEFAULT_PGCONFIGFILE : CStr := "/etc/zabbix/libzbxpgsql.conf".toList

inductive ConfigValue where
  | group (members : List (CStr × ConfigValue))
  | string (text : CStr)
  | other

abbrev Setting := CStr × ConfigValue

inductive TableArray where
  | query_keys
  | query_values
  deriving DecidableEq

/-- One assignment to a cell of the table. -/
structure Store where
  array : TableArray
  index : ℕ
  old : Option CStr
  new : Option CStr

/-- The three globals. `stores` is no field of theirs: it records the assignments
    made to the cells. -/
structure Table where
  query_keys : List (Option CStr)
  query_values : List (Option CStr)
  query_count : ℕ
  stores : List Store

def Table.initial : Table := ⟨[], [], 0, []⟩

def Table.setKey (t : Table) (i : ℕ) (cell : Option CStr) : Option Table :=
  (t.query_keys[i]?).map fun old =>
    { t with
      query_keys := t.query_keys.set i cell
      stores := t.stores ++ [⟨.query_keys, i, old, cell⟩] }

def Table.setValue (t : Table) (i : ℕ) (cell : Option CStr) : Option Table :=
  (t.query_values[i]?).map fun old =>
    { t with
      query_values := t.query_values.set i cell
      stores := t.stores ++ [⟨.query_values, i, old, cell⟩] }

def shifts (name : CStr) : Option CStr → Bool
  | none => true
  | some key => decide (0 > strcmp name key)

/-- The `while` loop of `add_named_query`; its argument is the source's `i + 1`,
    and so is the index it returns. -/
def shift (name : CStr) : ℕ → Table → Option (ℕ × Table)
  | 0, t => some (0, t)
  | i + 1, t =>
    (t.query_keys[i]?).bind fun key =>
      if shifts name key = true then
        (t.setKey (i + 1) key).bind fun t =>
        (t.query_values[i]?).bind fun value =>
        (t.setValue (i + 1) value).bind fun t =>
        (t.setKey i none).bind fun t =>
        (t.setValue i none).bind fun t =>
        shift name i t
      else some (i + 1, t)

def add_named_query (t : Table) (name query : CStr) : Option Table :=
  (shift name t.query_count t).bind fun (i, t) =>
  (t.setKey i (some name)).bind fun t =>
  t.setValue i (some query)

def readCell (cells : List (Option CStr)) (i : ℤ) : Option (Option CStr) :=
  if i < 0 then none else cells[i.toNat]?

/-- The loop of `get_query_by_name`: the indices it reads, in order, and what it
    returns. Both operands of the midpoint are non-negative, so that C's division
    is the floor; their sum must be an `int`. -/
def search (t : Table) (key : CStr) (bottom top : ℤ) : List ℤ × Option (Option CStr) :=
  if bottom ≤ top then
    if INT_MAX < bottom + top then ([], none)
    else
      let mid := (bottom + top) / 2
      match readCell t.query_keys mid with
      | none => ([mid], none)
      | some none => ([mid], none)
      | some (some found) =>
        let cmp := strcmp found key
        if cmp = 0 then ([mid], readCell t.query_values mid)
        else if cmp > 0 then
          let rest := search t key bottom (mid - 1)
          (mid :: rest.1, rest.2)
        else
          let rest := search t key (mid + 1) top
          (mid :: rest.1, rest.2)
  else ([], some none)
termination_by (top + 1 - bottom).toNat

/-- `none` is a fault, `some none` the `NULL` of a key that is not found. -/
def get_query_by_name (t : Table) (key : CStr) : Option (Option CStr) :=
  (search t key 0 (t.query_count - 1)).2

def get_query_by_name_reads (t : Table) (key : CStr) : List ℤ :=
  (search t key 0 (t.query_count - 1)).1

inductive ExitCode where
  | EXIT_SUCCESS
  | EXIT_FAILURE
  deriving DecidableEq

inductive ModuleStatus where
  | ZBX_MODULE_OK
  | ZBX_MODULE_FAIL
  deriving DecidableEq

def read_config_members : List Setting → Table → Option (ExitCode × Table)
  | [], t => some (.EXIT_SUCCESS, t)
  | (key, .string value) :: rest, t =>
    (add_named_query t key value).bind fun t => read_config_members rest t
  | (_, .group _) :: _, t => some (.EXIT_FAILURE, t)
  | (_, .other) :: _, t => some (.EXIT_FAILURE, t)

def read_config_queries (root : ConfigValue) (t : Table) : Option (ExitCode × Table) :=
  match root with
  | .group members =>
    let cells := List.replicate (members.length + 1) none
    read_config_members members
      { t with query_count := members.length, query_keys := cells, query_values := cells }
  | .string _ => some (.EXIT_FAILURE, t)
  | .other => some (.EXIT_FAILURE, t)

def read_config_root : List Setting → Table → Option (ExitCode × Table)
  | [], t => some (.EXIT_SUCCESS, t)
  | (key, node) :: rest, t =>
    if 0 = strncmp key "queries".toList 8 then
      (read_config_queries node t).bind fun (code, t) =>
        if code ≠ .EXIT_SUCCESS then some (.EXIT_FAILURE, t) else read_config_root rest t
    else some (.EXIT_FAILURE, t)

/-- `config_read_file` gives the root settings, or nothing where the file cannot be
    read or parsed. -/
def read_config (config_read_file : Option CStr → Option (List Setting))
    (cfgfile : Option CStr) (t : Table) : Option (ExitCode × Table) :=
  match config_read_file cfgfile with
  | none => some (.EXIT_FAILURE, t)
  | some root => read_config_root root t

/-- `env` is the variable `PGCONFIGFILE`, if it is set. -/
def getPGCONFIGFILE (env : Option CStr) : Option CStr :=
  match env with
  | none => some DEFAULT_PGCONFIGFILE
  | some path => if path.length > MAX_GLOBBING_PATH_LENGTH then none else some path

def init_config (env : Option CStr) (config_read_file : Option CStr → Option (List Setting))
    (t : Table) : Option (ModuleStatus × Table) :=
  (read_config config_read_file (getPGCONFIGFILE env) t).map fun (code, t) =>
    if code ≠ .EXIT_SUCCESS then (.ZBX_MODULE_FAIL, t) else (.ZBX_MODULE_OK, t)

end LibZbxPgsql.NamedQueries
