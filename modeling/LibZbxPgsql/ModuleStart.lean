import LibZbxPgsql.NamedQueryTable
import LibZbxPgsql.ServerKeys
import LibZbxPgsql.StateFaultWp

set_option autoImplicit false

/-! `zbx_module_init`. The module finds the agent's functions in the running binary, logs
through the pointers it was given and loads its configuration file. A call through a null
pointer, a null pointer where a string is read and an access outside the table are faults. -/
namespace LibZbxPgsql.ModuleStart
open StateFaultWp CStrings NamedQueries NamedQueryTable
open ServerKeys (PACKAGE_STRING)

inductive Symbol where
  | zabbix_check_log_level
  | zbx_log_level
  | __zbx_zabbix_log
  | zbx_snprintf
  | __zbx_zbx_snprintf
  deriving DecidableEq

/-- The agent's binary to the dynamic linker; `dlerror` is its text after a lookup that
    failed, or after a `dlopen` that did. -/
structure Binary where
  dlopen : Bool
  exports : Symbol → Bool
  dlerror : Option Symbol → CStr

def Binary.dlsym (b : Binary) (name : Symbol) : Option Symbol :=
  if b.exports name = true then some name else none

structure Levels where
  LOG_LEVEL_EMPTY : ℤ
  LOG_LEVEL_ERR : ℤ
  LOG_LEVEL_INFORMATION : ℤ

/-- The agent's log level at one moment: whether `zabbix_check_log_level` returns
    `SUCCEED`, and the value of `zbx_log_level`. -/
structure Verbosity where
  zabbix_check_log_level : ℤ → Bool
  zbx_log_level : ℤ

inductive Arg where
  | string (text : CStr)
  | int (n : ℤ)

structure Message where
  fmt : CStr
  args : List Arg

inductive Stream where
  | stdout
  | stderr

/-- The pointers are the names they were looked up by. `handles` counts what `dlopen`
    returned and `dlclose` did not take back. -/
structure Process where
  zbx_snprintf : Option Symbol
  real_zabbix_check_log_level : Option Symbol
  real_zbx_log_level : Option Symbol
  real_zabbix_log : Option Symbol
  handles : ℕ
  printed : List (Stream × Message)
  log : List (ℤ × Message)
  table : Table

def Process.initial : Process := ⟨none, none, none, none, 0, [], [], Table.initial⟩

inductive Fault where
  | nullCall
  | nullString
  | tableAccess

abbrev Start := EStateM Fault Process

def fprintf (stream : Stream) (fmt : CStr) (args : List Arg) : Start Unit :=
  modify fun p => { p with printed := p.printed ++ [(stream, ⟨fmt, args⟩)] }

/-- The macro of `libzbxpgsql.h`. The arguments are `none` where one that `%s` reads is
    `NULL`. -/
def zabbix_log (L : Levels) (v : Verbosity) (level : ℤ) (fmt : CStr)
    (args : Option (List Arg)) : Start Unit := do
  let p ← get
  if p.real_zabbix_check_log_level ≠ none ∧ v.zabbix_check_log_level level = false then
    return ()
  else if p.real_zbx_log_level ≠ none ∧ L.LOG_LEVEL_INFORMATION ≠ level ∧
      (level > v.zbx_log_level ∨ L.LOG_LEVEL_EMPTY = level) then
    return ()
  else
    match p.real_zabbix_log, args with
    | none, _ => throw .nullCall
    | some _, none => throw .nullString
    | some _, some args => modify fun p => { p with log := p.log ++ [(level, ⟨fmt, args⟩)] }

def getPGCONFIGFILE (L : Levels) (v : Verbosity) (env : Option CStr) :
    Start (Option CStr) :=
  match env with
  | none => return some DEFAULT_PGCONFIGFILE
  | some path =>
    if path.length > MAX_GLOBBING_PATH_LENGTH then do
      zabbix_log L v L.LOG_LEVEL_ERR "PGCONFIGFILE exceeds maximum length of %i".toList
        (some [.int MAX_GLOBBING_PATH_LENGTH])
      return none
    else return some path

def add_named_query (name query : CStr) : Start Unit := do
  let p ← get
  match NamedQueries.add_named_query p.table name query with
  | none => throw .tableAccess
  | some t => set { p with table := t }

def read_config_members (L : Levels) (v : Verbosity) : List Setting → Start ExitCode
  | [] => return .EXIT_SUCCESS
  | (key, .string value) :: rest => do
    add_named_query key value
    read_config_members L v rest
  | (key, .group _) :: _ => do
    zabbix_log L v L.LOG_LEVEL_ERR "query '%s' is not a valid string".toList
      (some [.string key])
    return .EXIT_FAILURE
  | (key, .other) :: _ => do
    zabbix_log L v L.LOG_LEVEL_ERR "query '%s' is not a valid string".toList
      (some [.string key])
    return .EXIT_FAILURE

def read_config_queries (L : Levels) (v : Verbosity) (root : ConfigValue) : Start ExitCode :=
  match root with
  | .group members => do
    let cells := List.replicate (members.length + 1) none
    modify fun p => { p with table := { p.table with query_count := members.length,
                                                     query_keys := cells,
                                                     query_values := cells } }
    read_config_members L v members
  | .string _ => do
    zabbix_log L v L.LOG_LEVEL_ERR "queries is not a valid configuration group".toList (some [])
    return .EXIT_FAILURE
  | .other => do
    zabbix_log L v L.LOG_LEVEL_ERR "queries is not a valid configuration group".toList (some [])
    return .EXIT_FAILURE

def read_config_root (L : Levels) (v : Verbosity) : List Setting → Start ExitCode
  | [] => return .EXIT_SUCCESS
  | (key, node) :: rest =>
    if 0 = strncmp key "queries".toList 8 then do
      let code ← read_config_queries L v node
      if code ≠ .EXIT_SUCCESS then return .EXIT_FAILURE else read_config_root L v rest
    else do
      zabbix_log L v L.LOG_LEVEL_ERR "unrecognised configuration parameter: %s".toList
        (some [.string key])
      return .EXIT_FAILURE

/-- `config_error_text` and `config_error_line`. -/
structure ConfigError where
  text : CStr
  line : ℤ

abbrev Parser := CStr → Except ConfigError (List Setting)

def read_config (L : Levels) (v : Verbosity) (config_read_file : Parser)
    (cfgfile : Option CStr) : Start ExitCode :=
  match cfgfile with
  -- `config_read_file` opens the path it is given
  | none => throw .nullString
  | some path =>
    match config_read_file path with
    | .error e => do
      zabbix_log L v L.LOG_LEVEL_ERR "%s in %s:%i".toList
        (some [.string e.text, .string path, .int e.line])
      return .EXIT_FAILURE
    | .ok root => read_config_root L v root

def conclude (code : ExitCode) : Start ModuleStatus :=
  if code ≠ .EXIT_SUCCESS then return .ZBX_MODULE_FAIL else return .ZBX_MODULE_OK

def init_config (L : Levels) (v : Verbosity) (env : Option CStr) (config_read_file : Parser) :
    Start ModuleStatus := do
  let cfgfile ← getPGCONFIGFILE L v env
  zabbix_log L v L.LOG_LEVEL_INFORMATION "using module configuration file: %s".toList
    (cfgfile.map fun path => [.string path])
  let code ← read_config L v config_read_file cfgfile
  conclude code

def uninit_config : Start ExitCode := return .EXIT_SUCCESS

def zbx_module_uninit : Start ExitCode := uninit_config

def dlclose : Start Unit := modify fun p => { p with handles := p.handles - 1 }

def find_log_level (b : Binary) : Start Unit := do
  modify fun p => { p with
    real_zabbix_check_log_level := b.dlsym .zabbix_check_log_level
    real_zbx_log_level := b.dlsym .zbx_log_level }
  if b.dlsym .zabbix_check_log_level = none ∧ b.dlsym .zbx_log_level = none then
    fprintf .stderr ("failed to find both zabbix_check_log_level() and zbx_log_level,".toList ++
      " be aware that module may spam with log messages".toList) []
  else return ()

/-- `NULL == (zbx_snprintf = …) && NULL == (zbx_snprintf = …)`. -/
def misses_snprintf (b : Binary) : Start Bool := do
  modify fun p => { p with zbx_snprintf := b.dlsym .zbx_snprintf }
  if b.dlsym .zbx_snprintf = none then do
    modify fun p => { p with zbx_snprintf := b.dlsym .__zbx_zbx_snprintf }
    return decide (b.dlsym .__zbx_zbx_snprintf = none)
  else return false

def zbx_module_init (b : Binary) (L : Levels) (v : Verbosity) (env : Option CStr)
    (config_read_file : Parser) : Start ModuleStatus := do
  fprintf .stdout "starting agent module %s".toList [.string PACKAGE_STRING]
  if b.dlopen = false then do
    fprintf .stderr "failed to dlopen() Zabbix binary: %s".toList
      [.string (b.dlerror none)]
    return .ZBX_MODULE_FAIL
  else do
    modify fun p => { p with handles := p.handles + 1 }
    find_log_level b
    modify fun p => { p with real_zabbix_log := b.dlsym .__zbx_zabbix_log }
    if b.dlsym .__zbx_zabbix_log = none then do
      fprintf .stderr "failed to find __zbx_zabbix_log(): %s".toList
        [.string (b.dlerror (some .__zbx_zabbix_log))]
      return .ZBX_MODULE_FAIL
    else do
      let missing ← misses_snprintf b
      if missing = true then do
        zabbix_log L v L.LOG_LEVEL_ERR
          "failed to find zbx_snprintf() or __zbx_zbx_snprintf(): %s".toList
          (some [.string (b.dlerror (some .__zbx_zbx_snprintf))])
        dlclose
        return .ZBX_MODULE_FAIL
      else do
        dlclose
        init_config L v env config_read_file

def Binary.passes (b : Binary) (L : Levels) (v : Verbosity) (level : ℤ) : Bool :=
  (b.exports .zabbix_check_log_level → v.zabbix_check_log_level level) &&
    (b.exports .zbx_log_level → level = L.LOG_LEVEL_INFORMATION ∨
      (level ≤ v.zbx_log_level ∧ level ≠ L.LOG_LEVEL_EMPTY))

def Binary.heard (b : Binary) (L : Levels) (v : Verbosity) (lines : List (ℤ × Message)) :
    List (ℤ × Message) :=
  lines.filter fun line => b.passes L v line.1

def memberComplaints (members : List Setting) : List Message :=
  (members.filter fun m => !isString m.2).map fun m =>
    ⟨"query '%s' is not a valid string".toList, [.string m.1]⟩

/-- Everything wrong with a setting of the file, in its order. -/
def complaints (s : Setting) : List Message :=
  if s.1 = "queries".toList then
    match s.2 with
    | .group members => memberComplaints members
    | .string _ => [⟨"queries is not a valid configuration group".toList, []⟩]
    | .other => [⟨"queries is not a valid configuration group".toList, []⟩]
  else [⟨"unrecognised configuration parameter: %s".toList, [.string s.1]⟩]

def objections (path : CStr) : Except ConfigError (List Setting) → List Message
  | .error e => [⟨"%s in %s:%i".toList, [.string e.text, .string path, .int e.line]⟩]
  | .ok root => root.flatMap complaints

def overlong (env : Option CStr) : Bool :=
  env.any fun path => decide (MAX_GLOBBING_PATH_LENGTH < path.length)

def configPath (env : Option CStr) : CStr := env.getD DEFAULT_PGCONFIGFILE

theorem path_fits {env : Option CStr} (fits : overlong env = false) :
    NamedQueries.getPGCONFIGFILE env = some (configPath env) := by
  cases env with
  | none => rfl
  | some path =>
    rw [NamedQueries.getPGCONFIGFILE, if_neg (by simpa [overlong] using fits)]
    rfl

/-- The first of them is reported, and nothing after it. -/
def firstError (L : Levels) (messages : List Message) : List (ℤ × Message) :=
  messages.head?.toList.map fun m => (L.LOG_LEVEL_ERR, m)

def tooLong (L : Levels) : ℤ × Message :=
  (L.LOG_LEVEL_ERR, ⟨"PGCONFIGFILE exceeds maximum length of %i".toList,
    [.int MAX_GLOBBING_PATH_LENGTH]⟩)

def report (L : Levels) (env : Option CStr) (config_read_file : Parser) :
    List (ℤ × Message) :=
  if overlong env = true then [tooLong L]
  else
    (L.LOG_LEVEL_INFORMATION, ⟨"using module configuration file: %s".toList,
      [.string (configPath env)]⟩) ::
        firstError L (objections (configPath env) (config_read_file (configPath env)))

section Saying
variable {b : Binary} {L : Levels} {v : Verbosity} {α β : Type}

/-- The macro goes through the pointers this binary gave, and there is a log. -/
structure Linked (b : Binary) (p : Process) : Prop where
  check : p.real_zabbix_check_log_level = b.dlsym .zabbix_check_log_level
  level : p.real_zbx_log_level = b.dlsym .zbx_log_level
  log : p.real_zabbix_log ≠ none

/-- Run from any linked process with this table: it returns `a`, and the table it leaves
    and the lines heard are all that changed. -/
def Says (b : Binary) (L : Levels) (v : Verbosity) (m : Start α) (t : Table) (a : α)
    (t' : Table) (lines : List (ℤ × Message)) : Prop :=
  ∀ p, Linked b p → p.table = t →
    m p = .ok a { p with table := t', log := p.log ++ b.heard L v lines }

theorem dlsym_ne_none (name : Symbol) : b.dlsym name ≠ none ↔ b.exports name = true := by
  unfold Binary.dlsym
  by_cases h : b.exports name = true
  · simp [h]
  · simp [h]

theorem says_pure (a : α) (t : Table) : Says b L v (pure a) t a t [] := by
  rintro p - rfl
  change EStateM.Result.ok a p = _
  simp [Binary.heard]

theorem says_modify (f : Table → Table) (t : Table) :
    Says b L v (modify fun p => { p with table := f p.table }) t () (f t) [] := by
  rintro p - rfl
  rw [Binary.heard, List.filter_nil, List.append_nil]
  rfl

theorem says_bind {m : Start α} {f : α → Start β} {t t₁ t₂ : Table} {a : α} {c : β}
    {l l' : List (ℤ × Message)} (first : Says b L v m t a t₁ l)
    (rest : Says b L v (f a) t₁ c t₂ l') : Says b L v (m >>= f) t c t₂ (l ++ l') := by
  intro p linked ht
  have next := rest { p with table := t₁, log := p.log ++ b.heard L v l }
    ⟨linked.check, linked.level, linked.log⟩ rfl
  change EStateM.bind m f p = _
  rw [EStateM.bind, first p linked ht]
  refine next.trans ?_
  rw [Binary.heard, Binary.heard, Binary.heard, List.filter_append, List.append_assoc]

/-- A line is let through where neither of the macro's two breaks is taken. -/
theorem passes_iff (level : ℤ) : b.passes L v level = true ↔
    ¬ (b.dlsym .zabbix_check_log_level ≠ none ∧ v.zabbix_check_log_level level = false) ∧
    ¬ (b.dlsym .zbx_log_level ≠ none ∧ L.LOG_LEVEL_INFORMATION ≠ level ∧
      (level > v.zbx_log_level ∨ L.LOG_LEVEL_EMPTY = level)) := by
  simp only [Binary.passes, Bool.and_eq_true, decide_eq_true_eq, dlsym_ne_none]
  constructor
  · rintro ⟨check, within⟩
    constructor
    · rintro ⟨found, refused⟩
      rw [check found] at refused
      cases refused
    · rintro ⟨found, notInformation, low⟩
      rcases within found with rfl | ⟨le, notEmpty⟩
      · exact notInformation rfl
      · rcases low with above | rfl
        · omega
        · exact notEmpty rfl
  · rintro ⟨check, within⟩
    constructor
    · intro found
      by_contra h
      exact check ⟨found, by simpa using h⟩
    · intro found
      by_contra h
      rw [not_or, not_and_or, not_not] at h
      refine within ⟨found, Ne.symm h.1, ?_⟩
      rcases h.2 with above | empty
      · exact .inl (by omega)
      · exact .inr empty.symm

/-- The macro, to a linked process: nothing where the line is not let through. -/
theorem log_run (level : ℤ) (fmt : CStr) (args : Option (List Arg)) {p : Process}
    (linked : Linked b p) : zabbix_log L v level fmt args p =
      if b.passes L v level = true then
        match args with
        | none => .error .nullString p
        | some args => .ok () { p with log := p.log ++ [(level, ⟨fmt, args⟩)] }
      else .ok () p := by
  obtain ⟨check, pointer, log⟩ := linked
  have passes := passes_iff (b := b) (L := L) (v := v) level
  rw [← check, ← pointer] at passes
  change (if p.real_zabbix_check_log_level ≠ none ∧ v.zabbix_check_log_level level = false then
      return () else if p.real_zbx_log_level ≠ none ∧ L.LOG_LEVEL_INFORMATION ≠ level ∧
        (level > v.zbx_log_level ∨ L.LOG_LEVEL_EMPTY = level) then return ()
      else _ : Start Unit) p = _
  by_cases hc : p.real_zabbix_check_log_level ≠ none ∧ v.zabbix_check_log_level level = false
  · rw [if_pos hc, if_neg (fun h => (passes.mp h).1 hc)]
    rfl
  rw [if_neg hc]
  by_cases hl : p.real_zbx_log_level ≠ none ∧ L.LOG_LEVEL_INFORMATION ≠ level ∧
      (level > v.zbx_log_level ∨ L.LOG_LEVEL_EMPTY = level)
  · rw [if_pos hl, if_neg (fun h => (passes.mp h).2 hl)]
    rfl
  rw [if_neg hl, if_pos (passes.mpr ⟨hc, hl⟩)]
  cases hp : p.real_zabbix_log with
  | none => exact (log hp).elim
  | some name =>
    cases args with
    | none => rfl
    | some args =>
      change (.ok () { p with log := p.log ++ [(level, ⟨fmt, args⟩)] } :
        EStateM.Result Fault Process Unit) = _
      rw [← hp]

theorem says_log (level : ℤ) (fmt : CStr) (args : List Arg) (t : Table) :
    Says b L v (zabbix_log L v level fmt (some args)) t () t [(level, ⟨fmt, args⟩)] := by
  rintro p linked rfl
  rw [log_run level fmt (some args) linked]
  by_cases passed : b.passes L v level = true
  · simp [Binary.heard, passed]
  · simp [Binary.heard, passed]

/-- A branch that reports and fails. -/
theorem says_refusal {fmt : CStr} {args : List Arg} (a : α) (t : Table)
    (rest : List Message) :
    Says b L v (zabbix_log L v L.LOG_LEVEL_ERR fmt (some args) >>= fun _ => pure a) t a t
      (firstError L (⟨fmt, args⟩ :: rest)) :=
  says_bind (says_log L.LOG_LEVEL_ERR fmt args t) (says_pure a t)

theorem says_add {name query : CStr} {t t' : Table}
    (h : NamedQueries.add_named_query t name query = some t') :
    Says b L v (add_named_query name query) t () t' [] := by
  rintro p - rfl
  change (match NamedQueries.add_named_query p.table name query with
    | none => throw .tableAccess
    | some t => set { p with table := t } : Start Unit) p = _
  rw [h]
  simp only [Binary.heard, List.filter_nil, List.append_nil]
  rfl

theorem says_members (members : List Setting) (t t' : Table) (code : ExitCode)
    (h : NamedQueries.read_config_members members t = some (code, t')) :
    Says b L v (read_config_members L v members) t code t'
      (firstError L (memberComplaints members)) := by
  induction members generalizing t with
  | nil =>
    obtain ⟨rfl, rfl⟩ : ExitCode.EXIT_SUCCESS = code ∧ t = t' := by
      simpa [NamedQueries.read_config_members] using h
    exact says_pure _ t
  | cons m members ih =>
    obtain ⟨key, value⟩ := m
    cases value with
    | string text =>
      obtain ⟨t₁, added, rest⟩ := Option.bind_eq_some_iff.mp h
      exact says_bind (says_add added) (ih t₁ rest)
    | group _ | other =>
      obtain ⟨rfl, rfl⟩ : ExitCode.EXIT_FAILURE = code ∧ t = t' := by
        simpa [NamedQueries.read_config_members] using h
      exact says_refusal _ t (memberComplaints members)

theorem says_queries (root : ConfigValue) (t t' : Table) (code : ExitCode)
    (h : NamedQueries.read_config_queries root t = some (code, t')) :
    Says b L v (read_config_queries L v root) t code t'
      (firstError L (complaints ("queries".toList, root))) := by
  cases root with
  | group members =>
    exact says_bind (says_modify (fun t => { t with
      query_count := members.length
      query_keys := List.replicate (members.length + 1) none
      query_values := List.replicate (members.length + 1) none }) t)
      (says_members members _ t' code h)
  | string _ | other =>
    obtain ⟨rfl, rfl⟩ : ExitCode.EXIT_FAILURE = code ∧ t = t' := by
      simpa [NamedQueries.read_config_queries] using h
    exact says_refusal _ t []

theorem complaints_queries {members : List Setting} :
    complaints ("queries".toList, .group members) = memberComplaints members := rfl

/-- The table is loaded, or refused, whatever the settings are. -/
theorem read_config_queries_total (root : ConfigValue) (t : Table) :
    ∃ code t', NamedQueries.read_config_queries root t = some (code, t') ∧
      (code = .EXIT_SUCCESS ↔ complaints ("queries".toList, root) = []) := by
  cases root with
  | group members =>
    obtain ⟨code, t', run, success, -⟩ :=
      read_config_members_loads members.length members [] t.stores List.Pairwise.nil (by simp)
    refine ⟨code, t', by rw [NamedQueries.read_config_queries, ← run, ← calloc_tableOf], ?_⟩
    rw [success, complaints_queries, memberComplaints, List.map_eq_nil_iff,
      List.filter_eq_nil_iff]
    simp
  | string _ | other =>
    exact ⟨.EXIT_FAILURE, t, rfl, by simp [complaints]⟩

theorem says_root (root : List Setting) (t : Table) :
    ∃ code t', NamedQueries.read_config_root root t = some (code, t') ∧
      (code = .EXIT_SUCCESS ↔ root.flatMap complaints = []) ∧
      Says b L v (read_config_root L v root) t code t'
        (firstError L (root.flatMap complaints)) := by
  induction root generalizing t with
  | nil => exact ⟨.EXIT_SUCCESS, t, rfl, by simp, says_pure _ t⟩
  | cons s rest ih =>
    obtain ⟨key, node⟩ := s
    rw [NamedQueries.read_config_root, read_config_root, List.flatMap_cons]
    by_cases hk : key = "queries".toList
    · rw [if_pos ((queries_key_iff key).mpr hk), if_pos ((queries_key_iff key).mpr hk)]
      subst hk
      obtain ⟨code, t₁, run, success⟩ := read_config_queries_total node t
      have first := says_queries (b := b) (L := L) (v := v) node t t₁ code run
      rw [run, Option.bind_some]
      by_cases hc : code = .EXIT_SUCCESS
      · obtain ⟨code', t', run', success', said⟩ := ih t₁
        refine ⟨code', t', by simpa [hc] using run', ?_, ?_⟩
        · rw [success', success.mp hc, List.nil_append]
        · rw [success.mp hc] at first ⊢
          have joined := says_bind first (f := fun code => if code ≠ .EXIT_SUCCESS then
            pure .EXIT_FAILURE else read_config_root L v rest) (by
              rw [if_neg (not_not_intro hc)]
              exact said)
          exact joined
      · obtain ⟨m, ms, found⟩ := List.exists_cons_of_ne_nil (fun h => hc (success.mpr h))
        refine ⟨.EXIT_FAILURE, t₁, by simp [hc], by rw [found]; simp, ?_⟩
        rw [found] at first ⊢
        have stopped : Says b L v (if code ≠ .EXIT_SUCCESS then pure .EXIT_FAILURE
            else read_config_root L v rest) t₁ .EXIT_FAILURE t₁ [] := by
          rw [if_pos hc]
          exact says_pure _ t₁
        exact says_bind first stopped
    · have other : ¬ 0 = strncmp key "queries".toList 8 := fun h =>
        hk ((queries_key_iff key).mp h)
      rw [if_neg other, if_neg other]
      have complaint : complaints (key, node) = [⟨"unrecognised configuration parameter: %s".toList,
          [.string key]⟩] := by
        rw [complaints, if_neg hk]
      rw [complaint]
      exact ⟨.EXIT_FAILURE, t, rfl, by simp, says_refusal _ t (rest.flatMap complaints)⟩

/-- What `NamedQueries` is given for a parser, which never reads a path that is `NULL`. -/
def settingsAt (config_read_file : Parser) (path : Option CStr) : Option (List Setting) :=
  path.bind fun path => (config_read_file path).toOption

theorem says_config (config_read_file : Parser) (path : CStr) (t : Table) :
    ∃ code t', NamedQueries.read_config (settingsAt config_read_file) (some path) t =
        some (code, t') ∧
      (code = .EXIT_SUCCESS ↔ objections path (config_read_file path) = []) ∧
      Says b L v (read_config L v config_read_file (some path)) t code t'
        (firstError L (objections path (config_read_file path))) := by
  rw [NamedQueries.read_config, read_config, settingsAt, Option.bind_some]
  cases config_read_file path with
  | error e => exact ⟨.EXIT_FAILURE, t, rfl, by simp [objections], says_refusal _ t []⟩
  | ok root => exact says_root root t

theorem says_path {env : Option CStr} (fits : overlong env = false) (t : Table) :
    Says b L v (getPGCONFIGFILE L v env) t (some (configPath env)) t [] := by
  cases env with
  | none => exact says_pure _ t
  | some path =>
    rw [getPGCONFIGFILE, if_neg (by simpa [overlong] using fits)]
    exact says_pure _ t

/-- The loading with its log does what it does without one, and reports what it found. -/
theorem says_init_config {env : Option CStr} (fits : overlong env = false)
    (config_read_file : Parser) (t : Table) :
    ∃ status t', NamedQueries.init_config env (settingsAt config_read_file) t =
        some (status, t') ∧
      (status = .ZBX_MODULE_OK ↔
        objections (configPath env) (config_read_file (configPath env)) = []) ∧
      Says b L v (init_config L v env config_read_file) t status t'
        (report L env config_read_file) := by
  obtain ⟨code, t', run, success, said⟩ := says_config (b := b) (L := L) (v := v)
    config_read_file (configPath env) t
  have concluded : Says b L v (conclude code) t' (if code ≠ .EXIT_SUCCESS then
      ModuleStatus.ZBX_MODULE_FAIL else ModuleStatus.ZBX_MODULE_OK) t' [] := by
    unfold conclude
    split <;> exact says_pure _ t'
  have loaded := says_bind said concluded
  rw [List.append_nil] at loaded
  have logged := says_bind (f := fun _ => read_config L v config_read_file
    (some (configPath env)) >>= conclude) (says_log L.LOG_LEVEL_INFORMATION
    "using module configuration file: %s".toList [.string (configPath env)] t) loaded
  refine ⟨if code ≠ .EXIT_SUCCESS then .ZBX_MODULE_FAIL else .ZBX_MODULE_OK, t', ?_, ?_, ?_⟩
  · rw [NamedQueries.init_config, path_fits fits, run, Option.map_some]
    by_cases hc : code = .EXIT_SUCCESS
    · simp [hc]
    · simp [hc]
  · rw [← success]
    by_cases hc : code = .EXIT_SUCCESS
    · simp [hc]
    · simp [hc]
  · rw [init_config, report, if_neg (c := overlong env = true) (by simp [fits])]
    exact says_bind (says_path fits t) logged

/-- A path that is too long is `NULL` from there on, and the next to read it goes through
    it: the line that names the file, or, where that is not let through, the parser. -/
theorem init_config_overlong {env : Option CStr} (long : overlong env = true)
    (config_read_file : Parser) {p : Process} (linked : Linked b p) :
    init_config L v env config_read_file p =
      .error .nullString { p with
        log := p.log ++ b.heard L v (report L env config_read_file) } := by
  have path : getPGCONFIGFILE L v env p =
      .ok none { p with log := p.log ++ b.heard L v [tooLong L] } := by
    cases env with
    | none => cases long
    | some path =>
      rw [getPGCONFIGFILE, if_pos (by simpa [overlong] using long)]
      exact says_refusal none p.table [] p linked rfl
  rw [report, if_pos long]
  change EStateM.bind (getPGCONFIGFILE L v env) _ p = _
  rw [EStateM.bind, path]
  generalize hq : ({ p with log := p.log ++ b.heard L v [tooLong L] } : Process) = q
  have reached : Linked b q := hq ▸ ⟨linked.check, linked.level, linked.log⟩
  change EStateM.bind (zabbix_log L v L.LOG_LEVEL_INFORMATION _ none) _ q = _
  rw [EStateM.bind, log_run _ _ _ reached]
  by_cases passed : b.passes L v L.LOG_LEVEL_INFORMATION = true
  · rw [if_pos passed]
  · rw [if_neg passed]
    rfl

end Saying

def Binary.usable (b : Binary) : Bool :=
  b.dlopen && b.exports .__zbx_zabbix_log &&
    (b.exports .zbx_snprintf || b.exports .__zbx_zbx_snprintf)

/-- What a start says in the agent's log. -/
def startReport (b : Binary) (L : Levels) (env : Option CStr) (config_read_file : Parser) :
    List (ℤ × Message) :=
  if b.usable = true then report L env config_read_file
  else if b.dlopen = true ∧ b.exports .__zbx_zabbix_log = true then
    [(L.LOG_LEVEL_ERR, ⟨"failed to find zbx_snprintf() or __zbx_zbx_snprintf(): %s".toList,
      [.string (b.dlerror (some .__zbx_zbx_snprintf))]⟩)]
  else []

theorem startReport_usable {b : Binary} {L : Levels} {env : Option CStr}
    {config_read_file : Parser} (usable : b.usable = true) :
    startReport b L env config_read_file = report L env config_read_file := if_pos usable

theorem wp_find_log_level (b : Binary) (p : Process) :
    wp (find_log_level b) (fun _ q => ∃ out, q = { p with
      real_zabbix_check_log_level := b.dlsym .zabbix_check_log_level
      real_zbx_log_level := b.dlsym .zbx_log_level
      printed := out }) (fun _ _ => False) p := by
  rw [find_log_level, wp_bind, wp_modify]
  exact wp_ite (fun _ => ⟨_, rfl⟩) (fun _ => ⟨_, rfl⟩)

theorem wp_misses_snprintf (b : Binary) (p : Process) :
    wp (misses_snprintf b) (fun missing q =>
      (missing = false ↔ b.exports .zbx_snprintf = true ∨ b.exports .__zbx_zbx_snprintf = true) ∧
      ∃ found, (missing = false → found ≠ none) ∧ q = { p with zbx_snprintf := found })
      (fun _ _ => False) p := by
  rw [misses_snprintf, wp_bind, wp_modify]
  refine wp_ite (fun absent => ?_) (fun present => ?_)
  · rw [wp_bind, wp_modify]
    have unexported : ¬ b.exports .zbx_snprintf = true := fun h =>
      (dlsym_ne_none .zbx_snprintf).mpr h absent
    refine ⟨?_, _, ?_, rfl⟩
    · rw [decide_eq_false_iff_not, ← ne_eq, dlsym_ne_none]
      simp [unexported]
    · rw [decide_eq_false_iff_not]
      exact id
  · have exported := (dlsym_ne_none .zbx_snprintf).mp present
    exact ⟨by simp [exported], _, fun _ => present, rfl⟩

structure Started (b : Binary) (L : Levels) (v : Verbosity) (env : Option CStr)
    (config_read_file : Parser) (status : ModuleStatus) (p : Process) : Prop where
  fits : ¬ (b.usable = true ∧ overlong env = true)
  accepted : status = .ZBX_MODULE_OK ↔ b.usable = true ∧
    objections (configPath env) (config_read_file (configPath env)) = []
  reported : p.log = b.heard L v (startReport b L env config_read_file)
  loaded : b.usable = true → NamedQueries.init_config env (settingsAt config_read_file)
    Table.initial = some (status, p.table)
  handles : p.handles = if b.dlopen = true ∧ b.exports .__zbx_zabbix_log = false then 1 else 0
  ready : status = .ZBX_MODULE_OK → p.zbx_snprintf ≠ none ∧ Linked b p

theorem started_unusable {b : Binary} {L : Levels} {v : Verbosity} {env : Option CStr}
    {config_read_file : Parser} {p : Process} (unusable : b.usable = false)
    (reported : p.log = b.heard L v (startReport b L env config_read_file))
    (handles : p.handles =
      if b.dlopen = true ∧ b.exports .__zbx_zabbix_log = false then 1 else 0) :
    Started b L v env config_read_file .ZBX_MODULE_FAIL p where
  fits := by simp [unusable]
  accepted := by simp [unusable]
  reported := reported
  loaded := by simp [unusable]
  handles := handles
  ready := by simp

theorem wp_module_init (b : Binary) (L : Levels) (v : Verbosity) (env : Option CStr)
    (config_read_file : Parser) :
    wp (zbx_module_init b L v env config_read_file) (Started b L v env config_read_file)
      (fun e p => e = .nullString ∧ b.usable = true ∧ overlong env = true ∧
        p.log = b.heard L v (startReport b L env config_read_file)) Process.initial := by
  rw [zbx_module_init, fprintf, wp_bind, wp_modify]
  refine wp_ite (fun closed => ?_) (fun opened => ?_)
  · -- the binary could not be opened
    have unusable : b.usable = false := by simp [Binary.usable, closed]
    rw [fprintf, wp_bind, wp_modify, wp_pure]
    refine started_unusable unusable ?_ (by simp [closed, Process.initial])
    simp [unusable, startReport, closed, Process.initial, Binary.heard]
  rw [Bool.not_eq_false] at opened
  rw [wp_bind, wp_modify]
  refine wp_seq (wp_find_log_level b _) ?_
  rintro - p ⟨out, rfl⟩
  rw [wp_bind, wp_modify]
  refine wp_ite (fun absent => ?_) (fun logs => ?_)
  · -- there is no log in it
    have unexported : b.exports .__zbx_zabbix_log = false := by
      rw [← Bool.not_eq_true, ← dlsym_ne_none]
      exact not_not_intro absent
    have unusable : b.usable = false := by simp [Binary.usable, unexported]
    rw [fprintf, wp_bind, wp_modify, wp_pure]
    refine started_unusable unusable ?_ (by simp [opened, unexported, Process.initial])
    simp [unusable, startReport, unexported, Process.initial, Binary.heard]
  have exported := (dlsym_ne_none .__zbx_zabbix_log).mp logs
  refine wp_seq (wp_misses_snprintf b _) ?_
  rintro missing p ⟨known, name, nonnull, rfl⟩
  refine wp_ite (fun absent => ?_) (fun present => ?_)
  · -- there is no zbx_snprintf in it
    have unusable : b.usable = false := by
      have unfound := mt known.mpr (by simp [absent])
      rw [← Bool.not_eq_true]
      simpa [Binary.usable, opened, exported] using unfound
    refine wp_after (says_log _ _ _ Table.initial _ ⟨rfl, rfl, logs⟩ rfl) ?_
    rw [dlclose, wp_bind, wp_modify, wp_pure]
    refine started_unusable unusable ?_ (by simp [exported, Process.initial])
    simp [unusable, startReport, opened, exported, Process.initial]
  · -- everything is there, and the file decides
    rw [Bool.not_eq_true] at present
    have usable : b.usable = true := by
      simpa [Binary.usable, opened, exported] using known.mp present
    rw [dlclose, wp_bind, wp_modify]
    by_cases long : overlong env = true
    · refine wp_fault (init_config_overlong long config_read_file ⟨rfl, rfl, logs⟩) ?_
      exact ⟨rfl, usable, long, congrArg (b.heard L v) (startReport_usable usable).symm⟩
    · rw [Bool.not_eq_true] at long
      obtain ⟨status, t, run, success, said⟩ := says_init_config (b := b) (L := L) (v := v) long
        config_read_file Table.initial
      refine wp_run (said _ ⟨rfl, rfl, logs⟩ rfl) ?_
      refine ⟨by simp [long], by rw [success, usable, eq_self, true_and], ?_, fun _ => run,
        by simp [exported, Process.initial], fun _ => ⟨nonnull present, rfl, rfl, logs⟩⟩
      exact congrArg (b.heard L v) (startReport_usable usable).symm

/-- A start goes through a null pointer exactly where the binary has what the module needs
    and `PGCONFIGFILE` is set to a path that is too long, of which it has reported that.
    Everywhere else it returns: it succeeds exactly where the binary has what the module
    needs and the file has nothing to object to; it reports the first objection and no other,
    and it keeps a handle on the binary exactly where it found no log in it. -/
theorem module_starts (b : Binary) (L : Levels) (v : Verbosity) (env : Option CStr)
    (config_read_file : Parser) :
    (b.usable = true ∧ overlong env = true → ∃ p,
      zbx_module_init b L v env config_read_file Process.initial = .error .nullString p ∧
        p.log = b.heard L v [tooLong L]) ∧
    (¬ (b.usable = true ∧ overlong env = true) → ∃ status p,
      zbx_module_init b L v env config_read_file Process.initial = .ok status p ∧
        (status = .ZBX_MODULE_OK ↔ b.usable = true ∧
          objections (configPath env) (config_read_file (configPath env)) = []) ∧
        p.log = b.heard L v (startReport b L env config_read_file) ∧
        (b.usable = true → NamedQueries.init_config env (settingsAt config_read_file)
          Table.initial = some (status, p.table)) ∧
        p.handles =
          (if b.dlopen = true ∧ b.exports .__zbx_zabbix_log = false then 1 else 0)) := by
  have starts := wp_module_init b L v env config_read_file
  unfold wp at starts
  cases run : zbx_module_init b L v env config_read_file Process.initial with
  | ok status p =>
    rw [run] at starts
    exact ⟨fun h => absurd h starts.fits,
      fun _ => ⟨status, p, rfl, starts.accepted, starts.reported, starts.loaded, starts.handles⟩⟩
  | error e p =>
    rw [run] at starts
    obtain ⟨rfl, usable, long, log⟩ := starts
    refine ⟨fun _ => ⟨p, rfl, ?_⟩, fun h => absurd ⟨usable, long⟩ h⟩
    rw [log, startReport_usable usable, report, if_pos long]

structure LogCall where
  verbosity : Verbosity
  level : ℤ
  fmt : CStr
  args : List Arg

def LogCall.run (L : Levels) (c : LogCall) : Start Unit :=
  zabbix_log L c.verbosity c.level c.fmt (some c.args)

def serve (L : Levels) (calls : List LogCall) : Start ExitCode := do
  calls.forM (LogCall.run L)
  zbx_module_uninit

def Binary.hears (b : Binary) (L : Levels) (calls : List LogCall) : List (ℤ × Message) :=
  (calls.filter fun c => b.passes L c.verbosity c.level).map fun c => (c.level, ⟨c.fmt, c.args⟩)

theorem calls_run {b : Binary} {L : Levels} (calls : List LogCall) {p : Process}
    (linked : Linked b p) : calls.forM (LogCall.run L) p =
      .ok () { p with log := p.log ++ b.hears L calls } := by
  induction calls generalizing p with
  | nil =>
    change EStateM.Result.ok () p = _
    simp [Binary.hears]
  | cons c calls ih =>
    have first : LogCall.run L c p = _ := says_log c.level c.fmt c.args p.table p linked rfl
    change EStateM.bind (LogCall.run L c) (fun _ => calls.forM (LogCall.run L)) p = _
    rw [EStateM.bind, first]
    have rest := ih (p := { p with
      log := p.log ++ b.heard L c.verbosity [(c.level, ⟨c.fmt, c.args⟩)] })
      ⟨linked.check, linked.level, linked.log⟩
    refine rest.trans ?_
    by_cases h : b.passes L c.verbosity c.level = true
    · simp [Binary.hears, Binary.heard, h]
    · simp [Binary.hears, Binary.heard, h]

/-- After a start that succeeded no call goes through a null pointer, in any number of
    calls and however the agent's log level changes between them: the lines that are let
    through are added to the log in their order, and nothing else changes. -/
theorem started_module_logs (b : Binary) (L : Levels) (v : Verbosity) (env : Option CStr)
    (config_read_file : Parser) (p : Process) (started : zbx_module_init b L v env
      config_read_file Process.initial = .ok .ZBX_MODULE_OK p) (calls : List LogCall) :
    p.zbx_snprintf ≠ none ∧ serve L calls p =
      .ok .EXIT_SUCCESS { p with log := p.log ++ b.hears L calls } := by
  obtain ⟨snprintf, linked⟩ :=
    (wp_ok (wp_module_init b L v env config_read_file) started).ready rfl
  refine ⟨snprintf, ?_⟩
  change EStateM.bind (calls.forM (LogCall.run L)) (fun _ => zbx_module_uninit) p = _
  rw [EStateM.bind, calls_run calls linked]
  rfl

/-- The binary exports everything, the file has one query and the agent hears one of two
    lines. -/
theorem started_module_logs_once :
    ∃ p, zbx_module_init ⟨true, fun _ => true, fun _ => []⟩ ⟨0, 2, 127⟩ ⟨fun _ => true, 3⟩ none
        (fun _ => .ok [("queries".toList, .group [("a".toList, .string "SELECT 1".toList)])])
        Process.initial = .ok .ZBX_MODULE_OK p ∧
      serve ⟨0, 2, 127⟩ [⟨⟨fun _ => true, 3⟩, 4, "In %s()".toList, [.string "PG_VERSION".toList]⟩,
          ⟨⟨fun _ => true, 4⟩, 4, "End of %s()".toList, [.string "PG_VERSION".toList]⟩] p =
        .ok .EXIT_SUCCESS { p with
          log := p.log ++ [(4, ⟨"End of %s()".toList, [.string "PG_VERSION".toList]⟩)] } := by
  obtain ⟨p, started⟩ : ∃ p,
      zbx_module_init ⟨true, fun _ => true, fun _ => []⟩ ⟨0, 2, 127⟩ ⟨fun _ => true, 3⟩ none
        (fun _ => .ok [("queries".toList, .group [("a".toList, .string "SELECT 1".toList)])])
        Process.initial = .ok .ZBX_MODULE_OK p := ⟨_, rfl⟩
  exact ⟨p, started, (started_module_logs _ _ _ _ _ p started _).2⟩

end LibZbxPgsql.ModuleStart
