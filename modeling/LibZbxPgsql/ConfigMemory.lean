import LibZbxPgsql.NamedQueryTable
import LibZbxPgsql.ParamMemory
import Mathlib.Data.List.Forall2

set_option autoImplicit false

/-! The functions of `pg_config.c` on a heap. libconfig keeps the settings it parsed in blocks
of its own until `config_destroy`; the table has copies. What runs here is compared with the
table of strings of `NamedQueries`. -/
namespace LibZbxPgsql.ConfigMemory
open StateFaultWp Heaps ParamMemory
open CStrings (CStr)
open StringBuffers (NUL)
open NamedQueries (Table ExitCode ModuleStatus)
open NamedQueryTable (tableOf isString)

/-- The characters up to the terminator. With as many rounds as the block has cells, the
    next character is outside it. -/
def readFrom (p : Addr) : ℕ → ℕ → Program Cell CStr
  | 0, _ => throw .access
  | rounds + 1, i => do
    match ← load p i with
    | .pointer _ => throw .access
    | .char c =>
      if c = NUL then return []
      else
        let rest ← readFrom p rounds (i + 1)
        return c :: rest

def string (p : Addr) : Program Cell CStr := do
  let cells ← block p
  readFrom p cells.length 0

/-- It reads both strings to their ends, where C stops at the first difference. -/
def strcmp (p q : Addr) : Program Cell ℤ := do
  let s ← string p
  let t ← string q
  return CStrings.strcmp s t

def strdup (A : Allocator Cell) (p : Addr) : Program Cell Addr := do
  let s ← string p
  ParamMemory.strdup A s

def zbx_calloc (A : Allocator Cell) (n : ℕ) : Program Cell Addr :=
  allocate A (List.replicate n (.pointer none))

/-- A setting's value as libconfig keeps it: what is text is an address. -/
inductive Node where
  | group (members : List (Addr × Node))
  | string (text : Addr)
  | other

abbrev Setting := Addr × Node

/-- `owned` are the blocks libconfig allocated for the settings. -/
structure config_t where
  root : List Setting
  owned : List Addr

structure Globals where
  query_keys : Option Addr
  query_values : Option Addr
  query_count : ℕ

def Globals.initial : Globals := ⟨none, none, 0⟩

def shifts (name : Addr) : Option Addr → Program Cell Bool
  | none => return true
  | some key => do
    let cmp ← strcmp name key
    return decide (0 > cmp)

/-- The `while` loop of `add_named_query`; its argument is the source's `i + 1`,
    and so is the index it returns. -/
def shift (query_keys query_values name : Addr) : ℕ → Program Cell ℕ
  | 0 => return 0
  | i + 1 => do
    let key ← loadPointer query_keys i
    if ← shifts name key then
      store query_keys (i + 1) (.pointer key)
      let value ← loadPointer query_values i
      store query_values (i + 1) (.pointer value)
      store query_keys i (.pointer none)
      store query_values i (.pointer none)
      shift query_keys query_values name i
    else return i + 1

def add_named_query (A : Allocator Cell) (query_keys query_values : Addr) (query_count : ℕ)
    (name query : Addr) : Program Cell Unit := do
  let i ← shift query_keys query_values name query_count
  let key ← strdup A name
  store query_keys i (.pointer (some key))
  let value ← strdup A query
  store query_values i (.pointer (some value))

def read_config_members (A : Allocator Cell) (query_keys query_values : Addr)
    (query_count : ℕ) : List Setting → Program Cell ExitCode
  | [] => return .EXIT_SUCCESS
  | (key, .string value) :: rest => do
    add_named_query A query_keys query_values query_count key value
    read_config_members A query_keys query_values query_count rest
  | (_, .group _) :: _ => return .EXIT_FAILURE
  | (_, .other) :: _ => return .EXIT_FAILURE

def read_config_queries (A : Allocator Cell) (root : Node) (g : Globals) :
    Program Cell (ExitCode × Globals) :=
  match root with
  | .group members => do
    let query_count := members.length
    let query_keys ← zbx_calloc A (query_count + 1)
    let query_values ← zbx_calloc A (query_count + 1)
    let code ← read_config_members A query_keys query_values query_count members
    return (code, ⟨some query_keys, some query_values, query_count⟩)
  | .string _ => return (.EXIT_FAILURE, g)
  | .other => return (.EXIT_FAILURE, g)

def read_config_root (A : Allocator Cell) : List Setting → Globals →
    Program Cell (ExitCode × Globals)
  | [], g => return (.EXIT_SUCCESS, g)
  | (key, node) :: rest, g => do
    let name ← string key
    if 0 = CStrings.strncmp name "queries".toList 8 then
      let (code, g) ← read_config_queries A node g
      if code ≠ .EXIT_SUCCESS then return (.EXIT_FAILURE, g)
      else read_config_root A rest g
    else return (.EXIT_FAILURE, g)

def config_destroy (cfg : config_t) : Program Cell Unit := cfg.owned.forM free

def read_parsed (A : Allocator Cell) (ok : Bool) (root : List Setting) (g : Globals) :
    Program Cell (ExitCode × Globals) :=
  if ok then read_config_root A root g else return (.EXIT_FAILURE, g)

def read_config (A : Allocator Cell)
    (config_read_file : Option CStr → Program Cell (Bool × config_t))
    (cfgfile : Option CStr) (g : Globals) : Program Cell (ExitCode × Globals) := do
  let (ok, cfg) ← config_read_file cfgfile
  let (res, g) ← read_parsed A ok cfg.root g
  config_destroy cfg
  return (res, g)

def init_config (A : Allocator Cell) (env : Option CStr)
    (config_read_file : Option CStr → Program Cell (Bool × config_t)) (g : Globals) :
    Program Cell (ModuleStatus × Globals) := do
  let (code, g) ← read_config A config_read_file (NamedQueries.getPGCONFIGFILE env) g
  return (if code ≠ .EXIT_SUCCESS then .ZBX_MODULE_FAIL else .ZBX_MODULE_OK, g)

def cell (array : Option Addr) (i : ℤ) : Program Cell (Option Addr) :=
  match array with
  | none => throw .access
  | some a => if i < 0 then throw .access else loadPointer a i.toNat

def search (g : Globals) (key : Addr) (bottom top : ℤ) : Program Cell (Option Addr) :=
  if bottom ≤ top then
    if NamedQueries.INT_MAX < bottom + top then throw .overflow
    else do
      let mid := (bottom + top) / 2
      match ← cell g.query_keys mid with
      | none => throw .access
      | some found =>
        let cmp ← strcmp found key
        if cmp = 0 then cell g.query_values mid
        else if cmp > 0 then search g key bottom (mid - 1)
        else search g key (mid + 1) top
  else return none
termination_by (top + 1 - bottom).toNat

def get_query_by_name (g : Globals) (key : Addr) : Program Cell (Option Addr) :=
  search g key 0 (g.query_count - 1)

def StringAt (h : Heap Cell) (p : Addr) (s : CStr) : Prop :=
  NUL ∉ s ∧ h.lookup p = some (stringBlock s)

theorem StringAt.frame {h h' : Heap Cell} {p : Addr} {s : CStr} (at_p : StringAt h p s)
    (same : h'.lookup p = h.lookup p) : StringAt h' p s := ⟨at_p.1, same.trans at_p.2⟩

theorem readFrom_ok {m : Memory Cell} {p : Addr} (done rest : CStr)
    (h : m.heap.lookup p = some (stringBlock (done ++ rest))) (proper : NUL ∉ rest) :
    readFrom p (rest.length + 1) done.length m = .ok rest m := by
  induction rest generalizing done with
  | nil =>
    have last : (stringBlock (done ++ []))[done.length]? = some (.char NUL) := by
      simp [stringBlock]
    rw [List.length_nil, readFrom]
    simp only [bind, EStateM.bind, load_ok h last]
    rfl
  | cons c rest ih =>
    rw [List.mem_cons, not_or] at proper
    have here : (stringBlock (done ++ c :: rest))[done.length]? = some (.char c) := by
      simp [stringBlock]
    have next := ih (done ++ [c]) (by simpa using h) proper.2
    have moved : (done ++ [c]).length = done.length + 1 := List.length_append
    rw [moved] at next
    rw [List.length_cons, readFrom]
    simp only [bind, EStateM.bind, load_ok h here]
    rw [if_neg (Ne.symm proper.1)]
    simp only [EStateM.bind, next]
    rfl

theorem string_ok {m : Memory Cell} {p : Addr} {s : CStr} (h : StringAt m.heap p s) :
    string p m = .ok s m := by
  have cells : (stringBlock s).length = s.length + 1 := by simp [stringBlock]
  simp only [string, bind, EStateM.bind, block_ok h.2, cells]
  exact readFrom_ok [] s h.2 h.1

theorem strcmp_ok {m : Memory Cell} {p q : Addr} {s t : CStr} (hp : StringAt m.heap p s)
    (hq : StringAt m.heap q t) : strcmp p q m = .ok (CStrings.strcmp s t) m := by
  simp only [strcmp, bind, EStateM.bind, string_ok hp, string_ok hq]
  rfl

/-- The string a cell of an array names, through one of the copies. -/
inductive Names (h : Heap Cell) (copies : List Addr) : Option Addr → Option CStr → Prop where
  | null : Names h copies none none
  | copy {p : Addr} {s : CStr} (owned : p ∈ copies) (text : StringAt h p s) :
      Names h copies (some p) (some s)

theorem Names.frame {h h' : Heap Cell} {copies copies' : List Addr} {p : Option Addr}
    {c : Option CStr} (names : Names h copies p c) (more : copies ⊆ copies')
    (same : ∀ x ∈ copies, h'.lookup x = h.lookup x) : Names h' copies' p c := by
  cases names with
  | null => exact .null
  | copy owned text => exact .copy (more owned) (text.frame (same _ owned))

def Column (h : Heap Cell) (copies : List Addr) (a : Addr) (cells : List (Option CStr)) : Prop :=
  ∃ ps : List (Option Addr), h.lookup a = some (ps.map .pointer) ∧
    List.Forall₂ (Names h copies) ps cells

theorem Column.frame {h h' : Heap Cell} {copies copies' : List Addr} {a : Addr}
    {cells : List (Option CStr)} (column : Column h copies a cells) (more : copies ⊆ copies')
    (here : h'.lookup a = h.lookup a) (same : ∀ x ∈ copies, h'.lookup x = h.lookup x) :
    Column h' copies' a cells := by
  obtain ⟨ps, array, named⟩ := column
  exact ⟨ps, here.trans array, named.imp fun _ _ names => names.frame more same⟩

theorem Column.load {m : Memory Cell} {copies : List Addr} {a : Addr}
    {cells : List (Option CStr)} (column : Column m.heap copies a cells) {i : ℕ}
    {c : Option CStr} (found : cells[i]? = some c) :
    ∃ p, loadPointer a i m = .ok p m ∧ Names m.heap copies p c := by
  obtain ⟨ps, array, named⟩ := column
  obtain ⟨inside, rfl⟩ := List.getElem?_eq_some_iff.mp found
  have bound : i < ps.length := named.length_eq ▸ inside
  refine ⟨ps[i], loadPointer_ok array ?_, ?_⟩
  · rw [List.getElem?_map, List.getElem?_eq_getElem bound, Option.map_some]
  · exact named.get bound inside

theorem forall₂_set {α β : Type} {R : α → β → Prop} {l : List α} {r : List β}
    (h : List.Forall₂ R l r) (i : ℕ) {a : α} {b : β} (new : R a b) :
    List.Forall₂ R (l.set i a) (r.set i b) := by
  induction h generalizing i with
  | nil => exact .nil
  | cons head tail ih =>
    cases i with
    | zero => exact .cons new tail
    | succ i => exact .cons head (ih i)

theorem Column.store {m : Memory Cell} {copies : List Addr} {a : Addr}
    {cells : List (Option CStr)} (column : Column m.heap copies a cells) (apart : a ∉ copies)
    {i : ℕ} (inside : i < cells.length) {p : Option Addr} {c : Option CStr}
    (names : Names m.heap copies p c) :
    wp (store a i (.pointer p))
      (fun _ t => Column t.heap copies a (cells.set i c) ∧ a ∈ t.heap ∧
        (∀ x, x ≠ a → t.heap.lookup x = m.heap.lookup x) ∧ t.freed = m.freed)
      (fun _ _ => False) m := by
  obtain ⟨ps, array, named⟩ := column
  have bound : i < (ps.map Cell.pointer).length := by
    rw [List.length_map, named.length_eq]
    exact inside
  have others : ∀ x, x ≠ a →
      (m.heap.insert a ((ps.map Cell.pointer).set i (.pointer p))).lookup x = m.heap.lookup x :=
    fun x hx => Finmap.lookup_insert_of_ne _ hx
  rw [wp, store_ok array bound]
  refine ⟨⟨ps.set i p, ?_, ?_⟩, Finmap.mem_of_lookup_eq_some (Finmap.lookup_insert _), others, rfl⟩
  · rw [Finmap.lookup_insert, List.map_set]
  · refine forall₂_set (named.imp fun _ _ old => old.frame (List.Subset.refl _) ?_) i
      (names.frame (List.Subset.refl _) ?_)
    all_goals exact fun x hx => others x fun same => apart (same ▸ hx)

/-- The two arrays hold the table, in blocks that are all that was added to `m₀`. -/
structure Stands (m₀ : Memory Cell) (keys values : Addr) (copies : List Addr) (t : Table)
    (m : Memory Cell) : Prop where
  keyColumn : Column m.heap copies keys t.query_keys
  valueColumn : Column m.heap copies values t.query_values
  apart : (keys :: values :: copies).Nodup
  fresh : ∀ x ∈ keys :: values :: copies, x ∉ m₀.heap
  live : ∀ x ∈ keys :: values :: copies, x ∈ m.heap
  frame : ∀ x, x ∉ keys :: values :: copies → m.heap.lookup x = m₀.heap.lookup x
  freed : m.freed = m₀.freed

section Stands
variable {m₀ m : Memory Cell} {keys values : Addr} {copies : List Addr} {t t' : Table}

theorem Stands.copies_apart (holds : Stands m₀ keys values copies t m) :
    keys ∉ copies ∧ values ∉ copies ∧ keys ≠ values := by
  obtain ⟨not_keys, rest⟩ := List.nodup_cons.mp holds.apart
  rw [List.mem_cons, not_or] at not_keys
  exact ⟨not_keys.2, (List.nodup_cons.mp rest).1, not_keys.1⟩

/-- What was in memory before the table still is. -/
theorem Stands.older (holds : Stands m₀ keys values copies t m) {p : Addr} {s : CStr}
    (text : StringAt m₀.heap p s) : StringAt m.heap p s := by
  refine text.frame (holds.frame p fun owned => holds.fresh p owned ?_)
  exact Finmap.mem_of_lookup_eq_some text.2

theorem live_stored {a : Addr} {m' : Memory Cell} {l : List Addr} (live : ∀ x ∈ l, x ∈ m.heap)
    (here : a ∈ m'.heap) (others : ∀ x, x ≠ a → m'.heap.lookup x = m.heap.lookup x) :
    ∀ x ∈ l, x ∈ m'.heap := by
  intro x hx
  by_cases same : x = a
  · exact same ▸ here
  · obtain ⟨b, hb⟩ := Finmap.mem_iff.mp (live x hx)
    exact Finmap.mem_of_lookup_eq_some ((others x same).trans hb)

theorem Stands.setKey (holds : Stands m₀ keys values copies t m) {i : ℕ} {p : Option Addr}
    {c : Option CStr} (names : Names m.heap copies p c) (set : t.setKey i c = some t') :
    wp (store keys i (.pointer p)) (fun _ m' => Stands m₀ keys values copies t' m')
      (fun _ _ => False) m := by
  obtain ⟨old, found, rfl⟩ := Option.map_eq_some_iff.mp set
  obtain ⟨keys_apart, values_apart, distinct⟩ := holds.copies_apart
  refine wp_post (holds.keyColumn.store keys_apart (List.getElem?_eq_some_iff.mp found).1 names) ?_
  rintro - m' ⟨column, here, others, freed⟩
  constructor
  · exact column
  · refine holds.valueColumn.frame (List.Subset.refl _) (others _ (Ne.symm distinct)) ?_
    exact fun x hx => others x fun same => keys_apart (same ▸ hx)
  · exact holds.apart
  · exact holds.fresh
  · exact live_stored holds.live here others
  · intro x hx
    rw [others x fun same => hx (same ▸ List.mem_cons_self)]
    exact holds.frame x hx
  · exact freed.trans holds.freed

theorem Stands.setValue (holds : Stands m₀ keys values copies t m) {i : ℕ} {p : Option Addr}
    {c : Option CStr} (names : Names m.heap copies p c) (set : t.setValue i c = some t') :
    wp (store values i (.pointer p)) (fun _ m' => Stands m₀ keys values copies t' m')
      (fun _ _ => False) m := by
  obtain ⟨old, found, rfl⟩ := Option.map_eq_some_iff.mp set
  obtain ⟨keys_apart, values_apart, distinct⟩ := holds.copies_apart
  refine wp_post
    (holds.valueColumn.store values_apart (List.getElem?_eq_some_iff.mp found).1 names) ?_
  rintro - m' ⟨column, here, others, freed⟩
  constructor
  · refine holds.keyColumn.frame (List.Subset.refl _) (others _ distinct) ?_
    exact fun x hx => others x fun same => values_apart (same ▸ hx)
  · exact column
  · exact holds.apart
  · exact holds.fresh
  · exact live_stored holds.live here others
  · intro x hx
    rw [others x fun same => hx (same ▸ List.mem_cons_of_mem _ List.mem_cons_self)]
    exact holds.frame x hx
  · exact freed.trans holds.freed

/-- A copy joins the blocks of the table before a cell names it. -/
theorem Stands.extend (holds : Stands m₀ keys values copies t m) {a : Addr} (new : a ∉ m.heap)
    (s : CStr) :
    Stands m₀ keys values (copies ++ [a]) t
      { m with heap := m.heap.insert a (stringBlock s) } := by
  have listed : keys :: values :: (copies ++ [a]) = (keys :: values :: copies) ++ [a] := rfl
  have owned_apart : ∀ x ∈ keys :: values :: copies, x ≠ a := by
    rintro x hx rfl
    exact new (holds.live x hx)
  have others : ∀ x, x ≠ a → (m.heap.insert a (stringBlock s)).lookup x = m.heap.lookup x :=
    fun x hx => Finmap.lookup_insert_of_ne _ hx
  have kept : ∀ x ∈ copies, (m.heap.insert a (stringBlock s)).lookup x = m.heap.lookup x :=
    fun x hx => others x (owned_apart x (by simp [hx]))
  constructor
  · exact holds.keyColumn.frame (List.subset_append_left _ _)
      (others _ (owned_apart _ (by simp))) kept
  · exact holds.valueColumn.frame (List.subset_append_left _ _)
      (others _ (owned_apart _ (by simp))) kept
  · rw [listed, ← List.concat_eq_append]
    exact holds.apart.concat fun hx => owned_apart a hx rfl
  · intro x hx
    rw [listed, List.mem_append, List.mem_singleton] at hx
    rcases hx with hx | rfl
    · exact holds.fresh x hx
    · intro old
      have absent : x ∉ keys :: values :: copies := fun hx => owned_apart x hx rfl
      obtain ⟨b, hb⟩ := Finmap.mem_iff.mp old
      exact new (Finmap.mem_of_lookup_eq_some ((holds.frame x absent).trans hb))
  · intro x hx
    rw [listed, List.mem_append, List.mem_singleton] at hx
    rw [Finmap.mem_insert]
    rcases hx with hx | rfl
    · exact .inr (holds.live x hx)
    · exact .inl rfl
  · intro x hx
    rw [listed, List.mem_append, List.mem_singleton, not_or] at hx
    rw [others x hx.2]
    exact holds.frame x hx.1
  · exact holds.freed

theorem Stands.strdup (A : Allocator Cell) (holds : Stands m₀ keys values copies t m) {p : Addr}
    {s : CStr} (text : StringAt m₀.heap p s) :
    wp (strdup A p)
      (fun a m' => Stands m₀ keys values (copies ++ [a]) t m' ∧
        Names m'.heap (copies ++ [a]) (some a) (some s))
      (fun _ _ => False) m := by
  rw [ConfigMemory.strdup]
  refine wp_after (string_ok (holds.older text)) ?_
  refine wp_post (wp_allocate A m _) ?_
  rintro a _ ⟨new, rfl⟩
  refine ⟨holds.extend new s, .copy (by simp) ⟨text.1, Finmap.lookup_insert _⟩⟩

theorem shifts_ok (holds : Stands m₀ keys values copies t m) {name : Addr} {s : CStr}
    (named : StringAt m₀.heap name s) {p : Option Addr} {c : Option CStr}
    (names : Names m.heap copies p c) :
    shifts name p m = .ok (NamedQueries.shifts s c) m := by
  cases names with
  | null => rfl
  | copy owned text =>
    simp only [shifts, bind, EStateM.bind, strcmp_ok (holds.older named) text]
    rfl

/-- The shifting loop does to the arrays what that of the model does to the table. -/
theorem shift_refines (holds : Stands m₀ keys values copies t m) {name : Addr} {s : CStr}
    (named : StringAt m₀.heap name s) {i j : ℕ} (run : NamedQueries.shift s i t = some (j, t')) :
    wp (shift keys values name i)
      (fun r m' => r = j ∧ Stands m₀ keys values copies t' m') (fun _ _ => False) m := by
  induction i generalizing t m with
  | zero =>
    cases run
    exact ⟨rfl, holds⟩
  | succ i ih =>
    rw [NamedQueries.shift] at run
    obtain ⟨key, readKey, run⟩ := Option.bind_eq_some_iff.mp run
    obtain ⟨p, loaded, names⟩ := holds.keyColumn.load readKey
    rw [shift]
    refine wp_after loaded (wp_after (shifts_ok holds named names) ?_)
    by_cases moves : NamedQueries.shifts s key = true
    · rw [if_pos moves] at run
      obtain ⟨t₁, set₁, run⟩ := Option.bind_eq_some_iff.mp run
      obtain ⟨value, readValue, run⟩ := Option.bind_eq_some_iff.mp run
      obtain ⟨t₂, set₂, run⟩ := Option.bind_eq_some_iff.mp run
      obtain ⟨t₃, set₃, run⟩ := Option.bind_eq_some_iff.mp run
      obtain ⟨t₄, set₄, run⟩ := Option.bind_eq_some_iff.mp run
      simp only [moves, if_true]
      refine wp_seq (holds.setKey names set₁) fun _ m₁ holds₁ => ?_
      obtain ⟨q, loaded, names⟩ := holds₁.valueColumn.load readValue
      refine wp_after loaded ?_
      refine wp_seq (holds₁.setValue names set₂) fun _ m₂ holds₂ => ?_
      refine wp_seq (holds₂.setKey .null set₃) fun _ m₃ holds₃ => ?_
      refine wp_seq (holds₃.setValue .null set₄) fun _ m₄ holds₄ => ?_
      exact ih holds₄ run
    · rw [if_neg moves] at run
      cases run
      simp only [moves]
      exact ⟨rfl, holds⟩

theorem add_named_query_refines (A : Allocator Cell)
    (holds : Stands m₀ keys values copies t m) {name query : Addr} {s text : CStr}
    (named : StringAt m₀.heap name s) (reads : StringAt m₀.heap query text)
    (run : NamedQueries.add_named_query t s text = some t') :
    wp (add_named_query A keys values t.query_count name query)
      (fun _ m' => ∃ a b, Stands m₀ keys values (copies ++ [a, b]) t' m')
      (fun _ _ => False) m := by
  obtain ⟨⟨i, t₁⟩, shifted, run⟩ := Option.bind_eq_some_iff.mp run
  obtain ⟨t₂, set₂, set₃⟩ := Option.bind_eq_some_iff.mp run
  rw [add_named_query]
  refine wp_seq (shift_refines holds named shifted) ?_
  rintro _ m₁ ⟨rfl, holds₁⟩
  refine wp_seq (holds₁.strdup A named) ?_
  rintro a m₂ ⟨holds₂, copied⟩
  refine wp_seq (holds₂.setKey copied set₂) ?_
  intro _ m₃ holds₃
  refine wp_seq (holds₃.strdup A reads) ?_
  rintro b m₄ ⟨holds₄, copied⟩
  refine wp_post (holds₄.setValue copied set₃) ?_
  intro _ m₅ holds₅
  exact ⟨a, b, by simpa using holds₅⟩

end Stands

def MemberAt (h : Heap Cell) : Node → NamedQueries.ConfigValue → Prop
  | .string p, .string s => StringAt h p s
  | .group _, .group _ => True
  | .other, .other => True
  | _, _ => False

def SettingAt (h : Heap Cell) (value : Node → NamedQueries.ConfigValue → Prop) (n : Setting)
    (s : NamedQueries.Setting) : Prop :=
  StringAt h n.1 s.1 ∧ value n.2 s.2

def RootAt (h : Heap Cell) : Node → NamedQueries.ConfigValue → Prop
  | .group nodes, .group members => List.Forall₂ (SettingAt h (MemberAt h)) nodes members
  | .string _, .string _ => True
  | .other, .other => True
  | _, _ => False

/-- The members that are copied: those before the first that is no string. -/
def copied (members : List NamedQueries.Setting) : List NamedQueries.Setting :=
  members.takeWhile fun s => isString s.2

def tableBlocks : List NamedQueries.Setting → ℕ
  | (key, .group members) :: _ =>
    if key = "queries".toList then 2 + 2 * (copied members).length else 0
  | _ => 0

theorem read_config_members_refines (A : Allocator Cell) {m₀ m : Memory Cell}
    {keys values : Addr} {copies : List Addr} {n : ℕ} {l : List NamedQueryTable.Entry}
    {stores : List NamedQueries.Store} {nodes : List Setting}
    {members : List NamedQueries.Setting} {code : ExitCode} {t' : Table}
    (holds : Stands m₀ keys values copies (tableOf n l stores) m)
    (settings : List.Forall₂ (SettingAt m₀.heap (MemberAt m₀.heap)) nodes members)
    (sorted : SortedTable.Sorted l) (room : l.length + members.length ≤ n)
    (run : NamedQueries.read_config_members members (tableOf n l stores) = some (code, t')) :
    wp (read_config_members A keys values n nodes)
      (fun c m' => c = code ∧ t'.query_count = n ∧ ∃ more,
        Stands m₀ keys values (copies ++ more) t' m' ∧
          more.length = 2 * (copied members).length)
      (fun _ _ => False) m := by
  induction settings generalizing m l stores copies with
  | nil =>
    cases run
    exact ⟨rfl, rfl, [], by simpa using holds, rfl⟩
  | @cons node s nodes members here rest ih =>
    obtain ⟨p, node⟩ := node
    obtain ⟨key, value⟩ := s
    obtain ⟨named, is_value⟩ := here
    rw [List.length_cons] at room
    cases value with
    | string text =>
      cases node with
      | string q =>
        obtain ⟨added, -, insert⟩ :=
          NamedQueryTable.add_named_query_inserts n l stores key text sorted (by omega)
        rw [NamedQueries.read_config_members, insert, Option.bind_some] at run
        rw [read_config_members]
        refine wp_seq (add_named_query_refines A holds named is_value insert) ?_
        rintro - m₁ ⟨a, b, holds₁⟩
        refine wp_post (ih holds₁ (SortedTable.insertEntry_sorted _ sorted)
          (by rw [SortedTable.insertEntry_length]; omega) run) ?_
        rintro c m' ⟨same, count, more, holds', length⟩
        refine ⟨same, count, a :: b :: more, by simpa using holds', ?_⟩
        rw [copied] at length
        simp only [List.length_cons, length, copied, List.takeWhile_cons, isString, if_true]
        omega
      | group _ | other => exact is_value.elim
    | group _ =>
      cases run
      cases node with
      | group _ => exact ⟨rfl, rfl, [], by simpa using holds, by simp [copied, isString]⟩
      | string _ | other => exact is_value.elim
    | other =>
      cases run
      cases node with
      | other => exact ⟨rfl, rfl, [], by simpa using holds, by simp [copied, isString]⟩
      | string _ | group _ => exact is_value.elim

inductive Kept (m₀ m : Memory Cell) : Globals → Table → List Addr → Prop where
  | empty (same : m = m₀) : Kept m₀ m .initial .initial []
  | arrays {keys values : Addr} {copies : List Addr} {t : Table}
      (holds : Stands m₀ keys values copies t m) :
      Kept m₀ m ⟨some keys, some values, t.query_count⟩ t (keys :: values :: copies)

/-- Two arrays of `NULL`. -/
theorem wp_callocs (A : Allocator Cell) (m : Memory Cell) (n : ℕ)
    (stores : List NamedQueries.Store) {β : Type} {f : Addr → Addr → Program Cell β}
    {Q : β → Memory Cell → Prop} {E : Fault → Memory Cell → Prop}
    (rest : ∀ keys values m', Stands m keys values [] (tableOf n [] stores) m' →
      wp (f keys values) Q E m') :
    wp (do
        let keys ← zbx_calloc A (n + 1)
        let values ← zbx_calloc A (n + 1)
        f keys values) Q E m := by
  refine wp_seq (wp_allocate A m _) ?_
  rintro keys _ ⟨new, rfl⟩
  refine wp_seq (wp_allocate A _ _) ?_
  rintro values _ ⟨new', rfl⟩
  rw [Finmap.mem_insert, not_or] at new'
  refine rest keys values _ ?_
  have named : ∀ h : Heap Cell, List.Forall₂ (Names h []) (List.replicate (n + 1) none)
      (NamedQueryTable.cells (n + 1) []) := by
    intro h
    rw [NamedQueryTable.cells, List.map_nil, List.nil_append, List.length_nil, Nat.sub_zero]
    exact List.forall₂_iff_get.mpr ⟨by simp, fun i _ _ => by simpa using .null⟩
  constructor
  · refine ⟨List.replicate (n + 1) none, ?_, named _⟩
    rw [Finmap.lookup_insert_of_ne _ (Ne.symm new'.1), Finmap.lookup_insert, List.map_replicate]
  · refine ⟨List.replicate (n + 1) none, ?_, named _⟩
    rw [Finmap.lookup_insert, List.map_replicate]
  · simpa using Ne.symm new'.1
  · intro x hx
    rw [List.mem_cons, List.mem_singleton] at hx
    rcases hx with rfl | rfl
    · exact new
    · exact new'.2
  · intro x hx
    rw [List.mem_cons, List.mem_singleton] at hx
    rw [Finmap.mem_insert, Finmap.mem_insert]
    tauto
  · intro x hx
    rw [List.mem_cons, List.mem_singleton, not_or] at hx
    rw [Finmap.lookup_insert_of_ne _ hx.2, Finmap.lookup_insert_of_ne _ hx.1]
  · rfl

theorem read_config_queries_refines (A : Allocator Cell) (m : Memory Cell) {nodes : List Setting}
    {members : List NamedQueries.Setting} {code : ExitCode} {t' : Table}
    (settings : List.Forall₂ (SettingAt m.heap (MemberAt m.heap)) nodes members)
    (run : NamedQueries.read_config_queries (.group members) .initial = some (code, t'))
    (g : Globals) :
    wp (read_config_queries A (.group nodes) g)
      (fun r m' => r.1 = code ∧ ∃ blocks, Kept m m' r.2 t' blocks ∧
        blocks.length = 2 + 2 * (copied members).length)
      (fun _ _ => False) m := by
  have same : nodes.length = members.length := settings.length_eq
  rw [NamedQueries.read_config_queries] at run
  change NamedQueries.read_config_members members
    { Table.initial with query_count := members.length,
                         query_keys := List.replicate (members.length + 1) none,
                         query_values := List.replicate (members.length + 1) none } = _ at run
  rw [NamedQueryTable.calloc_tableOf] at run
  rw [read_config_queries, same]
  refine wp_callocs A m members.length [] fun keys values m₁ holds => ?_
  refine wp_seq (read_config_members_refines A holds settings List.Pairwise.nil (by simp) run) ?_
  rintro c m' ⟨rfl, count, more, holds', length⟩
  refine ⟨rfl, keys :: values :: more, ?_, ?_⟩
  · rw [← count]
    exact .arrays holds'
  · simp only [List.length_cons, length]
    omega

/-- Names are still read once the table stands. -/
theorem Kept.older {m₀ m : Memory Cell} {g : Globals} {t : Table} {blocks : List Addr}
    (kept : Kept m₀ m g t blocks) {p : Addr} {s : CStr} (text : StringAt m₀.heap p s) :
    StringAt m.heap p s := by
  cases kept with
  | empty same => exact same ▸ text
  | arrays holds => exact holds.older text

theorem read_config_root_refines (A : Allocator Cell) (m : Memory Cell) {nodes : List Setting}
    {root : List NamedQueries.Setting} {code : ExitCode} {t : Table}
    (settings : List.Forall₂ (SettingAt m.heap (RootAt m.heap)) nodes root)
    (names : (root.map Prod.fst).Nodup)
    (run : NamedQueries.read_config_root root .initial = some (code, t)) :
    wp (read_config_root A nodes .initial)
      (fun r m' => r.1 = code ∧ ∃ blocks, Kept m m' r.2 t blocks ∧
        blocks.length = tableBlocks root)
      (fun _ _ => False) m := by
  have unread : Kept m m .initial .initial [] := .empty rfl
  cases settings with
  | nil =>
    cases run
    exact ⟨rfl, [], unread, rfl⟩
  | @cons node s nodes root here rest =>
    obtain ⟨p, node⟩ := node
    obtain ⟨key, value⟩ := s
    obtain ⟨named, is_value⟩ := here
    rw [NamedQueries.read_config_root] at run
    rw [read_config_root]
    refine wp_after (string_ok named) ?_
    by_cases hk : key = "queries".toList
    · have queries := (NamedQueryTable.queries_key_iff key).mpr hk
      rw [if_pos queries] at run ⊢
      cases value with
      | string _ =>
        cases run
        cases node with
        | string _ => exact ⟨rfl, [], unread, rfl⟩
        | group _ | other => exact is_value.elim
      | other =>
        cases run
        cases node with
        | other => exact ⟨rfl, [], unread, rfl⟩
        | string _ | group _ => exact is_value.elim
      | group members =>
        cases node with
        | string _ | other => exact is_value.elim
        | group members' =>
          obtain ⟨⟨code₁, t₁⟩, first, run⟩ := Option.bind_eq_some_iff.mp run
          refine wp_seq (read_config_queries_refines A m is_value first .initial) ?_
          rintro ⟨c, g⟩ m₁ ⟨same, blocks, kept, length⟩
          have size : blocks.length = tableBlocks ((key, .group members) :: root) := by
            rw [length, tableBlocks, if_pos hk]
          simp only at same run kept ⊢
          rw [same]
          by_cases failed : code₁ ≠ .EXIT_SUCCESS
          · rw [if_pos failed] at run ⊢
            cases run
            exact ⟨rfl, blocks, kept, size⟩
          · rw [if_neg failed] at run ⊢
            cases rest with
            | nil =>
              cases run
              exact ⟨rfl, blocks, kept, size⟩
            | @cons node₂ s₂ nodes root here₂ rest₂ =>
              -- a second root setting has another name
              have other : ¬ 0 = CStrings.strncmp s₂.1 "queries".toList 8 := by
                rw [NamedQueryTable.queries_key_iff, ← hk]
                intro again
                simp [again] at names
              obtain ⟨key₂, value₂⟩ := s₂
              rw [NamedQueries.read_config_root, if_neg other] at run
              cases run
              obtain ⟨p₂, node₂⟩ := node₂
              rw [read_config_root]
              refine wp_after (string_ok (kept.older here₂.1)) ?_
              rw [if_neg other]
              exact ⟨rfl, blocks, kept, size⟩
    · have others := fun h => hk ((NamedQueryTable.queries_key_iff key).mp h)
      rw [if_neg others] at run ⊢
      cases run
      refine ⟨rfl, [], unread, ?_⟩
      cases value with
      | group members => rw [tableBlocks, if_neg hk, List.length_nil]
      | string _ | other => rfl

/-- What libconfig promises of reading a file: the settings are in new blocks, which
    `config_destroy` will find. -/
structure Parsed (m : Memory Cell) (file : Option (List NamedQueries.Setting)) (ok : Bool)
    (cfg : config_t) (m₁ : Memory Cell) : Prop where
  read : ok = file.isSome
  settings : ∀ root, file = some root →
    List.Forall₂ (SettingAt m₁.heap (RootAt m₁.heap)) cfg.root root
  distinct : cfg.owned.Nodup
  fresh : ∀ x ∈ cfg.owned, x ∉ m.heap
  live : ∀ x ∈ cfg.owned, x ∈ m₁.heap
  frame : ∀ x, x ∉ cfg.owned → m₁.heap.lookup x = m.heap.lookup x
  freed : m₁.freed = m.freed

/-- Nothing of the table is in the blocks that `config_destroy` releases. -/
theorem Kept.destroyed {m m₁ m₂ m₃ : Memory Cell} {file : Option (List NamedQueries.Setting)}
    {ok : Bool} {cfg : config_t} (parsed : Parsed m file ok cfg m₁) {g : Globals} {t : Table}
    {blocks : List Addr} (kept : Kept m₁ m₂ g t blocks)
    (freed : m₃.freed = m₂.freed ++ cfg.owned)
    (heap : ∀ x, m₃.heap.lookup x = if x ∈ cfg.owned then none else m₂.heap.lookup x) :
    Kept ⟨m.heap, m.freed ++ cfg.owned⟩ m₃ g t blocks := by
  have released : ∀ x, (if x ∈ cfg.owned then none else m₁.heap.lookup x) = m.heap.lookup x := by
    intro x
    split
    · next hx => exact (Finmap.lookup_eq_none.mpr (parsed.fresh x hx)).symm
    · next hx => exact parsed.frame x hx
  cases kept with
  | empty same =>
    refine .empty ?_
    obtain ⟨h₃, f₃⟩ := m₃
    rw [same, parsed.freed] at freed
    rw [← freed]
    congr 1
    refine Finmap.ext_lookup fun x => ?_
    rw [heap x, same, released]
  | @arrays keys values copies t holds =>
    have apart : ∀ x ∈ keys :: values :: copies, m₃.heap.lookup x = m₂.heap.lookup x := by
      intro x hx
      rw [heap x, if_neg fun owned => holds.fresh x hx (parsed.live x owned)]
    have copies_kept : ∀ x ∈ copies, m₃.heap.lookup x = m₂.heap.lookup x :=
      fun x hx => apart x (by simp [hx])
    refine .arrays ⟨?_, ?_, holds.apart, ?_, ?_, ?_, ?_⟩
    · exact holds.keyColumn.frame (List.Subset.refl _) (apart _ (by simp)) copies_kept
    · exact holds.valueColumn.frame (List.Subset.refl _) (apart _ (by simp)) copies_kept
    · intro x hx old
      have unowned : x ∉ cfg.owned := fun owned => parsed.fresh x owned old
      obtain ⟨b, hb⟩ := Finmap.mem_iff.mp old
      exact holds.fresh x hx (Finmap.mem_of_lookup_eq_some ((parsed.frame x unowned).trans hb))
    · intro x hx
      obtain ⟨b, hb⟩ := Finmap.mem_iff.mp (holds.live x hx)
      exact Finmap.mem_of_lookup_eq_some ((apart x hx).trans hb)
    · intro x hx
      rw [heap x, holds.frame x hx, released]
    · rw [freed, holds.freed, parsed.freed]

theorem cell_ok {m : Memory Cell} {copies : List Addr} {a : Addr} {cells : List (Option CStr)}
    (column : Column m.heap copies a cells) {i : ℤ} {c : Option CStr}
    (found : NamedQueries.readCell cells i = some c) :
    ∃ p, cell (some a) i m = .ok p m ∧ Names m.heap copies p c := by
  rw [NamedQueries.readCell] at found
  split at found
  · cases found
  · next inside =>
    obtain ⟨p, loaded, names⟩ := column.load found
    refine ⟨p, ?_, names⟩
    simp only [cell, if_neg inside]
    exact loaded

/-- The search of the arrays finds a pointer to what that of the model finds. -/
theorem search_refines {m : Memory Cell} {copies : List Addr} {keys values : Addr} {n : ℕ}
    {t : Table} (keyColumn : Column m.heap copies keys t.query_keys)
    (valueColumn : Column m.heap copies values t.query_values) {key : Addr} {s : CStr}
    (asked : StringAt m.heap key s) (bottom top : ℤ) {r : Option CStr}
    (run : (NamedQueries.search t s bottom top).2 = some r) :
    ∃ p, search ⟨some keys, some values, n⟩ key bottom top m = .ok p m ∧
      Names m.heap copies p r := by
  induction hm : (top + 1 - bottom).toNat using Nat.strong_induction_on
    generalizing bottom top with
  | _ k ih =>
    rw [NamedQueries.search] at run
    rw [search]
    by_cases active : bottom ≤ top
    · rw [if_pos active] at run ⊢
      by_cases past : NamedQueries.INT_MAX < bottom + top
      · rw [if_pos past] at run
        cases run
      · rw [if_neg past] at run ⊢
        simp only at run
        generalize hmid : (bottom + top) / 2 = mid at run ⊢
        cases read : NamedQueries.readCell t.query_keys mid with
        | none =>
          rw [read] at run
          cases run
        | some c =>
          rw [read] at run
          obtain ⟨p, loaded, names⟩ := cell_ok keyColumn read
          cases names with
          | null => cases run
          | copy owned text =>
            next found s' =>
            simp only at run
            simp only [bind, EStateM.bind, loaded, strcmp_ok text asked]
            by_cases equal : CStrings.strcmp s' s = 0
            · rw [if_pos equal] at run ⊢
              exact cell_ok valueColumn run
            · rw [if_neg equal] at run ⊢
              by_cases above : CStrings.strcmp s' s > 0
              · rw [if_pos above] at run ⊢
                exact ih _ (by omega) bottom (mid - 1) run rfl
              · rw [if_neg above] at run ⊢
                exact ih _ (by omega) (mid + 1) top run rfl
    · rw [if_neg active] at run ⊢
      cases run
      exact ⟨none, rfl, .null⟩

/-- The table answers from its own blocks, whatever else happens to the memory. -/
theorem Kept.looks_up {m₀ m m' : Memory Cell} {g : Globals} {t : Table} {blocks : List Addr}
    (kept : Kept m₀ m g t blocks)
    (untouched : ∀ x ∈ blocks, m'.heap.lookup x = m.heap.lookup x) {key : Addr} {s : CStr}
    (asked : StringAt m'.heap key s) {r : Option CStr}
    (run : NamedQueries.get_query_by_name t s = some r) :
    ∃ p, get_query_by_name g key m' = .ok p m' ∧ Names m'.heap blocks p r := by
  cases kept with
  | empty _ =>
    rw [NamedQueries.get_query_by_name, NamedQueries.search,
      if_neg (by simp [Table.initial])] at run
    cases run
    refine ⟨none, ?_, .null⟩
    rw [get_query_by_name, search, if_neg (by simp [Globals.initial])]
    rfl
  | @arrays keys values copies t holds =>
    have copies_kept : ∀ x ∈ copies, m'.heap.lookup x = m.heap.lookup x :=
      fun x hx => untouched x (by simp [hx])
    have keyColumn := holds.keyColumn.frame (List.Subset.refl _)
      (untouched keys (by simp)) copies_kept
    have valueColumn := holds.valueColumn.frame (List.Subset.refl _)
      (untouched values (by simp)) copies_kept
    obtain ⟨p, found, names⟩ :=
      search_refines (n := t.query_count) keyColumn valueColumn asked _ _ run
    refine ⟨p, found, names.frame (fun x hx => by simp [hx]) fun _ _ => rfl⟩

theorem Kept.blocks_facts {m₀ m : Memory Cell} {g : Globals} {t : Table} {blocks : List Addr}
    (kept : Kept m₀ m g t blocks) :
    m.freed = m₀.freed ∧ blocks.Nodup ∧ (∀ x ∈ blocks, x ∉ m₀.heap ∧ x ∈ m.heap) ∧
      ∀ x, x ∉ blocks → m.heap.lookup x = m₀.heap.lookup x := by
  cases kept with
  | empty same => exact ⟨same ▸ rfl, List.nodup_nil, by simp, fun _ _ => same ▸ rfl⟩
  | arrays holds =>
    exact ⟨holds.freed, holds.apart, fun x hx => ⟨holds.fresh x hx, holds.live x hx⟩, holds.frame⟩

theorem read_parsed_refines {A : Allocator Cell} {m m₁ : Memory Cell}
    {file : Option (List NamedQueries.Setting)} {ok : Bool} {cfg : config_t}
    (parsed : Parsed m file ok cfg m₁) {cfgfile : Option CStr} {code : ExitCode} {t : Table}
    (names : ∀ root, file = some root → (root.map Prod.fst).Nodup)
    (run : NamedQueries.read_config (fun _ => file) cfgfile .initial = some (code, t)) :
    wp (read_parsed A ok cfg.root .initial)
      (fun r m' => r.1 = code ∧ ∃ blocks, Kept m₁ m' r.2 t blocks ∧
        blocks.length = tableBlocks (file.getD []))
      (fun _ _ => False) m₁ := by
  rw [read_parsed, parsed.read]
  cases hf : file with
  | none =>
    rw [hf, NamedQueries.read_config] at run
    cases run
    exact ⟨rfl, [], .empty rfl, rfl⟩
  | some root =>
    rw [hf, NamedQueries.read_config] at run
    exact read_config_root_refines A m₁ (parsed.settings root hf) (names root hf) run

/-- The blocks of libconfig are gone when the module has started, each of them released
    once; the table has its own, and answers from them for as long as they are left
    alone. -/
theorem named_queries_outlive_file (A : Allocator Cell) (env : Option CStr)
    (config_read_file : Option CStr → Program Cell (Bool × config_t)) (m m₁ : Memory Cell)
    (file : Option (List NamedQueries.Setting)) (ok : Bool) (cfg : config_t)
    (run : config_read_file (NamedQueries.getPGCONFIGFILE env) m = .ok (ok, cfg) m₁)
    (parsed : Parsed m file ok cfg m₁)
    (promised : ∀ root, file = some root → NamedQueryTable.DistinctNames (.group root) ∧
      ∀ s ∈ root, ∀ members, s.2 = .group members → members.length < 2 ^ 30) :
    ∃ status g m₂ blocks,
      init_config A env config_read_file .initial m = .ok (status, g) m₂ ∧
      (status = .ZBX_MODULE_OK ↔
        ∃ root, file = some root ∧ ∀ s ∈ root, NamedQueryTable.IsQueries s) ∧
      m₂.freed = m.freed ++ cfg.owned ∧
      blocks.Nodup ∧ blocks.length = tableBlocks (file.getD []) ∧
      (∀ x ∈ blocks, x ∉ m.heap ∧ x ∈ m₂.heap) ∧
      (∀ x, x ∉ blocks → m₂.heap.lookup x = m.heap.lookup x) ∧
      (status = .ZBX_MODULE_OK → ∀ m₃ : Memory Cell,
        (∀ x ∈ blocks, m₃.heap.lookup x = m₂.heap.lookup x) →
        ∀ key name, StringAt m₃.heap key name →
          ∃ p, get_query_by_name g key m₃ = .ok p m₃ ∧
            Names m₃.heap blocks p (NamedQueryTable.configured (file.getD []) name)) := by
  have table : ∃ code t,
      NamedQueries.read_config (fun _ => file) (NamedQueries.getPGCONFIGFILE env) .initial =
        some (code, t) ∧
      (code = .EXIT_SUCCESS ↔
        ∃ root, file = some root ∧ ∀ s ∈ root, NamedQueryTable.IsQueries s) ∧
      (code = .EXIT_SUCCESS → NamedQueryTable.Resolves (file.getD []) t) := by
    cases file with
    | none => exact ⟨.EXIT_FAILURE, _, rfl, by simp, fun h => by cases h⟩
    | some root =>
      obtain ⟨distinct, size⟩ := promised root rfl
      obtain ⟨code, t, read, success, resolves⟩ :=
        NamedQueryTable.read_config_root_resolves root distinct size
      exact ⟨code, t, read, by simpa using success, resolves⟩
  obtain ⟨code, t, read, success, resolves⟩ := table
  have names : ∀ root, file = some root → (root.map Prod.fst).Nodup :=
    fun root h => (NamedQueryTable.distinctNames_group (promised root h).1).1
  obtain ⟨⟨c, g⟩, m', ran, same, blocks, kept, length⟩ :=
    wp_returns (read_parsed_refines (A := A) parsed names read)
  have owned_live : ∀ x ∈ cfg.owned, x ∈ m'.heap := by
    intro x hx
    obtain ⟨-, -, apart, frame⟩ := kept.blocks_facts
    have outside : x ∉ blocks := fun h => (apart x h).1 (parsed.live x hx)
    obtain ⟨b, hb⟩ := Finmap.mem_iff.mp (parsed.live x hx)
    exact Finmap.mem_of_lookup_eq_some ((frame x outside).trans hb)
  obtain ⟨m₂, destroyed, freed, heap⟩ := free_all_ok cfg.owned m' parsed.distinct owned_live
  have kept' := kept.destroyed parsed freed heap
  obtain ⟨freed', distinct, apart, frame⟩ := kept'.blocks_facts
  refine ⟨if c ≠ .EXIT_SUCCESS then .ZBX_MODULE_FAIL else .ZBX_MODULE_OK, g, m₂, blocks, ?_, ?_,
    freed', distinct, length, apart, frame, ?_⟩
  · simp only [init_config, read_config, config_destroy, bind, EStateM.bind, run, ran, destroyed]
    rfl
  · rw [← success, ← same]
    by_cases hc : c = .EXIT_SUCCESS <;> simp [hc]
  · intro accepted m₃ untouched key name asked
    have hc : code = .EXIT_SUCCESS := by
      rw [← same]
      by_contra failed
      rw [if_pos failed] at accepted
      cases accepted
    exact kept'.looks_up untouched asked (resolves hc name).1

def oneQuery : Program Cell (Bool × config_t) := do
  set (⟨((Finmap.insert 1 (stringBlock "queries".toList) ∅).insert 2
    (stringBlock "a".toList)).insert 3 (stringBlock "SELECT 1".toList), []⟩ : Memory Cell)
  return (true, ⟨[(1, .group [(2, .string 3)])], [1, 2, 3]⟩)

theorem named_queries_outlive_file_one :
    ∃ g m₂, init_config (bump (.char NUL)) none (fun _ => oneQuery) .initial ⟨∅, []⟩ =
        .ok (.ZBX_MODULE_OK, g) m₂ ∧
      m₂.freed = [1, 2, 3] ∧
      ∀ key, StringAt m₂.heap key "a".toList →
        ∃ p, get_query_by_name g key m₂ = .ok (some p) m₂ ∧
          StringAt m₂.heap p "SELECT 1".toList := by
  obtain ⟨status, g, m₂, blocks, run, accepted, freed, -, -, -, -, answers⟩ :=
    named_queries_outlive_file (bump (.char NUL)) none (fun _ => oneQuery) ⟨∅, []⟩ _
      (some [("queries".toList, .group [("a".toList, .string "SELECT 1".toList)])]) _ _ rfl
      { read := rfl
        settings := by
          rintro _ ⟨rfl⟩
          refine .cons ⟨⟨by decide, ?_⟩, .cons ⟨⟨by decide, ?_⟩, by decide, ?_⟩ .nil⟩ .nil
          · rw [Finmap.lookup_insert_of_ne _ (by decide), Finmap.lookup_insert_of_ne _ (by decide),
              Finmap.lookup_insert]
          · rw [Finmap.lookup_insert_of_ne _ (by decide), Finmap.lookup_insert]
          · rw [Finmap.lookup_insert]
        distinct := by decide
        fresh := fun _ _ => Finmap.notMem_empty
        live := by
          intro x hx
          simp only [List.mem_cons, List.not_mem_nil, or_false] at hx
          simp only [Finmap.mem_insert]
          tauto
        frame := by
          intro x hx
          simp only [List.mem_cons, List.not_mem_nil, or_false, not_or] at hx
          rw [Finmap.lookup_insert_of_ne _ hx.2.2, Finmap.lookup_insert_of_ne _ hx.2.1,
            Finmap.lookup_insert_of_ne _ hx.1]
        freed := rfl }
      (by
        rintro _ ⟨rfl⟩
        refine ⟨.group _ (by decide) ?_, ?_⟩
        · intro s hs
          rw [List.mem_singleton.mp hs]
          refine .group _ (by decide) fun s hs => ?_
          rw [List.mem_singleton.mp hs]
          exact .string _
        · intro s hs members h
          rw [List.mem_singleton.mp hs] at h
          cases h
          decide)
  have ok : status = .ZBX_MODULE_OK := by
    refine accepted.mpr ⟨_, rfl, ?_⟩
    intro s hs
    rw [List.mem_singleton.mp hs]
    refine ⟨rfl, _, rfl, fun s hs => ?_⟩
    rw [List.mem_singleton.mp hs]
    rfl
  rw [ok] at run
  refine ⟨g, m₂, run, freed, fun key asked => ?_⟩
  obtain ⟨p, found, names⟩ := answers ok m₂ (fun _ _ => rfl) key _ asked
  have text : NamedQueryTable.configured
      [("queries".toList, .group [("a".toList, .string "SELECT 1".toList)])] "a".toList =
        some "SELECT 1".toList := rfl
  rw [Option.getD_some, text] at names
  cases names with
  | copy _ reads => exact ⟨_, found, reads⟩

end LibZbxPgsql.ConfigMemory
