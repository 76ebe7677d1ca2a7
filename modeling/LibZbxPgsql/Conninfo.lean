import Mathlib.Data.List.Basic
import Mathlib.Algebra.GroupWithZero.Nat

set_option autoImplicit false

/-! Connection strings: settings separated by blanks, `keyword = value`. A bare value ends at a
blank, single quotes delimit a value, and a backslash takes the next character as it is. The
text is read one character at a time; `none` is a syntax error. -/
namespace LibZbxPgsql.Conninfo

structure Setting where
  keyword : List Char
  value : List Char
  deriving DecidableEq

/-- Where the reader is: between settings, in a keyword, after it, after its `=`, or in
    a value, with what was read of them. -/
inductive Mode where
  | between
  | keyword (k : List Char)
  | spaced (k : List Char)
  | assigned (k : List Char)
  | bare (k v : List Char)
  | bareEscape (k v : List Char)
  | quoted (k v : List Char)
  | quotedEscape (k v : List Char)
  deriving DecidableEq

structure Reader where
  settings : List Setting
  mode : Mode
  deriving DecidableEq

section Grammar
variable (blank : Char → Bool)

/-- The reader after one character, the settings it has stored with it. -/
def next (c : Char) : Mode → Option (List Setting × Mode)
  | .between =>
    if blank c then some ([], .between)
    else if c = '=' then none
    else some ([], .keyword [c])
  | .keyword k =>
    if c = '=' then some ([], .assigned k)
    else if blank c then some ([], .spaced k)
    else some ([], .keyword (k ++ [c]))
  | .spaced k =>
    if blank c then some ([], .spaced k)
    else if c = '=' then some ([], .assigned k)
    else none
  | .assigned k =>
    if blank c then some ([], .assigned k)
    else if c = '\'' then some ([], .quoted k [])
    else if c = '\\' then some ([], .bareEscape k [])
    else some ([], .bare k [c])
  | .bare k v =>
    if blank c then some ([⟨k, v⟩], .between)
    else if c = '\\' then some ([], .bareEscape k v)
    else some ([], .bare k (v ++ [c]))
  | .bareEscape k v => some ([], .bare k (v ++ [c]))
  | .quoted k v =>
    if c = '\\' then some ([], .quotedEscape k v)
    else if c = '\'' then some ([⟨k, v⟩], .between)
    else some ([], .quoted k (v ++ [c]))
  | .quotedEscape k v => some ([], .quoted k (v ++ [c]))

def step (r : Reader) (c : Char) : Option Reader :=
  (next blank c r.mode).map fun (stored, mode) => ⟨r.settings ++ stored, mode⟩

def read (r : Reader) (text : List Char) : Option Reader := text.foldlM (step blank) r

def last : Mode → Option (List Setting)
  | .between => some []
  | .assigned k => some [⟨k, []⟩]
  | .bare k v => some [⟨k, v⟩]
  | .bareEscape k v => some [⟨k, v⟩]
  | _ => none

def finish (r : Reader) : Option (List Setting) := (last r.mode).map (r.settings ++ ·)

def start : Reader := ⟨[], .between⟩

def parse (text : List Char) : Option (List Setting) := (read blank start text).bind finish

theorem read_cons (r : Reader) (c : Char) (text : List Char) :
    read blank r (c :: text) = (step blank r c).bind fun r => read blank r text := by
  rw [read, List.foldlM_cons]
  rfl

theorem read_append (r : Reader) (s t : List Char) :
    read blank r (s ++ t) = (read blank r s).bind fun r => read blank r t := by
  rw [read, List.foldlM_append]
  rfl

def Reader.after (settings : List Setting) (r : Reader) : Reader :=
  { r with settings := settings ++ r.settings }

theorem step_after (settings : List Setting) (r : Reader) (c : Char) :
    step blank (r.after settings) c = (step blank r c).map (Reader.after settings) := by
  simp only [step, Reader.after]
  cases next blank c r.mode <;> simp [Reader.after]

/-- Reading goes on the same way whatever was stored before. -/
theorem read_after (settings : List Setting) (r : Reader) (text : List Char) :
    read blank (r.after settings) text = (read blank r text).map (Reader.after settings) := by
  induction text generalizing r with
  | nil => rfl
  | cons c text ih =>
    rw [read_cons, read_cons, step_after]
    cases step blank r c with
    | none => rfl
    | some r' => exact ih r'

theorem finish_after (settings : List Setting) (r : Reader) :
    finish (r.after settings) = (finish r).map (settings ++ ·) := by
  simp only [finish, Reader.after]
  cases last r.mode <;> simp

theorem parse_after (settings : List Setting) (text : List Char) :
    (read blank ⟨settings, .between⟩ text).bind finish =
      (parse blank text).map (settings ++ ·) := by
  have whole : (⟨settings, .between⟩ : Reader) = start.after settings := by
    simp [Reader.after, start]
  rw [whole, read_after, parse]
  cases read blank start text with
  | none => rfl
  | some r => exact finish_after settings r

def Complete (text : List Char) : Prop :=
  ∃ settings mode, read blank start text = some ⟨settings, mode⟩ ∧
    (mode = .between ∨ ∃ k v, mode = .bare k v)

/-- After a complete text and a blank, the next setting is read afresh. -/
theorem parse_append {text : List Char} {settings : List Setting} {c : Char}
    (parses : parse blank text = some settings) (complete : Complete blank text)
    (separated : blank c = true) (rest : List Char) :
    parse blank (text ++ c :: rest) = (parse blank rest).map (settings ++ ·) := by
  obtain ⟨stored, mode, reads, ends⟩ := complete
  rw [parse, reads, Option.bind_some] at parses
  have closed : step blank ⟨stored, mode⟩ c = some ⟨settings, .between⟩ := by
    rcases ends with rfl | ⟨k, v, rfl⟩
    · rw [← Option.some.inj parses]
      simp [step, next, separated]
    · rw [← Option.some.inj parses]
      simp [step, next, separated]
  rw [parse, read_append, reads, Option.bind_some, read_cons, closed, Option.bind_some,
    parse_after]

/-- A text that a bare value can hold unescaped. -/
def Plain (value : List Char) : Prop :=
  value.head? ≠ some '\'' ∧ ∀ c ∈ value, blank c = false ∧ c ≠ '\\'

theorem read_keyword {k : List Char} (l : List Setting) (acc : List Char)
    (h : ∀ c ∈ k, blank c = false ∧ c ≠ '=') :
    read blank ⟨l, .keyword acc⟩ k = some ⟨l, .keyword (acc ++ k)⟩ := by
  induction k generalizing acc with
  | nil => simp [read]
  | cons c k ih =>
    obtain ⟨hb, he⟩ := h c List.mem_cons_self
    have one : step blank ⟨l, .keyword acc⟩ c = some ⟨l, .keyword (acc ++ [c])⟩ := by
      simp [step, next, hb, he]
    rw [read_cons, one, Option.bind_some, ih _ fun d hd => h d (List.mem_cons_of_mem _ hd)]
    simp

theorem read_assignment {k : List Char} (nonempty : k ≠ [])
    (h : ∀ c ∈ k, blank c = false ∧ c ≠ '=') (value : List Char) :
    read blank start (k ++ '=' :: value) = read blank ⟨[], .assigned k⟩ value := by
  obtain ⟨c, k, rfl⟩ := List.exists_cons_of_ne_nil nonempty
  obtain ⟨hb, he⟩ := h c List.mem_cons_self
  have first : step blank start c = some ⟨[], .keyword [c]⟩ := by
    simp [step, next, start, hb, he]
  have equals : step blank ⟨[], .keyword (c :: k)⟩ '=' = some ⟨[], .assigned (c :: k)⟩ := by
    simp [step, next]
  rw [List.cons_append, read_cons, first, Option.bind_some, read_append,
    read_keyword blank [] [c] fun d hd => h d (List.mem_cons_of_mem _ hd), Option.bind_some,
    List.singleton_append, read_cons, equals, Option.bind_some]

theorem read_bare {value : List Char} (l : List Setting) (k v : List Char)
    (h : ∀ c ∈ value, blank c = false ∧ c ≠ '\\') :
    read blank ⟨l, .bare k v⟩ value = some ⟨l, .bare k (v ++ value)⟩ := by
  induction value generalizing v with
  | nil => simp [read]
  | cons c value ih =>
    obtain ⟨hb, he⟩ := h c List.mem_cons_self
    have one : step blank ⟨l, .bare k v⟩ c = some ⟨l, .bare k (v ++ [c])⟩ := by
      simp [step, next, hb, he]
    rw [read_cons, one, Option.bind_some, ih _ fun d hd => h d (List.mem_cons_of_mem _ hd)]
    simp

def Mode.size : Mode → ℕ
  | .bare _ v => v.length
  | .bareEscape _ v => v.length
  | .quoted _ v => v.length
  | .quotedEscape _ v => v.length
  | _ => 0

def sizes (settings : List Setting) : ℕ := (settings.map fun s => s.value.length).sum

def Reader.size (r : Reader) : ℕ := sizes r.settings + r.mode.size

@[simp] theorem sizes_nil : sizes [] = 0 := rfl

@[simp] theorem sizes_singleton (s : Setting) : sizes [s] = s.value.length := by
  simp [sizes]

@[simp] theorem sizes_append (l m : List Setting) : sizes (l ++ m) = sizes l + sizes m := by
  simp [sizes]

theorem next_size {c : Char} {m m' : Mode} {stored : List Setting}
    (h : next blank c m = some (stored, m')) : sizes stored + m'.size ≤ m.size + 1 := by
  cases m with
  | between | keyword k | spaced k | bare k v | quoted k v =>
    simp only [next] at h
    split at h
    · cases h
      simp [Mode.size]
    · split at h <;> cases h <;> simp [Mode.size]
  | assigned k =>
    simp only [next] at h
    split at h
    · cases h
      simp [Mode.size]
    · split at h
      · cases h
        simp [Mode.size]
      · split at h <;> cases h <;> simp [Mode.size]
  | bareEscape k v | quotedEscape k v =>
    cases h
    simp [Mode.size]

theorem step_size {r r' : Reader} {c : Char} (h : step blank r c = some r') :
    r'.size ≤ r.size + 1 := by
  obtain ⟨⟨stored, m⟩, hn, rfl⟩ := Option.map_eq_some_iff.mp h
  have grown := next_size blank hn
  simp only [Reader.size, sizes_append]
  omega

theorem read_size {r r' : Reader} {text : List Char} (h : read blank r text = some r') :
    r'.size ≤ r.size + text.length := by
  induction text generalizing r with
  | nil =>
    cases h
    simp
  | cons c text ih =>
    rw [read_cons] at h
    obtain ⟨r₁, h₁, h₂⟩ := Option.bind_eq_some_iff.mp h
    have one := step_size blank h₁
    have rest := ih h₂
    rw [List.length_cons]
    omega

theorem finish_size {r : Reader} {settings : List Setting} (h : finish r = some settings) :
    sizes settings = r.size := by
  obtain ⟨l, hl, rfl⟩ := Option.map_eq_some_iff.mp h
  rw [sizes_append, Reader.size]
  cases hm : r.mode <;> rw [hm] at hl <;> cases hl <;> simp [Mode.size]

/-- A reading in which every character adds one meets no character with a meaning. -/
theorem tight_bare {r' : Reader} {value : List Char} (l : List Setting) (k v : List Char)
    (h : read blank ⟨l, .bare k v⟩ value = some r')
    (tight : r'.size = sizes l + v.length + value.length) :
    ∀ c ∈ value, blank c = false ∧ c ≠ '\\' := by
  induction value generalizing v with
  | nil =>
    intro c hc
    cases hc
  | cons c value ih =>
    rw [read_cons] at h
    rw [List.length_cons] at tight
    cases hb : blank c with
    | true =>
      have stored : step blank ⟨l, .bare k v⟩ c = some ⟨l ++ [⟨k, v⟩], .between⟩ := by
        simp [step, next, hb]
      rw [stored, Option.bind_some] at h
      have short := read_size blank h
      rw [tight] at short
      simp only [Reader.size, Mode.size, sizes_append, sizes_singleton] at short
      omega
    | false =>
      by_cases he : c = '\\'
      · have escape : step blank ⟨l, .bare k v⟩ c = some ⟨l, .bareEscape k v⟩ := by
          subst he
          simp [step, next, hb]
        rw [escape, Option.bind_some] at h
        have short := read_size blank h
        rw [tight] at short
        simp only [Reader.size, Mode.size] at short
        omega
      · have one : step blank ⟨l, .bare k v⟩ c = some ⟨l, .bare k (v ++ [c])⟩ := by
          simp [step, next, hb, he]
        rw [one, Option.bind_some] at h
        refine List.forall_mem_cons.mpr ⟨⟨hb, he⟩, ih (v ++ [c]) h ?_⟩
        rw [tight, List.length_append, List.length_singleton]
        omega

theorem tight_assigned {r' : Reader} {c : Char} {value : List Char} (k : List Char)
    (h : read blank ⟨[], .assigned k⟩ (c :: value) = some r')
    (tight : r'.size = value.length + 1) : Plain blank (c :: value) := by
  have wasted : ∀ m, next blank c (.assigned k) = some ([], m) → m.size = 0 → False := by
    intro m hm zero
    rw [read_cons, step, hm] at h
    have short := read_size blank h
    rw [tight] at short
    simp only [Reader.size, zero, sizes_append, sizes_nil] at short
    omega
  cases hb : blank c with
  | true => exact (wasted (.assigned k) (by simp [next, hb]) rfl).elim
  | false =>
    by_cases hq : c = '\''
    · subst hq
      exact (wasted (.quoted k []) (by simp [next, hb]) rfl).elim
    · by_cases he : c = '\\'
      · subst he
        exact (wasted (.bareEscape k []) (by simp [next, hb]) rfl).elim
      · have one : step blank ⟨[], .assigned k⟩ c = some ⟨[], .bare k [c]⟩ := by
          simp [step, next, hb, hq, he]
        rw [read_cons, one, Option.bind_some] at h
        refine ⟨by simpa using hq, List.forall_mem_cons.mpr ⟨⟨hb, he⟩, ?_⟩⟩
        refine tight_bare blank [] k [c] h ?_
        rw [tight]
        simp [Nat.add_comm]

/-- A setting written without quotes is read back exactly where its value is plain. -/
theorem parse_assignment_iff {k value : List Char} (nonempty : k ≠ []) (given : value ≠ [])
    (h : ∀ c ∈ k, blank c = false ∧ c ≠ '=') :
    parse blank (k ++ '=' :: value) = some [⟨k, value⟩] ↔ Plain blank value := by
  obtain ⟨c, value, rfl⟩ := List.exists_cons_of_ne_nil given
  rw [parse, read_assignment blank nonempty h]
  constructor
  · intro parsed
    obtain ⟨r, hr, ends⟩ := Option.bind_eq_some_iff.mp parsed
    refine tight_assigned blank k hr ?_
    rw [← finish_size ends]
    simp
  · rintro ⟨unquoted, plain⟩
    obtain ⟨hb, he⟩ := plain c List.mem_cons_self
    have hq : c ≠ '\'' := by simpa using unquoted
    have one : step blank ⟨[], .assigned k⟩ c = some ⟨[], .bare k [c]⟩ := by
      simp [step, next, hb, hq, he]
    rw [read_cons, one, Option.bind_some,
      read_bare blank [] k [c] fun d hd => plain d (List.mem_cons_of_mem _ hd)]
    rfl

end Grammar

end LibZbxPgsql.Conninfo
