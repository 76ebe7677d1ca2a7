import Mathlib.Data.List.Basic
import Mathlib.Data.String.Basic

set_option autoImplicit false

/-! The tokens of an SQL text, read one character at a time: words, numbers, strings,
placeholders and symbols. A backslash in a string stands for itself, as on a server whose
`standard_conforming_strings` is on. A text with a comment, a quoted identifier, a prefixed or
a dollar-quoted string is left to others: it has no tokens here. -/
namespace LibZbxPgsql.SqlTokens

/-- Words are folded to lower case. -/
inductive Token where
  | word (name : List Char)
  | number (digits : List Char)
  | text (value : List Char)
  | param (n : ℕ)
  | symbol (name : List Char)
  deriving DecidableEq

/-- The token under way, with what of it was read. -/
inductive State where
  | between
  | word (name : List Char)
  | number (digits : List Char)
  | dollar
  | param (n : ℕ)
  | quote (value : List Char)
  | quoteEnd (value : List Char)
  | operator (name : List Char)
  | colon
  deriving DecidableEq

def isBlank (c : Char) : Bool := c = ' ' || c = '\t' || c = '\n' || c = '\r'

def isWordStart (c : Char) : Bool := c.isAlpha || c = '_'

def isWordChar (c : Char) : Bool := isWordStart c || c.isDigit || c = '$'

def isOperator (c : Char) : Bool :=
  c ∈ ['+', '-', '*', '/', '<', '>', '=', '~', '!', '@', '#', '%', '^', '&', '|', '?']

def isSingle (c : Char) : Bool := c ∈ ['(', ')', ',', ';', '.', '[', ']']

def digitOf (c : Char) : ℕ := c.toNat - '0'.toNat

def start (c : Char) : Option (List Token × State) :=
  if isBlank c then some ([], .between)
  else if isSingle c then some ([.symbol [c]], .between)
  else if isWordStart c then some ([], .word [c.toLower])
  else if c.isDigit then some ([], .number [c])
  else if c = '$' then some ([], .dollar)
  else if c = '\'' then some ([], .quote [])
  else if c = ':' then some ([], .colon)
  else if isOperator c then some ([], .operator [c])
  else none

def startAfter (token : Token) (c : Char) : Option (List Token × State) :=
  (start c).map fun (tokens, s) => (token :: tokens, s)

/-- Two characters of an operator that begin a comment instead. -/
def isComment (name : List Char) (c : Char) : Bool :=
  (name.getLast? = some '-' && c = '-') || (name.getLast? = some '/' && c = '*')

def step : State → Char → Option (List Token × State)
  | .between, c => start c
  | .word name, c =>
    if isWordChar c then some ([], .word (name ++ [c.toLower]))
    else if c = '\'' then none
    else startAfter (.word name) c
  | .number digits, c =>
    if c.isDigit || c = '.' then some ([], .number (digits ++ [c]))
    else if isWordStart c then none
    else startAfter (.number digits) c
  | .dollar, c => if c.isDigit then some ([], .param (digitOf c)) else none
  | .param n, c =>
    if c.isDigit then some ([], .param (10 * n + digitOf c))
    else if isWordStart c then none
    else startAfter (.param n) c
  | .quote value, c =>
    if c = '\'' then some ([], .quoteEnd value) else some ([], .quote (value ++ [c]))
  | .quoteEnd value, c =>
    -- a quote that is doubled stands for itself
    if c = '\'' then some ([], .quote (value ++ [c])) else startAfter (.text value) c
  | .operator name, c =>
    if isOperator c then
      if isComment name c then none else some ([], .operator (name ++ [c]))
    else startAfter (.symbol name) c
  | .colon, c => if c = ':' then some ([.symbol [':', ':']], .between) else none

def finish : State → Option (List Token)
  | .between => some []
  | .word name => some [.word name]
  | .number digits => some [.number digits]
  | .param n => some [.param n]
  | .quoteEnd value => some [.text value]
  | .operator name => some [.symbol name]
  | .dollar => none
  | .quote _ => none
  | .colon => none

def run : State → List Char → Option (List Token × State)
  | s, [] => some ([], s)
  | s, c :: cs =>
    (step s c).bind fun (tokens, s) => (run s cs).map fun (more, s) => (tokens ++ more, s)

def tokens (text : List Char) : Option (List Token) :=
  (run .between text).bind fun (tokens, s) => (finish s).map (tokens ++ ·)

section Parts
variable {s s' s'' : State} {a b : List Char} {ts us : List Token}

theorem run_cons_iff {c : Char} {cs : List Char} :
    run s (c :: cs) = some (ts, s') ↔ ∃ us s₁ vs, step s c = some (us, s₁) ∧
      run s₁ cs = some (vs, s') ∧ us ++ vs = ts := by
  simp only [run, Option.bind_eq_some_iff, Option.map_eq_some_iff, Prod.exists, Prod.mk.injEq]
  constructor
  · rintro ⟨us, s₁, first, vs, s₂, rest, he, rfl⟩
    exact ⟨us, s₁, vs, first, rest, he⟩
  · rintro ⟨us, s₁, vs, first, rest, he⟩
    exact ⟨us, s₁, first, vs, s', rest, he, rfl⟩

theorem run_append (ha : run s a = some (ts, s')) (hb : run s' b = some (us, s'')) :
    run s (a ++ b) = some (ts ++ us, s'') := by
  induction a generalizing s ts with
  | nil =>
    cases ha
    exact hb
  | cons c cs ih =>
    obtain ⟨ts₁, s₁, ts₂, first, rest, rfl⟩ := run_cons_iff.mp ha
    refine run_cons_iff.mpr ⟨ts₁, s₁, ts₂ ++ us, first, ih rest, ?_⟩
    rw [List.append_assoc]

theorem tokens_eq_some_iff :
    tokens a = some ts ↔
      ∃ us s vs, run .between a = some (us, s) ∧ finish s = some vs ∧ us ++ vs = ts := by
  simp only [tokens, Option.bind_eq_some_iff, Option.map_eq_some_iff, Prod.exists]
  constructor
  · rintro ⟨us, s, hr, vs, hf, he⟩
    exact ⟨us, s, vs, hr, hf, he⟩
  · rintro ⟨us, s, vs, hr, hf, he⟩
    exact ⟨us, s, hr, vs, hf, he⟩

def isSeparator (c : Char) : Bool := isBlank c || c ∈ ['(', ')', ',', ';', '[', ']', ':']

/-- A text that begins with a token of its own, whatever it follows. -/
def Apart (b : List Char) : Bool := b.head?.all isSeparator

theorem apart_append {a b : List Char} (ha : Apart a = true) (hb : Apart b = true) :
    Apart (a ++ b) = true := by
  cases a with
  | nil => exact hb
  | cons c cs => exact ha

theorem separator_cases {c : Char} (h : isSeparator c = true) :
    isWordChar c = false ∧ isWordStart c = false ∧ c.isDigit = false ∧ c ≠ '.' ∧ c ≠ '\'' ∧
      isOperator c = false := by
  simp only [isSeparator, isBlank, Bool.or_eq_true, decide_eq_true_eq, List.mem_cons,
    List.not_mem_nil, or_false] at h
  rcases h with (((rfl | rfl) | rfl) | rfl) | rfl | rfl | rfl | rfl | rfl | rfl | rfl <;> decide

theorem step_separator {c : Char} (h : isSeparator c = true) (hs : finish s = some ts) :
    step s c = (start c).map fun (us, s') => (ts ++ us, s') := by
  obtain ⟨wordChar, wordStart, digit, point, quote, operator⟩ := separator_cases h
  cases s with
  | between => cases hs; simp [step]
  | word name => cases hs; simp [step, startAfter, wordChar, quote]
  | number digits => cases hs; simp [step, startAfter, wordStart, digit, point]
  | param n => cases hs; simp [step, startAfter, wordStart, digit]
  | quoteEnd value => cases hs; simp [step, startAfter, quote]
  | operator name => cases hs; simp [step, startAfter, operator]
  | dollar | quote _ | colon => cases hs

/-- A text set apart reads the same after any token. -/
theorem run_separated {c : Char} {cs : List Char} (hc : isSeparator c = true)
    (hs : finish s = some ts) (h : run .between (c :: cs) = some (us, s')) :
    run s (c :: cs) = some (ts ++ us, s') := by
  obtain ⟨vs, s₂, ws, first, rest, rfl⟩ := run_cons_iff.mp h
  have first : start c = some (vs, s₂) := first
  have begun : step s c = some (ts ++ vs, s₂) := by
    rw [step_separator hc hs, first, Option.map_some]
  exact run_cons_iff.mpr ⟨_, s₂, ws, begun, rest, List.append_assoc _ _ _⟩

theorem run_apart (hb : Apart b = true) (hs : finish s = some ts)
    (h : tokens b = some us) : ∃ vs s' ws, run s b = some (vs, s') ∧ finish s' = some ws ∧
      vs ++ ws = ts ++ us := by
  obtain ⟨us₁, s₁, us₂, hr, hf, rfl⟩ := tokens_eq_some_iff.mp h
  cases b with
  | nil =>
    cases hr
    cases hf
    exact ⟨[], s, ts, rfl, hs, by simp⟩
  | cons c cs =>
    have separated := run_separated (by simpa [Apart] using hb) hs hr
    exact ⟨ts ++ us₁, s₁, us₂, separated, hf, List.append_assoc _ _ _⟩

theorem tokens_append (hb : Apart b = true) (ha : tokens a = some ts)
    (h : tokens b = some us) : tokens (a ++ b) = some (ts ++ us) := by
  obtain ⟨ts₁, s₁, ts₂, hr, hf, rfl⟩ := tokens_eq_some_iff.mp ha
  obtain ⟨vs, s', ws, hb', hf', he⟩ := run_apart hb hf h
  refine tokens_eq_some_iff.mpr ⟨ts₁ ++ vs, s', ws, run_append hr hb', hf', ?_⟩
  rw [List.append_assoc, he, List.append_assoc]

/-- A text that ends between two tokens. -/
def Ends (a : List Char) (ts : List Token) : Prop := run .between a = some (ts, .between)

theorem tokens_after (ha : Ends a ts) (h : tokens b = some us) :
    tokens (a ++ b) = some (ts ++ us) := by
  obtain ⟨us₁, s₁, us₂, hr, hf, rfl⟩ := tokens_eq_some_iff.mp h
  refine tokens_eq_some_iff.mpr ⟨ts ++ us₁, s₁, us₂, run_append ha hr, hf, ?_⟩
  rw [List.append_assoc]

theorem ends_append (hb : b.head?.any isSeparator = true) (ha : tokens a = some ts)
    (h : Ends b us) : Ends (a ++ b) (ts ++ us) := by
  obtain ⟨ts₁, s₁, ts₂, hr, hf, rfl⟩ := tokens_eq_some_iff.mp ha
  cases b with
  | nil => cases hb
  | cons c cs =>
    have rest : run s₁ (c :: cs) = some (ts₂ ++ us, .between) :=
      run_separated (by simpa using hb) hf h
    rw [List.append_assoc]
    exact run_append hr rest

end Parts

def IsWord : List Char → Bool
  | [] => false
  | c :: cs => isWordStart c && cs.all isWordChar

theorem run_wordChars {cs : List Char} (h : cs.all isWordChar = true) (name : List Char) :
    run (.word name) cs = some ([], .word (name ++ cs.map Char.toLower)) := by
  induction cs generalizing name with
  | nil => simp [run]
  | cons c cs ih =>
    simp only [List.all_cons, Bool.and_eq_true] at h
    simp [run, step, h.1, ih h.2]

theorem wordStart_cases {c : Char} (h : isWordStart c = true) :
    isBlank c = false ∧ isSingle c = false := by
  constructor
  · by_contra hb
    simp only [isBlank, Bool.or_eq_false_iff, decide_eq_false_iff_not, not_and_or, not_not]
      at hb
    rcases hb with ((rfl | rfl) | rfl) | rfl <;> revert h <;> decide
  · by_contra hb
    simp only [isSingle, decide_eq_false_iff_not, not_not, List.mem_cons, List.not_mem_nil,
      or_false] at hb
    rcases hb with rfl | rfl | rfl | rfl | rfl | rfl | rfl <;> revert h <;> decide

theorem tokens_word {w : List Char} (h : IsWord w = true) :
    tokens w = some [.word (w.map Char.toLower)] := by
  cases w with
  | nil => cases h
  | cons c cs =>
    simp only [IsWord, Bool.and_eq_true] at h
    obtain ⟨blank, single⟩ := wordStart_cases h.1
    simp [tokens, run, step, start, blank, single, h.1, run_wordChars h.2, finish]

/-- A value as it stands between quotes: every quote of it is doubled. -/
def escaped : List Char → List Char
  | [] => []
  | c :: value => if c = '\'' then '\'' :: '\'' :: escaped value else c :: escaped value

section Strings
variable {s : State} {a rest rest' : List Char} {ts us : List Token}

theorem run_append_inv {s' s'' : State} {b : List Char}
    (ha : run s a = some (ts, s')) (h : run s (a ++ b) = some (us, s'')) :
    ∃ vs, run s' b = some (vs, s'') ∧ us = ts ++ vs := by
  induction a generalizing s ts us with
  | nil =>
    cases ha
    exact ⟨us, h, rfl⟩
  | cons c cs ih =>
    obtain ⟨ts₁, s₁, ts₂, first, rest, rfl⟩ := run_cons_iff.mp ha
    obtain ⟨us₁, s₂, us₂, first', rest', rfl⟩ := run_cons_iff.mp h
    rw [first] at first'
    cases first'
    obtain ⟨vs, hb, rfl⟩ := ih rest rest'
    exact ⟨vs, hb, (List.append_assoc _ _ _).symm⟩

/-- A value without a quote in it is read as it stands. -/
theorem run_plain {value : List Char} (plain : '\'' ∉ value) (before : List Char) :
    run (.quote before) value = some ([], .quote (before ++ value)) := by
  induction value generalizing before with
  | nil => simp [run]
  | cons c value ih =>
    have other : c ≠ '\'' := fun e => plain (e ▸ List.mem_cons_self)
    have more := ih (fun h => plain (List.mem_cons_of_mem _ h)) (before ++ [c])
    simp [run, step, other, more]

/-- What is read inside a string is the value written up to the first lone quote. -/
theorem quote_read : ∀ (text before : List Char) {ts us : List Token} {s : State},
    run (.quote before) text = some (ts, s) → finish s = some us →
      ∃ value rest more, text = escaped value ++ '\'' :: rest ∧
        ts ++ us = .text (before ++ value) :: more
  | [], before, ts, us, s, h, hf => by
    cases h
    cases hf
  | c :: text, before, ts, us, s, h, hf => by
    obtain ⟨ts₁, s₁, ts₂, first, inside, rfl⟩ := run_cons_iff.mp h
    by_cases hc : c = '\''
    · subst hc
      rw [step, if_pos rfl] at first
      cases first
      match text, inside with
      | [], inside =>
        cases inside
        cases hf
        exact ⟨[], [], [], rfl, by simp⟩
      | d :: text, inside =>
        obtain ⟨ts₃, s₃, ts₄, second, inside, rfl⟩ := run_cons_iff.mp inside
        rw [step] at second
        by_cases hd : d = '\''
        · rw [if_pos hd] at second
          cases second
          obtain ⟨value, rest, more, rfl, read⟩ := quote_read text _ inside hf
          refine ⟨'\'' :: value, rest, more, by simp [escaped, hd], ?_⟩
          simpa [hd] using read
        · rw [if_neg hd, startAfter] at second
          obtain ⟨x, -, hx⟩ := Option.map_eq_some_iff.mp second
          cases hx
          exact ⟨[], d :: text, x.1 ++ ts₄ ++ us, rfl, by simp⟩
    · rw [step, if_neg hc] at first
      cases first
      obtain ⟨value, rest, more, rfl, read⟩ := quote_read text _ inside hf
      refine ⟨c :: value, rest, more, by simp [escaped, hc], ?_⟩
      simpa using read

/-- Once ahead, the doubled quotes of a value stay ahead of the value itself. -/
theorem escaped_ahead {value : List Char} (lone : rest'.head? ≠ some '\'') (k : ℕ) :
    value ++ '\'' :: rest' ≠
      List.replicate (k + 1) '\'' ++ (escaped value ++ '\'' :: rest) := by
  induction value generalizing k with
  | nil =>
    intro e
    rw [List.replicate_succ, List.nil_append, List.cons_append, List.cons.injEq] at e
    rw [e.2] at lone
    cases k <;> simp [escaped, List.replicate_succ] at lone
  | cons c value ih =>
    intro e
    rw [List.replicate_succ, List.cons_append, List.cons_append, List.cons.injEq] at e
    obtain ⟨rfl, e⟩ := e
    refine ih (k + 1) (e.trans ?_)
    rw [escaped, if_pos rfl, List.replicate_succ', List.replicate_succ']
    simp

/-- A text that denotes itself up to a lone quote has no quote in it. -/
theorem plain_of_escaped {value : List Char} (lone : rest'.head? ≠ some '\'')
    (h : value ++ '\'' :: rest' = escaped value ++ '\'' :: rest) : '\'' ∉ value := by
  induction value with
  | nil => simp
  | cons c value ih =>
    by_cases hc : c = '\''
    · subst hc
      rw [escaped, if_pos rfl, List.cons_append, List.cons_append, List.cons.injEq] at h
      exact absurd h.2 (escaped_ahead lone 0)
    · rw [escaped, if_neg hc, List.cons_append, List.cons_append, List.cons.injEq] at h
      intro hm
      rcases List.mem_cons.mp hm with he | hm
      · exact hc he.symm
      · exact ih h.2 hm

/-- A text put between quotes as it is denotes itself only where it has no quote. -/
theorem plain_of_tokens {value : List Char} {more : List Token} (ha : Ends a ts)
    (lone : rest'.head? ≠ some '\'')
    (h : tokens (a ++ '\'' :: (value ++ '\'' :: rest')) = some (ts ++ .text value :: more)) :
    '\'' ∉ value := by
  obtain ⟨us, s, vs, hr, hf, he⟩ := tokens_eq_some_iff.mp h
  obtain ⟨ts', inside, rfl⟩ := run_append_inv ha hr
  have opened : run .between ['\''] = some ([], .quote []) := by decide
  obtain ⟨ts'', inside, rfl⟩ := run_append_inv opened inside
  obtain ⟨value', rest, more', same, read⟩ := quote_read _ _ inside hf
  rw [List.append_assoc, List.append_cancel_left_eq, read, List.nil_append,
    List.cons.injEq] at he
  cases he.1
  exact plain_of_escaped lone same

theorem tokens_plain {value : List Char} (ha : Ends a ts) (plain : '\'' ∉ value) :
    tokens (a ++ '\'' :: (value ++ ['\''])) = some (ts ++ [.text value]) := by
  refine tokens_after ha (tokens_eq_some_iff.mpr ⟨[], .quoteEnd value, _, ?_, rfl, rfl⟩)
  have opened : run .between ['\''] = some ([], .quote []) := by decide
  have closed : run (.quote value) ['\''] = some ([], .quoteEnd value) := by
    simp [run, step]
  exact run_append opened (run_append (run_plain plain []) closed)

end Strings

def paramOf : Token → Option ℕ
  | .param n => some n
  | _ => none

def placeholders (ts : List Token) : List ℕ := ts.filterMap paramOf

/-- The placeholders of a text are exactly `$1` to `$n`. -/
def Binds (text : List Char) (n : ℕ) : Prop :=
  ∃ ts, tokens text = some ts ∧ ∀ i, .param i ∈ ts ↔ 1 ≤ i ∧ i ≤ n

def Numbered (text : List Char) (n : ℕ) : Prop :=
  (tokens text).map placeholders = some (List.range' 1 n)

instance (text : List Char) (n : ℕ) : Decidable (Numbered text n) :=
  inferInstanceAs (Decidable (_ = _))

theorem mem_placeholders (ts : List Token) (i : ℕ) : i ∈ placeholders ts ↔ .param i ∈ ts := by
  rw [placeholders, List.mem_filterMap]
  constructor
  · rintro ⟨token, ht, hi⟩
    cases token with
    | param n =>
      cases hi
      exact ht
    | word _ | number _ | text _ | symbol _ => cases hi
  · intro h
    exact ⟨_, h, rfl⟩

theorem binds_of_numbered {text : List Char} {n : ℕ} (h : Numbered text n) : Binds text n := by
  obtain ⟨ts, ht, hp⟩ := Option.map_eq_some_iff.mp h
  refine ⟨ts, ht, ?_⟩
  intro i
  rw [← mem_placeholders, hp, List.mem_range'_1]
  omega

theorem placeholders_append (ts us : List Token) :
    placeholders (ts ++ us) = placeholders ts ++ placeholders us := List.filterMap_append

/-- A text of which only the middle has placeholders. -/
theorem numbered_between {a b c : List Char} {n : ℕ} (ha : Numbered a 0)
    (hb : Apart b = true) (h : Numbered b n) (hc : Apart c = true) (h' : Numbered c 0) :
    Numbered (a ++ b ++ c) n := by
  obtain ⟨ts, ht, hp⟩ := Option.map_eq_some_iff.mp ha
  obtain ⟨us, hu, hq⟩ := Option.map_eq_some_iff.mp h
  obtain ⟨vs, hv, hr⟩ := Option.map_eq_some_iff.mp h'
  have all : placeholders (ts ++ us ++ vs) = List.range' 1 n := by
    rw [placeholders_append, placeholders_append, hp, hq, hr]
    simp
  rw [Numbered, tokens_append hc (tokens_append hb ht hu) hv, Option.map_some, all]

/-- The text of a query on a column: the name of the column between two texts. -/
theorem numbered_column {a w b : List Char} {ts : List Token} {n : ℕ} (ha : Ends a ts)
    (hp : placeholders ts = []) (hw : IsWord w = true) (hb : Apart b = true)
    (h : Numbered b n) : Numbered (a ++ w ++ b) n := by
  obtain ⟨us, hu, hq⟩ := Option.map_eq_some_iff.mp h
  have all : placeholders (ts ++ [Token.word (w.map Char.toLower)] ++ us) = List.range' 1 n := by
    rw [placeholders_append, placeholders_append, hp, hq]
    rfl
  rw [Numbered, tokens_append hb (tokens_after ha (tokens_word hw)) hu, Option.map_some, all]

end LibZbxPgsql.SqlTokens
