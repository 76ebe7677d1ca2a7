import LibZbxPgsql.BoundedArrays
import LibZbxPgsql.CStrings

set_option autoImplicit false

/-! `strcat2` with its two pointer loops, on a buffer with bounds, and runs of it on a buffer
that was cleared. -/
namespace LibZbxPgsql.StringBuffers
open BoundedArrays
open CStrings (CStr toInt)

def NUL : Char := '\x00'

def INT_MAX : ℕ := 2 ^ 31 - 1

/-- A buffer and a pointer into it. -/
structure Cursor where
  buffer : List Char
  pos : ℕ
deriving DecidableEq

/-- What a string argument can be: characters up to the first terminator. -/
structure CString where
  text : CStr
  plain : NUL ∉ text

def chars (s : Option CString) : Option CStr := s.map CString.text

theorem chars_plain {s : Option CString} {t : CStr} (h : chars s = some t) : NUL ∉ t := by
  cases s with
  | none => cases h
  | some s =>
    obtain rfl := Option.some.inj h
    exact s.plain

def letters (n : ℕ) : CString :=
  ⟨List.replicate n 'a', fun h => absurd (List.eq_of_mem_replicate h) (by decide)⟩

theorem toInt_small {n : ℕ} (h : n ≤ INT_MAX) : toInt n = n := by
  unfold toInt INT_MAX at *
  omega

/-- A size that is no `int` wraps to one that is smaller by a multiple of `2 ^ 32`. -/
theorem toInt_large {n : ℕ} (h : INT_MAX < n) : toInt n ≤ n - 2 ^ 32 := by
  unfold toInt INT_MAX at *
  omega

/-- `zbx_malloc` and `memset`. A negative size is a `size_t` no block has, at which the
    agent exits. -/
def zeroed (bufferlen : ℤ) : Option (List Char) :=
  if bufferlen < 0 then none else some (List.replicate bufferlen.toNat NUL)

def strcat2 (dest : Cursor) (src : Option CStr) : Option Cursor :=
  match src with
  | none => some dest
  | some src => do
    -- seek to the end of the dest string
    let steps ← seek NUL (dest.buffer.drop dest.pos)
    -- copy one char at a time from source
    let (buffer, p) ← copy NUL (src ++ [NUL]) dest.buffer (dest.pos + steps)
    -- return the last character
    return ⟨buffer, p - 1⟩

/-- The cells before the pointer stay, whatever they hold. -/
theorem strcat2_zeroed (before s : CStr) (k : ℕ) (plain : NUL ∉ s) :
    strcat2 ⟨before ++ List.replicate k NUL, before.length⟩ (some s) =
      if s.length < k then
        some ⟨before ++ s ++ List.replicate (k - s.length) NUL, before.length + s.length⟩
      else none := by
  cases k with
  | zero => simp [strcat2, seek]
  | succ k =>
    have here : seek NUL ((before ++ List.replicate (k + 1) NUL).drop before.length) = some 0 := by
      rw [List.drop_left, List.replicate_succ, seek, if_pos rfl]
    by_cases room : s.length < k + 1
    · have cells : List.replicate (k + 1) NUL =
          List.replicate (s.length + 1) NUL ++ List.replicate (k - s.length) NUL := by
        rw [List.replicate_append_replicate]
        congr 1
        omega
      have last : NUL :: List.replicate (k - s.length) NUL =
          List.replicate (k + 1 - s.length) NUL := by
        rw [← List.replicate_succ]
        congr 1
        omega
      have fits := copy_fits before (List.replicate (k - s.length) NUL) plain
        (List.length_replicate (n := s.length + 1) (a := NUL))
      rw [List.append_assoc before, ← cells, last] at fits
      simp only [strcat2, here, Option.bind_eq_bind, Option.bind_some, Nat.add_zero, fits]
      rw [if_pos room]
      rfl
    · have overruns := copy_overruns (b := before ++ List.replicate (k + 1) NUL)
        (p := before.length) plain (by simp; omega)
      simp only [strcat2, here, Option.bind_eq_bind, Option.bind_some, Nat.add_zero, overruns,
        Option.bind_none]
      rw [if_neg room]

def appends (c : Cursor) : List (Option CStr) → Option (List Cursor)
  | [] => some []
  | src :: srcs => do
    let c ← strcat2 c src
    let cs ← appends c srcs
    return c :: cs

/-- A zeroed buffer of `n` cells with a text in front, and the pointer at its end. -/
def held (n : ℕ) (text : CStr) : Cursor :=
  ⟨text ++ List.replicate (n - text.length) NUL, text.length⟩

def appended : List (Option CStr) → CStr
  | [] => []
  | src :: srcs => src.getD [] ++ appended srcs

def texts (text : CStr) : List (Option CStr) → List CStr
  | [] => []
  | src :: srcs => (text ++ src.getD []) :: texts (text ++ src.getD []) srcs

theorem strcat2_held {n : ℕ} {text s : CStr} (plain : NUL ∉ s)
    (room : text.length + s.length < n) :
    strcat2 (held n text) (some s) = some (held n (text ++ s)) := by
  rw [held, strcat2_zeroed text s _ plain, if_pos (by omega), held]
  rw [List.length_append, Nat.sub_sub]

theorem strcat2_held_full {n : ℕ} {text s : CStr} (plain : NUL ∉ s)
    (full : n ≤ text.length + s.length) : strcat2 (held n text) (some s) = none := by
  rw [held, strcat2_zeroed text s _ plain, if_neg (by omega)]

theorem appends_held {n : ℕ} (text : CStr) {srcs : List (Option CStr)}
    (plain : ∀ src ∈ srcs, ∀ s, src = some s → NUL ∉ s)
    (room : text.length + (appended srcs).length < n) :
    appends (held n text) srcs = some ((texts text srcs).map (held n)) := by
  induction srcs generalizing text with
  | nil => rfl
  | cons src srcs ih =>
    rw [appended, List.length_append] at room
    have rest := ih (text ++ src.getD []) (fun s hs => plain s (List.mem_cons_of_mem _ hs))
      (by rw [List.length_append]; omega)
    have first : strcat2 (held n text) src = some (held n (text ++ src.getD [])) := by
      cases src with
      | none => simp [strcat2]
      | some s =>
        rw [Option.getD_some] at room ⊢
        exact strcat2_held (plain _ List.mem_cons_self s rfl) (by omega)
    simp only [appends, first, rest, texts, Option.bind_eq_bind, Option.bind_some, List.map_cons]
    rfl

/-- A run that needs more cells than there are stops outside the buffer. -/
theorem appends_overrun {n : ℕ} (text : CStr) {srcs : List (Option CStr)}
    (plain : ∀ src ∈ srcs, ∀ s, src = some s → NUL ∉ s)
    (some_text : appended srcs ≠ []) (full : n ≤ text.length + (appended srcs).length) :
    appends (held n text) srcs = none := by
  induction srcs generalizing text with
  | nil => exact absurd rfl some_text
  | cons src srcs ih =>
    have others := fun s hs => plain s (List.mem_cons_of_mem _ hs)
    cases src with
    | none =>
      have rest := ih text others some_text full
      simp [appends, strcat2, rest]
    | some s =>
      have hs := plain _ List.mem_cons_self s rfl
      rw [appended, Option.getD_some, List.length_append] at full
      by_cases room : text.length + s.length < n
      · have left : appended srcs ≠ [] := by
          intro none_left
          rw [none_left, List.length_nil] at full
          omega
        have rest := ih (text ++ s) others left (by rw [List.length_append]; omega)
        simp [appends, strcat2_held hs room, rest]
      · simp [appends, strcat2_held_full hs (Nat.not_lt.mp room)]

theorem texts_initial {text t : CStr} {srcs : List (Option CStr)} (h : t ∈ texts text srcs) :
    t <+: text ++ appended srcs := by
  induction srcs generalizing text with
  | nil => cases h
  | cons src srcs ih =>
    rw [texts, List.mem_cons] at h
    rw [appended, ← List.append_assoc]
    rcases h with rfl | h
    · exact List.prefix_append _ _
    · exact ih h

theorem texts_last (text : CStr) (src : Option CStr) (srcs : List (Option CStr)) :
    (texts text (src :: srcs)).getLast? = some (text ++ appended (src :: srcs)) := by
  induction srcs generalizing text src with
  | nil => simp [texts, appended]
  | cons next srcs ih =>
    have rest := ih (text ++ src.getD []) next
    rw [texts] at rest
    rw [texts, texts, List.getLast?_cons_cons, rest, appended.eq_2 src, ← List.append_assoc]

theorem appended_plain {srcs : List (Option CStr)}
    (plain : ∀ src ∈ srcs, ∀ s, src = some s → NUL ∉ s) : NUL ∉ appended srcs := by
  induction srcs with
  | nil => exact List.not_mem_nil
  | cons src srcs ih =>
    rw [appended, List.mem_append, not_or]
    refine ⟨?_, ih fun s hs => plain s (List.mem_cons_of_mem _ hs)⟩
    cases src with
    | none => exact List.not_mem_nil
    | some s => exact plain _ List.mem_cons_self s rfl

/-- The pointer addresses the terminator of the string that its buffer holds. -/
def AtTerminator (c : Cursor) : Prop :=
  c.buffer[c.pos]? = some NUL ∧ NUL ∉ c.buffer.take c.pos

theorem held_atTerminator {n : ℕ} {text : CStr} (plain : NUL ∉ text) (room : text.length < n) :
    AtTerminator (held n text) := by
  constructor
  · rw [held, List.getElem?_append_right (Nat.le_refl _), Nat.sub_self,
      List.getElem?_replicate_of_lt (by omega)]
  · rw [held, List.take_left]
    exact plain

theorem held_string {n : ℕ} {text : CStr} (plain : NUL ∉ text) (room : text.length < n) :
    stringOf NUL (held n text).buffer = text := by
  obtain ⟨k, hk⟩ : ∃ k, n - text.length = k + 1 := ⟨n - text.length - 1, by omega⟩
  rw [held, hk, List.replicate_succ]
  exact stringOf_string plain _

theorem held_length {n : ℕ} {text : CStr} (room : text.length < n) :
    (held n text).buffer.length = n := by
  rw [held, List.length_append, List.length_replicate]
  omega

end LibZbxPgsql.StringBuffers
