import LibZbxPgsql.Connections
import LibZbxPgsql.StringBuffers

set_option autoImplicit false

namespace LibZbxPgsql.ConnstringBuffers
open CStrings hiding strcat2
open BoundedArrays StringBuffers
open Connections (DEFAULT_CONN_STRING DEFAULT_CONN_DBNAME)

/-- `NULL == s ? 0 : strlen(s)` -/
def strlen (s : Option CStr) : ℕ := (s.getD []).length

def bufferlen (connstring dbname : Option CStr) : ℤ :=
  toInt (strlen connstring + strlen dbname + 9) -- + ' dbname=\0'

/-- What each of the four calls of `strcat2` returns. -/
def build_connstring (connstring dbname : Option CStr) : Option (List Cursor) := do
  let res ← zeroed (bufferlen connstring dbname)
  let c₁ ← strcat2 ⟨res, 0⟩ (if strisnull connstring then some DEFAULT_CONN_STRING else connstring)
  let c₂ ← strcat2 c₁ (if strisnull connstring then none else some " ".toList)
  let c₃ ← strcat2 c₂ (some "dbname=".toList)
  let c₄ ← strcat2 c₃ (if strisnull dbname then DEFAULT_CONN_DBNAME else dbname)
  return [c₁, c₂, c₃, c₄]

def connstringText (connstring dbname : Option CStr) : CStr :=
  (if strisnull connstring then [] else connstring.getD [] ++ [' ']) ++
    "dbname=".toList ++ dbname.getD []

structure BuiltInside (connstring dbname : Option CStr) (cursors : List Cursor) : Prop where
  four : cursors.length = 4
  inside : ∀ c ∈ cursors, (c.buffer.length : ℤ) = bufferlen connstring dbname
  terminated : ∀ c ∈ cursors, AtTerminator c
  text : ∃ c, cursors.getLast? = some c ∧
    stringOf NUL c.buffer = connstringText connstring dbname
  sized : ((connstringText connstring dbname).length + 1 : ℤ) ≤ bufferlen connstring dbname
  exactly : strisnull connstring = false → dbname ≠ none →
    ((connstringText connstring dbname).length + 1 : ℤ) = bufferlen connstring dbname

/-- The calls stay inside the buffer and leave the text there. -/
def BuildsInside (connstring dbname : Option CStr) : Prop :=
  ∃ cursors, build_connstring connstring dbname = some cursors ∧
    BuiltInside connstring dbname cursors

def sources (connstring dbname : Option CStr) : List (Option CStr) :=
  [if strisnull connstring then some DEFAULT_CONN_STRING else connstring,
   if strisnull connstring then none else some " ".toList,
   some "dbname=".toList,
   if strisnull dbname then DEFAULT_CONN_DBNAME else dbname]

theorem build_connstring_appends (connstring dbname : Option CStr) :
    build_connstring connstring dbname =
      (zeroed (bufferlen connstring dbname)).bind fun res =>
        appends ⟨res, 0⟩ (sources connstring dbname) := by
  simp [build_connstring, sources, appends, Option.bind_assoc]

theorem appended_sources (connstring dbname : Option CStr) :
    appended (sources connstring dbname) = connstringText connstring dbname := by
  have name : (if strisnull dbname then DEFAULT_CONN_DBNAME else dbname).getD [] =
      dbname.getD [] := by
    match dbname with
    | none | some [] | some (_ :: _) => rfl
  rw [sources, appended, appended, appended, appended, appended, name, connstringText]
  cases h : strisnull connstring with
  | true => simp [DEFAULT_CONN_STRING]
  | false => simp

theorem sources_plain (connstring dbname : Option CString) :
    ∀ src ∈ sources (chars connstring) (chars dbname), ∀ s, src = some s → NUL ∉ s := by
  intro src hsrc s hs
  simp only [sources, List.mem_cons, List.not_mem_nil, or_false] at hsrc
  rcases hsrc with h | h | h | h
  · rw [h] at hs
    split at hs
    · obtain rfl := Option.some.inj hs
      exact List.not_mem_nil
    · exact chars_plain hs
  · rw [h] at hs
    split at hs
    · cases hs
    · obtain rfl := Option.some.inj hs
      decide
  · rw [h] at hs
    obtain rfl := Option.some.inj hs
    decide
  · rw [h] at hs
    split at hs
    · cases hs
    · exact chars_plain hs

/-- What the size formula adds up to, as an unbounded number. -/
def exactSize (connstring dbname : Option CStr) : ℕ := strlen connstring + strlen dbname + 9

theorem text_fits (connstring dbname : Option CStr) :
    (connstringText connstring dbname).length + 1 ≤ exactSize connstring dbname ∧
      exactSize connstring dbname ≤ (connstringText connstring dbname).length + 2 := by
  rw [connstringText, exactSize, strlen, strlen]
  match connstring with
  | none => simp
  | some [] => simp
  | some (_ :: _) =>
    simp
    omega

theorem text_fills {connstring dbname : Option CStr} (given : strisnull connstring = false) :
    (connstringText connstring dbname).length + 1 = exactSize connstring dbname := by
  obtain ⟨s, rfl, -⟩ := strisnull_eq_false given
  rw [connstringText, given, exactSize, strlen, strlen]
  simp
  omega

theorem connstringText_plain (connstring dbname : Option CString) :
    NUL ∉ connstringText (chars connstring) (chars dbname) := by
  rw [← appended_sources]
  exact appended_plain (sources_plain connstring dbname)

theorem builds_inside {connstring dbname : Option CString}
    (fits : exactSize (chars connstring) (chars dbname) ≤ INT_MAX) :
    BuildsInside (chars connstring) (chars dbname) := by
  obtain ⟨text, text_def⟩ : ∃ t, t = connstringText (chars connstring) (chars dbname) :=
    ⟨_, rfl⟩
  obtain ⟨n, n_def⟩ : ∃ n, n = exactSize (chars connstring) (chars dbname) := ⟨_, rfl⟩
  have size : bufferlen (chars connstring) (chars dbname) = n := by
    rw [n_def]
    exact toInt_small fits
  have room : text.length + 1 ≤ n := by
    rw [text_def, n_def]
    exact (text_fits _ _).1
  have plain : NUL ∉ text := by
    rw [text_def]
    exact connstringText_plain connstring dbname
  have held_texts := appends_held (n := n) [] (sources_plain connstring dbname)
    (by rw [appended_sources, ← text_def, List.length_nil]; omega)
  have on_the_way : ∀ t ∈ texts [] (sources (chars connstring) (chars dbname)),
      NUL ∉ t ∧ t.length < n := by
    intro t ht
    have before := texts_initial ht
    rw [List.nil_append, appended_sources, ← text_def] at before
    have shorter := before.length_le
    exact ⟨fun h => plain (before.subset h), by omega⟩
  refine ⟨(texts [] (sources (chars connstring) (chars dbname))).map (held n), ?_, ?_⟩
  · rw [build_connstring_appends, size, zeroed, if_neg (by omega), Option.bind_some]
    exact held_texts
  · constructor
    · rfl
    · intro c hc
      obtain ⟨t, ht, rfl⟩ := List.mem_map.mp hc
      rw [held_length (on_the_way t ht).2, size]
    · intro c hc
      obtain ⟨t, ht, rfl⟩ := List.mem_map.mp hc
      exact held_atTerminator (on_the_way t ht).1 (on_the_way t ht).2
    · refine ⟨held n text, ?_, (held_string plain (by omega)).trans text_def⟩
      rw [List.getLast?_map, sources, texts_last, ← sources, appended_sources, ← text_def]
      rfl
    · rw [← text_def, size]
      omega
    · intro given _
      rw [size, n_def, ← text_fills given]
      omega

/-- A size that does not fit an `int` leaves no buffer, or one that the text overruns. -/
theorem not_builds_inside {connstring dbname : Option CString}
    (large : INT_MAX < exactSize (chars connstring) (chars dbname)) :
    ¬ BuildsInside (chars connstring) (chars dbname) := by
  rintro ⟨cursors, run, -⟩
  have wrapped : bufferlen (chars connstring) (chars dbname) ≤
      exactSize (chars connstring) (chars dbname) - 2 ^ 32 := toInt_large large
  have long := (text_fits (chars connstring) (chars dbname)).2
  rw [build_connstring_appends, zeroed] at run
  by_cases negative : bufferlen (chars connstring) (chars dbname) < 0
  · rw [if_pos negative] at run
    cases run
  · rw [if_neg negative, Option.bind_some] at run
    have overrun := appends_overrun (n := (bufferlen (chars connstring) (chars dbname)).toNat)
      [] (sources_plain connstring dbname)
      (by rw [appended_sources]; simp [connstringText])
      (by rw [appended_sources, List.length_nil]; omega)
    rw [held, List.nil_append, List.length_nil, Nat.sub_zero] at overrun
    rw [overrun] at run
    cases run

theorem build_connstring_inside_iff (connstring dbname : Option CString) :
    BuildsInside (chars connstring) (chars dbname) ↔
      strlen (chars connstring) + strlen (chars dbname) + 9 ≤ INT_MAX := by
  constructor
  · intro inside
    by_contra large
    exact not_builds_inside (Nat.not_le.mp large) inside
  · exact builds_inside

theorem strlen_letters (n : ℕ) : strlen (chars (some (letters n))) = n :=
  List.length_replicate

/-- The size wraps to the nine bytes of the constant. -/
theorem long_connstring_overruns :
    ¬ BuildsInside (chars (some (letters (2 ^ 32)))) (chars none) := by
  apply not_builds_inside
  rw [exactSize, strlen_letters]
  decide

theorem strcat2_getD (dest : CStr) (src : Option CStr) :
    CStrings.strcat2 dest src = dest ++ src.getD [] := by
  cases src with
  | none => exact (List.append_nil dest).symm
  | some s => rfl

/-- On a buffer, the calls leave what they make of strings without bounds. -/
theorem built_connstring {connstring dbname : Option CStr} {cursors : List Cursor}
    (built : BuiltInside connstring dbname cursors) :
    ∃ c, cursors.getLast? = some c ∧
      stringOf NUL c.buffer = Connections.build_connstring connstring dbname := by
  obtain ⟨c, last, holds⟩ := built.text
  refine ⟨c, last, ?_⟩
  rw [holds, ← appended_sources, Connections.build_connstring]
  simp only [strcat2_getD, sources, appended, List.nil_append, List.append_nil, List.append_assoc]

end LibZbxPgsql.ConnstringBuffers
