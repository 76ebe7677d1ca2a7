import LibZbxPgsql.NumberTexts
import LibZbxPgsql.Reports
import LibZbxPgsql.SqlEvaluation

set_option autoImplicit false

namespace LibZbxPgsql.IntegerResults
open StateFaultWp CStrings AgentModel Connections Drivers IndexKeys ItemKeys
open Dialogues WorldView Sessions DialogueRefinement DriverDialogues HandlerPlans KeyPlans
open HandleDiscipline Conclusions NumberTexts Reports
open SqlEvaluation (natural)

section Readings
variable {n : Numeral}

theorem second_is_point :
    n.text[1]? = some '.' ↔ n.whole.length = 1 ∧ n.fraction ≠ [] := by
  obtain ⟨c, digits, hw⟩ := List.exists_cons_of_ne_nil n.whole_given
  have all := n.whole_digits
  rw [Numeral.text, hw, List.cons_append, List.getElem?_cons_succ, List.length_cons]
  cases digits with
  | cons d digits =>
    rw [hw] at all
    simp only [List.all_cons, Bool.and_eq_true] at all
    have other : d ≠ '.' := by
      rintro rfl
      exact absurd all.2.1 (by decide)
    simp [other]
  | nil =>
    cases n.fraction with
    | cons d digits => simp [fractionText]
    | nil => cases n.exponent <;> simp [fractionText, exponentText]

theorem readUInt64_eq (n : Numeral) :
    readUInt64 n.text = if n.whole.length = 1 ∧ n.fraction ≠ [] then toUInt64 ⌊n.value⌋
      else min (digitsValue n.whole) ULLONG_MAX := by
  have guard : (1 < n.text.length ∧ n.text[1]? = some '.') ↔
      n.whole.length = 1 ∧ n.fraction ≠ [] := by
    rw [← second_is_point]
    refine and_iff_right_of_imp fun h => ?_
    exact (List.getElem?_eq_some_iff.mp h).1
  have nonneg : truncate n.value = ⌊n.value⌋ := if_pos (value_nonneg n)
  rw [readUInt64, strtod_text, strtoull_text, nonneg]
  simp only [guard]

theorem toUInt64_floor {q : ℚ} (nonneg : 0 ≤ q) (small : q < 2 ^ 64) :
    toUInt64 ⌊q⌋ = ⌊q⌋₊ := by
  have below : ⌊q⌋₊ < 2 ^ 64 := by
    rw [Nat.floor_lt nonneg]
    exact_mod_cast small
  rw [toUInt64, ← Int.natCast_floor_eq_floor nonneg]
  omega

/-- Its exponent, if it has one, follows a fraction or changes nothing. -/
def Unscaled (n : Numeral) : Prop :=
  n.exponent = none ∨ n.fraction ≠ [] ∨ digitsValue n.whole = 0 ∨ exponentValue n.exponent = 0

theorem readUInt64_iff (small : n.value < 2 ^ 64) :
    readUInt64 n.text = ⌊n.value⌋₊ ↔ Unscaled n := by
  have bound : ⌊n.value⌋₊ < 2 ^ 64 := by
    rw [Nat.floor_lt (value_nonneg n)]
    exact_mod_cast small
  rw [readUInt64_eq]
  by_cases point : n.whole.length = 1 ∧ n.fraction ≠ []
  · rw [if_pos point, toUInt64_floor (value_nonneg n) small]
    exact iff_of_true rfl (.inr (.inl point.2))
  rw [if_neg point]
  cases he : n.exponent with
  | none =>
    -- the fraction, if there is one, is what the conversion stops at
    have floor := floor_plain he
    rw [floor] at bound ⊢
    exact iff_of_true (min_eq_left (by simp only [ULLONG_MAX]; omega)) (.inl he)
  | some e =>
    have given : n.exponent ≠ none := by
      rw [he]
      exact Option.some_ne_none e
    have one := n.scientific given
    have no_fraction : n.fraction = [] := by
      by_contra other
      exact point ⟨one, other⟩
    have digit := digitsValue_lt n.whole_digits
    rw [one, pow_one] at digit
    have value : n.value = (digitsValue n.whole : ℚ) * 10 ^ exponentValue n.exponent := by
      rw [Numeral.value, no_fraction, List.append_nil, List.length_nil, Nat.cast_zero, sub_zero]
    have kept := floor_scaled digit (exponentValue n.exponent)
    rw [value, min_eq_left (by simp only [ULLONG_MAX]; omega), eq_comm, kept, Unscaled]
    simp only [given, no_fraction, false_or, ne_eq, not_true_eq_false]

end Readings

section Results
variable {S : Server} {w : World S} {v : View S} {params : PGparams} {request : AGENT_REQUEST}
  {query : CStr} {n : Numeral}

/-- The whole text reaches the conversion. -/
theorem integer_result (ready : Ready w v params) (fits : n.text.length < MAX_STRING_LEN)
    (answer : Answers S v.server request query (cells params) n.text) :
    ∃ w', pg_get_result request .AR_UINT64 query params w = .ok .SYSINFO_RET_OK w' ∧
      w'.result.ui64 = some (readUInt64 n.text) := by
  obtain ⟨w', run, result⟩ := pg_get_result_answered ready answer .AR_UINT64
  have whole : zbx_strlcpy n.text MAX_STRING_LEN = n.text := List.take_of_length_le (by omega)
  rw [whole] at run result
  exact ⟨w', run, by rw [result]; rfl⟩

/-- An integer result is the integral part of the number printed exactly where an exponent
    does not follow the first digit itself, unless it changes nothing. -/
theorem integer_result_iff (ready : Ready w v params) (fits : n.text.length < MAX_STRING_LEN)
    (small : n.value < 2 ^ 64)
    (answer : Answers S v.server request query (cells params) n.text) :
    (∃ w', pg_get_result request .AR_UINT64 query params w = .ok .SYSINFO_RET_OK w' ∧
      w'.result.ui64 = some ⌊n.value⌋₊) ↔ Unscaled n := by
  obtain ⟨w', run, result⟩ := integer_result ready fits answer
  rw [← readUInt64_iff small]
  constructor
  · rintro ⟨w'', run', result'⟩
    rw [run] at run'
    cases run'
    rw [result, Option.some.injEq] at result'
    exact result'
  · intro same
    exact ⟨w', run, by rw [result, same]⟩

end Results

section IndexStatistics
variable {S : Server} {g : Globals} {request : AGENT_REQUEST} {server : S.State}

def indexStatQuery (request : AGENT_REQUEST) : CStr :=
  zbx_snprintf MAX_STRING_LEN
    (if strisnull (get_rparam request PARAM_FIRST) then indexStatSum (request.key.drop 9)
      else indexStat (request.key.drop 9))

def indexStatioQuery (request : AGENT_REQUEST) : CStr :=
  if strisnull (get_rparam request PARAM_FIRST) then
    zbx_snprintf MAX_STRING_LEN (PGSQL_GET_INDEX_STATIO_SUM (request.key.drop 9))
  else zbx_snprintf MAX_STRING_LEN (indexStatio (request.key.drop 9))

theorem indexStat_delivers {t : CStr} (answer : Answers S server request (indexStatQuery request)
      (bound (get_rparam request PARAM_FIRST)) t) :
    Delivers S g request .PG_STAT_ALL_INDEXES server (.value (.ui64 (toUInt64 (atoi t)))) := by
  obtain ⟨tuples, value, row, rows, replied, hrows, rfl⟩ := firstText_rows answer
  have result : (played S g request .PG_STAT_ALL_INDEXES server).result =
      .ok ⟨.value (.ui64 (toUInt64 (atoi (fieldText value)))), []⟩ := by
    change (play (session S) (.ask (.query _ (indexStatQuery request) _) _) server).result = _
    rw [play_ask, replied]
    simp only [indexStatEnd, hrows, play_done]
  exact delivers_of_played result

theorem indexStatio_delivers {t : CStr} (answer : Answers S server request
      (indexStatioQuery request) (bound (get_rparam request PARAM_FIRST)) t) :
    Delivers S g request .PG_STATIO_ALL_INDEXES server
      (.value (.ui64 (readUInt64 (zbx_strlcpy t MAX_STRING_LEN)))) :=
  delivers_answered .AR_UINT64 rfl answer

theorem readUInt64_ofNat {k : ℕ} (small : k < 2 ^ 64) :
    readUInt64 (Numeral.ofNat k).text = k := by
  have value : (Numeral.ofNat k).value < 2 ^ 64 := by
    rw [ofNat_value]
    exact_mod_cast small
  have read := (readUInt64_iff value).mpr (.inl rfl)
  rw [read, ofNat_value, Nat.floor_natCast]

/-- However many digits are cut off, what is left is no less than the largest result. -/
theorem readUInt64_cut (k : ℕ) :
    readUInt64 (zbx_strlcpy (Numeral.ofNat k).text MAX_STRING_LEN) = min k ULLONG_MAX := by
  have text : zbx_strlcpy (Numeral.ofNat k).text MAX_STRING_LEN =
      (Numeral.cut k 2047 (by decide)).text := by
    simp [zbx_strlcpy, MAX_STRING_LEN, Numeral.text, Numeral.ofNat, Numeral.cut, fractionText,
      exponentText]
  have value : digitsValue (Nat.toDigits 10 k) = k := Nat.ofDigitChars_ten_toDigits
  rw [text, readUInt64_eq, if_neg fun h => h.2 rfl]
  change min (digitsValue ((Nat.toDigits 10 k).take 2047)) ULLONG_MAX = _
  rcases Nat.lt_or_ge 2047 (Nat.toDigits 10 k).length with long | short
  · obtain ⟨large, kept⟩ := digitsValue_take (n := 2046) long
    have most : ∀ n, 20 ≤ n → ULLONG_MAX ≤ 10 ^ n := fun n hn =>
      (by decide : ULLONG_MAX ≤ 10 ^ 20).trans (Nat.pow_le_pow_right (by decide) hn)
    have top := most 2046 (by decide)
    rw [min_eq_right (top.trans kept), min_eq_right (top.trans large)]
  · rw [List.take_of_length_le short, value]

section Fields
variable {α : Type}

/-- A field of a whole number as `pg_get_int` reports it. -/
def uint64Of : SqlEvaluation.Value α → ℕ
  | some (.number q) => readUInt64 (zbx_strlcpy (Numeral.ofNat q.num.toNat).text MAX_STRING_LEN)
  | _ => readUInt64 (zbx_strlcpy (fieldText none) MAX_STRING_LEN)

/-- The largest result stands for what is larger, and 0 for what is missing. -/
def capped (n : Option ℕ) : ℕ := min (n.getD 0) ULLONG_MAX

theorem uint64Of_natural (n : Option ℕ) : uint64Of (natural (α := α) n) = capped n := by
  cases n with
  | none => rfl
  | some k => exact readUInt64_cut k

end Fields

/-- Through a 32-bit `int`. -/
theorem atoi_ofNat_iff {k : ℕ} (range : k < 2 ^ 63) :
    toUInt64 (atoi (Numeral.ofNat k).text) = k ↔ k < 2 ^ 31 := by
  rw [atoi, strtol_text, ofNat_whole, LONG_MAX, toInt, toUInt64]
  omega

/-- Both report the counter exactly where it fits a 32-bit `int`. -/
theorem index_statistics_agree_iff {request' : AGENT_REQUEST} {server' : S.State} {k : ℕ}
    (range : k < 2 ^ 63)
    (stat : Answers S server request (indexStatQuery request)
      (bound (get_rparam request PARAM_FIRST)) (Numeral.ofNat k).text)
    (statio : Answers S server' request' (indexStatioQuery request')
      (bound (get_rparam request' PARAM_FIRST)) (Numeral.ofNat k).text) :
    (Delivers S g request .PG_STAT_ALL_INDEXES server (.value (.ui64 k)) ∧
      Delivers S g request' .PG_STATIO_ALL_INDEXES server' (.value (.ui64 k))) ↔ k < 2 ^ 31 := by
  have short : (Numeral.ofNat k).text.length ≤ 20 := ofNat_length (by omega)
  have whole : zbx_strlcpy (Numeral.ofNat k).text MAX_STRING_LEN = (Numeral.ofNat k).text :=
    List.take_of_length_le (by simp only [MAX_STRING_LEN]; omega)
  have read := indexStatio_delivers (g := g) statio
  rw [whole, readUInt64_ofNat (by omega)] at read
  have converted := indexStat_delivers (g := g) stat
  rw [← atoi_ofNat_iff range]
  constructor
  · rintro ⟨reported, -⟩
    have same := delivers_unique converted reported
    simpa [Report.on, Value.on] using same
  · intro same
    rw [same] at converted
    exact ⟨converted, read⟩

end IndexStatistics

def oneValue (t : CStr) : List (ConnectReply × ExecReply) :=
  [(.CONNECTION_OK, .PGRES_TUPLES_OK ⟨["reltuples".toList], [[some t]], by simp⟩)]

theorem oneValue_answers (t : CStr) (request : AGENT_REQUEST) (query : CStr)
    (params : List CStr) : Answers scripted (oneValue t) request query params t := rfl

def millionAndAHalf : Numeral where
  whole := ['1']
  fraction := ['5']
  exponent := some (false, ['0', '6'])
  whole_given := by decide
  whole_digits := by decide
  fraction_digits := by decide
  exponent_digits := fun e he => by
    cases he
    decide
  scientific := fun _ => rfl

theorem millionAndAHalf_value : millionAndAHalf.value = 1500000 := by
  have digits : digitsValue ['1', '5'] = 15 := by decide
  have exponent : digitsValue ['0', '6'] = 6 := by decide
  norm_num [Numeral.value, millionAndAHalf, exponentValue, digits, exponent]

def million : Numeral where
  whole := ['1']
  fraction := []
  exponent := some (false, ['0', '6'])
  whole_given := by decide
  whole_digits := by decide
  fraction_digits := by decide
  exponent_digits := fun e he => by
    cases he
    decide
  scientific := fun _ => rfl

theorem million_value : million.value = 1000000 := by
  have digits : digitsValue ['1'] = 1 := by decide
  have exponent : digitsValue ['0', '6'] = 6 := by decide
  norm_num [Numeral.value, million, exponentValue, digits, exponent]

theorem integer_result_iff_million :
    (∃ w', pg_get_result (S := scripted) ⟨"pg.table.rows".toList, [[], [], "a".toList]⟩ .AR_UINT64
      "SELECT reltuples".toList none (World.start (oneValue millionAndAHalf.text)) =
        .ok .SYSINFO_RET_OK w' ∧ w'.result.ui64 = some ⌊millionAndAHalf.value⌋₊) ↔
      Unscaled millionAndAHalf := by
  refine integer_result_iff (ready_start _) (by decide) ?_ (oneValue_answers _ _ _ _)
  rw [millionAndAHalf_value]
  norm_num

/-- A million rows are reported as one. -/
theorem million_read_as_one :
    ∃ w', pg_get_result (S := scripted) ⟨"pg.table.rows".toList, [[], [], "a".toList]⟩ .AR_UINT64
        "SELECT reltuples".toList none (World.start (oneValue "1e+06".toList)) =
          .ok .SYSINFO_RET_OK w' ∧
      million.text = "1e+06".toList ∧ ⌊million.value⌋₊ = 1000000 ∧ w'.result.ui64 = some 1 := by
  have answer := oneValue_answers million.text
    ⟨"pg.table.rows".toList, [[], [], "a".toList]⟩ "SELECT reltuples".toList []
  obtain ⟨w', run, result⟩ := integer_result (ready_start _) (by decide) answer
  refine ⟨w', run, by decide, ?_, result⟩
  rw [million_value]
  norm_num

def indexRequest (key : String) : AGENT_REQUEST := ⟨key.toList, [[], [], "accounts_pkey".toList]⟩

theorem index_statistics_agree_iff_small :
    (Delivers scripted defaults (indexRequest "pg.index.idx_scan") .PG_STAT_ALL_INDEXES
        (oneValue (Numeral.ofNat 245).text) (.value (.ui64 245)) ∧
      Delivers scripted defaults (indexRequest "pg.index.idx_blks_hit") .PG_STATIO_ALL_INDEXES
        (oneValue (Numeral.ofNat 245).text) (.value (.ui64 245))) ↔ 245 < 2 ^ 31 :=
  index_statistics_agree_iff (by norm_num) (oneValue_answers _ _ _ _) (oneValue_answers _ _ _ _)

/-- The counter grows to 2^32, and is reported as 0. -/
theorem index_counter_wraps :
    Delivers scripted defaults (indexRequest "pg.index.idx_scan") .PG_STAT_ALL_INDEXES
        (oneValue "4294967295".toList) (.value (.ui64 18446744073709551615)) ∧
      Delivers scripted defaults (indexRequest "pg.index.idx_scan") .PG_STAT_ALL_INDEXES
        (oneValue "4294967296".toList) (.value (.ui64 0)) ∧
      ¬ Delivers scripted defaults (indexRequest "pg.index.idx_scan") .PG_STAT_ALL_INDEXES
        (oneValue "4294967296".toList) (.value (.ui64 4294967296)) := by
  have before := indexStat_delivers (g := defaults) (oneValue_answers "4294967295".toList
    (indexRequest "pg.index.idx_scan") _ _)
  have after := indexStat_delivers (g := defaults) (oneValue_answers "4294967296".toList
    (indexRequest "pg.index.idx_scan") _ _)
  have wrapped : toUInt64 (atoi "4294967296".toList) = 0 := by decide
  rw [wrapped] at after
  refine ⟨before, after, ?_⟩
  intro other
  have same := delivers_unique after other
  simp [Report.on, Value.on] at same

end LibZbxPgsql.IntegerResults
