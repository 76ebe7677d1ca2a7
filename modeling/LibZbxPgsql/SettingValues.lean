import LibZbxPgsql.IntegerResults

set_option autoImplicit false

namespace LibZbxPgsql.SettingValues
open StateFaultWp CStrings AgentModel Connections Drivers QueryKeys ItemKeys
open Dialogues WorldView Sessions DialogueRefinement DriverDialogues HandlerPlans KeyPlans
open HandleDiscipline Conclusions NumberTexts Reports

section Settings
variable {S : Server} {g : Globals} {request : AGENT_REQUEST} {server : S.State}
  {name value type : CStr}

def AnswersSetting (S : Server) (server : S.State) (request : AGENT_REQUEST)
    (value type : CStr) : Prop :=
  ∃ tuples row rows, (session S server (.query (requestConnstring request) PGSQL_GET_SETTING
      (bound (get_rparam request PARAM_FIRST)))).1 = .answered tuples ∧
    tuples.rows = (some value :: some type :: row) :: rows

theorem setting_delivers (given : get_rparam request PARAM_FIRST = some name)
    (nonempty : name ≠ []) (answer : AnswersSetting S server request value type) :
    Delivers S g request .PG_SETTING server (.value (settingValue value type)) := by
  obtain ⟨tuples, row, rows, replied, hrows⟩ := answer
  have result : (played S g request .PG_SETTING server).result =
      .ok ⟨.value (settingValue value type), []⟩ := by
    have asks : (plan g request .PG_SETTING).dialogue request =
        settingAsk request (get_rparam request PARAM_FIRST) := by
      obtain ⟨c, rest, rfl⟩ := List.exists_cons_of_ne_nil nonempty
      rw [plan, settingPlan, given]
      rfl
    rw [played, asks, settingAsk, play_ask, replied]
    simp only [settingEnd, hrows, play_done, fieldText, Option.getD_some]
  exact delivers_of_played result

def integerType : CStr := "integer".toList

/-- The types whose values are reported as they are. -/
def textTypes : List CStr := ["string".toList, "enum".toList, "bool".toList]

/-- The result is this integer, as a number or in the words of the server. -/
def Denotes (result : AGENT_RESULT) (value : CStr) (z : ℤ) : Prop :=
  (∃ n : ℕ, result.ui64 = some n ∧ (n : ℤ) = z) ∨ result.str = some (.text value)

def InRange (n : SignedDigits) : Prop := -2 ^ 63 ≤ n.value ∧ n.value < 2 ^ 63

/-- The result keeps the value of the setting. -/
def KeepsValue (value type : CStr) (result : AGENT_RESULT) : Prop :=
  (type = integerType → ∀ n : SignedDigits, n.text = value → InRange n →
    Denotes result value n.value) ∧
  (type ∈ textTypes → result.str = some (.text value))

def NotNegative (value type : CStr) : Prop :=
  type = integerType → ∀ n : SignedDigits, n.text = value → InRange n → 0 ≤ n.value

theorem settingValue_text (h : type ∈ textTypes) :
    settingValue value type = .str (.text value) := by
  simp only [textTypes, List.mem_cons, List.not_mem_nil, or_false] at h
  rcases h with rfl | rfl | rfl <;> rfl

theorem settingValue_integer : settingValue value integerType = .ui64 (strtoull value) := rfl

theorem denotes_integer_iff {n : SignedDigits} (range : InRange n) :
    Denotes ((settingValue n.text integerType).on .empty) n.text n.value ↔ 0 ≤ n.value := by
  obtain ⟨low, high⟩ := range
  have digits : digitsValue n.digits < 2 ^ 64 := by
    rw [SignedDigits.value] at low high
    by_cases minus : n.sign = some true
    · rw [if_pos minus] at low
      omega
    · rw [if_neg minus] at high
      omega
  have read := strtoull_signed n digits
  rw [settingValue_integer]
  constructor
  · rintro (⟨k, hk, same⟩ | text)
    · cases hk
      omega
    · cases text
  · intro nonneg
    exact .inl ⟨_, rfl, by omega⟩

theorem setting_kept_iff (given : get_rparam request PARAM_FIRST = some name)
    (nonempty : name ≠ []) (answer : AnswersSetting S server request value type) :
    (∀ w, call g request .PG_SETTING (World.start server) = .ok .SYSINFO_RET_OK w →
      KeepsValue value type w.result) ↔ NotNegative value type := by
  have delivers := setting_delivers (g := g) given nonempty answer
  constructor
  · intro kept type_eq n text range
    obtain ⟨w, run, result⟩ := delivers
    have denotes := (kept w run).1 type_eq n text range
    rw [result, type_eq, ← text] at denotes
    exact (denotes_integer_iff range).mp denotes
  · intro nonneg w run
    have result := (delivers_result delivers run).2
    constructor
    · intro type_eq n text range
      have below := nonneg type_eq n text range
      rw [result, type_eq, ← text]
      exact (denotes_integer_iff range).mpr below
    · intro listed
      rw [result, settingValue_text listed]
      rfl

end Settings

def oneSetting (value type : CStr) : List (ConnectReply × ExecReply) :=
  [(.CONNECTION_OK, .PGRES_TUPLES_OK
    ⟨["setting".toList, "vartype".toList], [[some value, some type]], by simp⟩)]

def settingRequest (name : String) : AGENT_REQUEST :=
  ⟨"pg.setting".toList, [[], [], name.toList]⟩

theorem oneSetting_answers (value type : CStr) (request : AGENT_REQUEST) :
    AnswersSetting scripted (oneSetting value type) request value type :=
  ⟨_, [], [], rfl, rfl⟩

theorem setting_kept_iff_max_connections :
    (∀ w, call defaults (settingRequest "max_connections") .PG_SETTING
        (World.start (S := scripted) (oneSetting "100".toList integerType)) =
          .ok .SYSINFO_RET_OK w →
      KeepsValue "100".toList integerType w.result) ↔ NotNegative "100".toList integerType :=
  setting_kept_iff rfl (by decide) (oneSetting_answers _ _ _)

/-- `-1`, the setting that turns the limit off, is reported as the largest number. -/
theorem negative_setting_wraps :
    ∃ w, call defaults (settingRequest "temp_file_limit") .PG_SETTING
        (World.start (S := scripted) (oneSetting "-1".toList integerType)) =
          .ok .SYSINFO_RET_OK w ∧
      w.result.ui64 = some 18446744073709551615 ∧
      ¬ KeepsValue "-1".toList integerType w.result := by
  obtain ⟨w, run, result⟩ := setting_delivers (g := defaults) rfl (by decide)
    (oneSetting_answers "-1".toList integerType (settingRequest "temp_file_limit"))
  refine ⟨w, run, by rw [result]; rfl, ?_⟩
  intro kept
  have minus_one : InRange ⟨some true, ['1'], by decide, by decide⟩ := ⟨by decide, by decide⟩
  have denotes := kept.1 rfl _ rfl minus_one
  rw [result] at denotes
  rcases denotes with ⟨k, hk, same⟩ | text
  · cases hk
    exact absurd same (by decide)
  · cases text

end LibZbxPgsql.SettingValues
