import LibZbxPgsql.KeyPlans

set_option autoImplicit false

namespace LibZbxPgsql.ActivityClauses
open CStrings PrintfFormat AgentModel Connections BackendKeys
open Dialogues Sessions DialogueRefinement DriverDialogues HandlerPlans KeyPlans

structure Clause where
  text : CStr
  word : CStr
  pgi : ℕ

section Clauses
variable (inet_pton : AddressFamily → CStr → Bool) (request : AGENT_REQUEST)

def addFilter (c : Clause) (i : ℕ) : Clause :=
  match get_rparam request (PARAM_FIRST + i) with
  | none => c
  | some [] => c
  | some (d :: param) =>
    ⟨c.text ++ filterText c.word (filterColumn inet_pton (d :: param) i).1
      (filterColumn inet_pton (d :: param) i).2 (c.pgi + 1), PG_AND, c.pgi + 1⟩

def filtered : Clause := [0, 1, 2].foldl (addFilter inet_pton request) ⟨[], PG_AND, 0⟩

/-- The whole clause, `none` where the waiting filter is rejected. -/
def activityText : Option CStr :=
  let c := filtered inet_pton request
  match get_rparam request (PARAM_FIRST + 3) with
  | none => some c.text
  | some [] => some c.text
  | some (d :: param) =>
    (waitingText (d :: param)).map fun condition => c.text ++ (' ' :: c.word ++ ' ' :: condition)

/-- The parameters the clause binds, in the order of its placeholders. -/
def filterParams : List CStr :=
  bound (get_rparam request (PARAM_FIRST + 0)) ++ bound (get_rparam request (PARAM_FIRST + 1)) ++
    bound (get_rparam request (PARAM_FIRST + 2))

def waitingRejected : Message :=
  vsnprintf MAX_STRING_LEN "Unsupported parameter value: \"%s\" in %s".toList
    [.string ((get_rparam request (PARAM_FIRST + 3)).getD []), .string request.key]

structure Fits (n : ℕ) (c : Clause) : Prop where
  text : c.text.length ≤ 40 * n
  word : c.word = PG_AND
  pgi : c.pgi ≤ n

theorem filterColumn_length (param : CStr) (i : ℕ) :
    (filterColumn inet_pton param i).1.length ≤ 15 ∧
      (filterColumn inet_pton param i).2.length ≤ 6 := by
  unfold filterColumn
  split
  · split <;> decide
  · split <;> decide
  · split <;> decide

theorem intDigits_length : ∀ {n : ℕ}, n ≤ 4 → (intDigits n).length ≤ 1
  | 0, _ | 1, _ | 2, _ | 3, _ | 4, _ => by decide

theorem filterText_length (param : CStr) (i : ℕ) {n : ℕ} (h : n ≤ 4) :
    (filterText PG_AND (filterColumn inet_pton param i).1 (filterColumn inet_pton param i).2
      n).length ≤ 40 := by
  have column := filterColumn_length inet_pton param i
  have digits := intDigits_length h
  have word : PG_AND.length = 3 := by decide
  have sign : " = $".toList.length = 4 := by decide
  simp only [filterText, List.length_append, List.length_cons, word, sign]
  omega

theorem addFilter_fits {n : ℕ} (hn : n < 4) {c : Clause} (h : Fits n c) (i : ℕ) :
    Fits (n + 1) (addFilter inet_pton request c i) := by
  have text := h.text
  have pgi := h.pgi
  unfold addFilter
  split
  · exact ⟨by omega, h.word, by omega⟩
  · exact ⟨by omega, h.word, by omega⟩
  · rename_i d param _
    have added := filterText_length inet_pton (d :: param) i (n := c.pgi + 1) (by omega)
    refine ⟨?_, rfl, by simpa using pgi⟩
    rw [h.word, List.length_append]
    omega

theorem filtered_fits : Fits 3 (filtered inet_pton request) := by
  have start : Fits 0 ⟨[], PG_AND, 0⟩ := ⟨by simp, rfl, by simp⟩
  have one := addFilter_fits inet_pton request (by omega) start 0
  have two := addFilter_fits inet_pton request (by omega) one 1
  exact addFilter_fits inet_pton request (by omega) two 2

theorem writeSteps_fits {text formatted : CStr} (next : CStr → Steps)
    (h : text.length + formatted.length < 4000) :
    writeSteps text formatted next = next (text ++ formatted) := by
  have whole : zbx_snprintf MAX_CLAUSE_LEN formatted = formatted := by
    apply zbx_snprintf_fits
    simp only [MAX_CLAUSE_LEN]
    omega
  rw [writeSteps, whole]
  refine if_neg ?_
  simp only [MAX_CLAUSE_LEN, List.length_append]
  omega

theorem filterSteps_dialogue {n i : ℕ} (hi : i < 3) (hn : n < 4) {c : Clause} (h : Fits n c)
    (is : List ℕ) (next : CStr → Steps) (params : List CStr) :
    (filterSteps inet_pton request (i :: is) c.text c.word c.pgi next).dialogue request params =
      (filterSteps inet_pton request is (addFilter inet_pton request c i).text
        (addFilter inet_pton request c i).word (addFilter inet_pton request c i).pgi
        next).dialogue request (params ++ bound (get_rparam request (PARAM_FIRST + i))) := by
  rw [filterSteps, addFilter]
  match get_rparam request (PARAM_FIRST + i) with
  | none => rw [bound, List.append_nil]
  | some [] => rw [bound, List.append_nil]
  | some (d :: param) =>
    have added := filterText_length inet_pton (d :: param) i (n := c.pgi + 1)
      (by have := h.pgi; omega)
    have text := h.text
    simp only [if_pos hi]
    rw [writeSteps_fits _ (by rw [h.word]; omega), Steps.dialogue]

theorem waitingText_length {param condition : CStr} (hw : waitingText param = some condition) :
    condition.length ≤ 15 := by
  unfold waitingText at hw
  split at hw
  · cases hw
    decide
  · split at hw
    · cases hw
      decide
    · cases hw

theorem waitingSteps_dialogue {c : Clause} (h : Fits 3 c) (next : CStr → Steps)
    (params : List CStr) :
    (filterSteps inet_pton request [3] c.text c.word c.pgi next).dialogue request params =
      match get_rparam request (PARAM_FIRST + 3) with
      | none => (next c.text).dialogue request params
      | some [] => (next c.text).dialogue request params
      | some (d :: param) =>
        match waitingText (d :: param) with
        | none => .done (.ok ⟨.error (vsnprintf MAX_STRING_LEN
            "Unsupported parameter value: \"%s\" in %s".toList
            [.string (d :: param), .string request.key]), held params⟩)
        | some condition =>
          (next (c.text ++ (' ' :: c.word ++ ' ' :: condition))).dialogue request params := by
  rw [filterSteps]
  match get_rparam request (PARAM_FIRST + 3) with
  | none => rfl
  | some [] => rfl
  | some (d :: param) =>
    simp only [Nat.lt_irrefl, if_false]
    cases hw : waitingText (d :: param) with
    | none => rfl
    | some condition =>
      have short := waitingText_length hw
      have text := h.text
      have word : PG_AND.length = 3 := by decide
      simp only
      rw [writeSteps_fits _ ?_]
      · rfl
      · rw [h.word]
        simp only [List.length_append, List.length_cons, word]
        omega

/-- The steps that build a clause bind the filters' parameters, and go on with the
    clause or reject the request. -/
theorem activitySteps_dialogue (next : CStr → Steps) (params : List CStr) :
    (activitySteps inet_pton request next).dialogue request params =
      match activityText inet_pton request with
      | none => .done (.ok ⟨.error (waitingRejected request),
          held (params ++ filterParams request)⟩)
      | some text => (next text).dialogue request (params ++ filterParams request) := by
  have start : Fits 0 ⟨[], PG_AND, 0⟩ := ⟨by simp, rfl, by simp⟩
  have one := addFilter_fits inet_pton request (by omega) start 0
  have two := addFilter_fits inet_pton request (by omega) one 1
  have three : Fits 3 (addFilter inet_pton request (addFilter inet_pton request
      (addFilter inet_pton request ⟨[], PG_AND, 0⟩ 0) 1) 2) := filtered_fits inet_pton request
  rw [activitySteps]
  rw [filterSteps_dialogue inet_pton request (by omega) (by omega) start,
    filterSteps_dialogue inet_pton request (by omega) (by omega) one,
    filterSteps_dialogue inet_pton request (by omega) (by omega) two]
  rw [waitingSteps_dialogue inet_pton request three, activityText, waitingRejected]
  simp only [List.append_assoc, filterParams]
  match get_rparam request (PARAM_FIRST + 3) with
  | none => rfl
  | some [] => rfl
  | some (d :: param) =>
    simp only [Option.getD_some]
    cases waitingText (d :: param) <;> rfl

def FilterGiven : Prop := ∃ i < 3, strisnull (get_rparam request (PARAM_FIRST + i)) = false

/-- The waiting filter is given, and neither of the texts it may be. -/
def WaitingRejected : Prop :=
  ∃ param, get_rparam request (PARAM_FIRST + 3) = some param ∧ param ≠ [] ∧
    param ≠ "true".toList ∧ param ≠ "false".toList

theorem bound_eq_nil_iff (param : Option CStr) : bound param = [] ↔ strisnull param = true := by
  match param with
  | none => simp [bound]
  | some [] => simp [bound]
  | some (c :: s) => simp [bound]

theorem filterParams_iff : filterParams request ≠ [] ↔ FilterGiven request := by
  rw [filterParams, FilterGiven, ne_eq, List.append_eq_nil_iff, List.append_eq_nil_iff,
    bound_eq_nil_iff, bound_eq_nil_iff, bound_eq_nil_iff]
  constructor
  · intro h
    by_contra none_given
    refine h ⟨⟨?_, ?_⟩, ?_⟩ <;> by_contra hi
    · exact none_given ⟨0, by omega, by simpa using hi⟩
    · exact none_given ⟨1, by omega, by simpa using hi⟩
    · exact none_given ⟨2, by omega, by simpa using hi⟩
  · rintro ⟨i, hi, given⟩ ⟨⟨h0, h1⟩, h2⟩
    match i, hi with
    | 0, _ => rw [h0] at given; cases given
    | 1, _ => rw [h1] at given; cases given
    | 2, _ => rw [h2] at given; cases given

/-- The two comparisons reach past the end of the words they compare with. -/
theorem waitingText_eq (param : CStr) :
    waitingText param =
      if param = "true".toList then some "waiting = TRUE".toList
      else if param = "false".toList then some "waiting = FALSE".toList
      else none := by
  have yes := strncmp_eq_zero_iff param "true".toList 5 (by decide)
  have no := strncmp_eq_zero_iff param "false".toList 6 (by decide)
  rw [strncmp_zero_comm] at yes no
  rw [waitingText]
  by_cases ht : param = "true".toList
  · rw [if_pos (yes.mpr ht).symm, if_pos ht]
  · rw [if_neg fun h => ht (yes.mp h.symm), if_neg ht]
    by_cases hf : param = "false".toList
    · rw [if_pos (no.mpr hf).symm, if_pos hf]
    · rw [if_neg fun h => hf (no.mp h.symm), if_neg hf]

theorem waitingText_none_iff (param : CStr) :
    waitingText param = none ↔ param ≠ "true".toList ∧ param ≠ "false".toList := by
  rw [waitingText_eq]
  by_cases ht : param = "true".toList
  · rw [if_pos ht]
    exact ⟨(nomatch ·), fun h => absurd ht h.1⟩
  · rw [if_neg ht]
    by_cases hf : param = "false".toList
    · rw [if_pos hf]
      exact ⟨(nomatch ·), fun h => absurd hf h.2⟩
    · rw [if_neg hf]
      exact ⟨fun _ => ⟨ht, hf⟩, fun _ => rfl⟩

theorem activityText_none_iff :
    activityText inet_pton request = none ↔ WaitingRejected request := by
  rw [activityText, WaitingRejected]
  match get_rparam request (PARAM_FIRST + 3) with
  | none => simp
  | some [] => simp
  | some (d :: param) => simp [waitingText_none_iff]

end Clauses

end LibZbxPgsql.ActivityClauses
