import LibZbxPgsql.ActivityClauses
import LibZbxPgsql.SqlTokens

set_option autoImplicit false

namespace LibZbxPgsql.ClauseTokens
open CStrings PrintfFormat AgentModel BackendKeys Sessions KeyPlans ActivityClauses SqlTokens

def andWord : Token := .word ['a', 'n', 'd']

def equals : Token := .symbol ['=']

section Conditions
variable (inet_pton : AddressFamily → CStr → Bool) (request : AGENT_REQUEST)

/-- The condition of a filter on a non-empty parameter, with its placeholder. -/
def filterCondition (param : CStr) (n : ℕ) : ℕ → List Token
  | 0 => [.word (if is_oid param then "datid".toList else "datname".toList), equals, .param n]
  | 1 => [.word (if is_oid param then "usesysid".toList else "usename".toList), equals, .param n]
  | _ =>
    if is_valid_ip inet_pton param then
      [.word "client_addr".toList, equals, .param n, .symbol [':', ':'], .word "inet".toList]
    else [.word "client_hostname".toList, equals, .param n]

def filterConditions : List ℕ → ℕ → List (List Token)
  | [], _ => []
  | i :: is, n =>
    match get_rparam request (PARAM_FIRST + i) with
    | none => filterConditions is n
    | some [] => filterConditions is n
    | some (d :: param) =>
      filterCondition inet_pton (d :: param) (n + 1) i :: filterConditions is (n + 1)

def waitingCondition (value : Bool) : List Token :=
  [.word "waiting".toList, equals, .word (if value then "true".toList else "false".toList)]

def waitingConditions : List (List Token) :=
  match get_rparam request (PARAM_FIRST + 3) with
  | none => []
  | some [] => []
  | some (d :: param) => [waitingCondition (d :: param = "true".toList)]

def conditions : List (List Token) :=
  filterConditions inet_pton request [0, 1, 2] 0 ++ waitingConditions request

def spelled (conditions : List (List Token)) : List Token :=
  conditions.flatMap fun condition => andWord :: condition

variable {inet_pton request}

/-- What holds of the condition of any filter holds of every condition of the clause. -/
theorem every_condition {P : List Token → Prop}
    (filter : ∀ param n i, P (filterCondition inet_pton param n i))
    (waiting : ∀ value, P (waitingCondition value)) :
    ∀ c ∈ conditions inet_pton request, P c := by
  have filters : ∀ is n, ∀ c ∈ filterConditions inet_pton request is n, P c := by
    intro is
    induction is with
    | nil =>
      intro n c hc
      cases hc
    | cons i is ih =>
      intro n
      rw [filterConditions]
      split
      · exact ih n
      · exact ih n
      · exact List.forall_mem_cons.mpr ⟨filter _ _ _, ih (n + 1)⟩
  refine List.forall_mem_append.mpr ⟨filters _ _, ?_⟩
  rw [waitingConditions]
  split
  · exact List.forall_mem_nil _
  · exact List.forall_mem_nil _
  · exact List.forall_mem_singleton.mpr (waiting _)

variable (inet_pton) in
theorem filterText_tokens (param : CStr) (i : ℕ) {n : ℕ} (hn : n < 4) :
    tokens (filterText PG_AND (filterColumn inet_pton param i).1
        (filterColumn inet_pton param i).2 n) =
      some (andWord :: filterCondition inet_pton param n i) := by
  have few : n = 0 ∨ n = 1 ∨ n = 2 ∨ n = 3 := by omega
  rcases i with _ | _ | i
  · rw [filterColumn, filterCondition]
    cases is_oid param <;> rcases few with rfl | rfl | rfl | rfl <;> decide
  · rw [filterColumn, filterCondition]
    cases is_oid param <;> rcases few with rfl | rfl | rfl | rfl <;> decide
  · simp only [filterColumn, filterCondition]
    cases is_valid_ip inet_pton param <;> rcases few with rfl | rfl | rfl | rfl <;> decide

theorem apart_space (text : CStr) : Apart (' ' :: text) = true := rfl

/-- The clause so far, with the tokens it reads as. -/
structure Reads (c : Clause) (ts : List Token) : Prop where
  tokens : SqlTokens.tokens c.text = some ts
  apart : Apart c.text = true
  word : c.word = PG_AND

theorem filtered_reads (is : List ℕ) {c : Clause} {ts : List Token} (h : Reads c ts)
    (few : c.pgi + is.length < 4) :
    Reads (is.foldl (addFilter inet_pton request) c)
      (ts ++ spelled (filterConditions inet_pton request is c.pgi)) := by
  induction is generalizing c ts with
  | nil => simpa [filterConditions, spelled] using h
  | cons i is ih =>
    rw [List.length_cons] at few
    rw [List.foldl_cons, addFilter, filterConditions]
    rcases get_rparam request (PARAM_FIRST + i) with _ | _ | ⟨d, param⟩
    · have rest := ih h (by omega)
      exact rest
    · have rest := ih h (by omega)
      exact rest
    · have added := filterText_tokens inet_pton (d :: param) i (n := c.pgi + 1) (by omega)
      have longer : Reads ⟨c.text ++ filterText c.word (filterColumn inet_pton (d :: param) i).1
          (filterColumn inet_pton (d :: param) i).2 (c.pgi + 1), PG_AND, c.pgi + 1⟩
          (ts ++ andWord :: filterCondition inet_pton (d :: param) (c.pgi + 1) i) := by
        refine ⟨tokens_append (apart_space _) h.tokens ?_,
          apart_append h.apart (apart_space _), rfl⟩
        rw [h.word]
        exact added
      have rest := ih longer (by simp only; omega)
      simpa [spelled] using rest

variable (inet_pton request) in
theorem filtered_tokens : Reads (filtered inet_pton request)
    (spelled (filterConditions inet_pton request [0, 1, 2] 0)) := by
  have start : Reads ⟨[], PG_AND, 0⟩ [] := ⟨rfl, rfl, rfl⟩
  exact filtered_reads [0, 1, 2] start (by decide)

theorem waitingText_tokens {param condition : CStr} (hw : waitingText param = some condition) :
    tokens (' ' :: PG_AND ++ ' ' :: condition) =
      some (andWord :: waitingCondition (param = "true".toList)) := by
  rw [waitingText_eq] at hw
  by_cases yes : param = "true".toList
  · rw [if_pos yes] at hw
    cases hw
    rw [decide_eq_true yes]
    decide
  · rw [if_neg yes] at hw
    rw [decide_eq_false yes]
    split at hw
    · cases hw
      decide
    · cases hw

/-- The clause reads as its conditions, each after its word. -/
theorem activityText_tokens {text : CStr} (ht : activityText inet_pton request = some text) :
    tokens text = some (spelled (conditions inet_pton request)) := by
  have filters := filtered_tokens inet_pton request
  rw [activityText] at ht
  rw [conditions, waitingConditions]
  rcases hp : get_rparam request (PARAM_FIRST + 3) with _ | _ | ⟨d, param⟩
  · simp only [hp, Option.some.injEq] at ht
    simpa [← ht] using filters.tokens
  · simp only [hp, Option.some.injEq] at ht
    simpa [← ht] using filters.tokens
  · simp only [hp] at ht
    obtain ⟨condition, hw, rfl⟩ := Option.map_eq_some_iff.mp ht
    have whole := tokens_append (apart_space _) filters.tokens (waitingText_tokens hw)
    rw [filters.word]
    simpa [spelled] using whole

theorem activityText_apart {text : CStr} (ht : activityText inet_pton request = some text) :
    Apart text = true ∧ text.length ≤ 140 := by
  have filters := filtered_tokens inet_pton request
  have fits := (filtered_fits inet_pton request).text
  rw [activityText] at ht
  rcases hp : get_rparam request (PARAM_FIRST + 3) with _ | _ | ⟨d, param⟩
  · simp only [hp, Option.some.injEq] at ht
    rw [← ht]
    exact ⟨filters.apart, by omega⟩
  · simp only [hp, Option.some.injEq] at ht
    rw [← ht]
    exact ⟨filters.apart, by omega⟩
  · simp only [hp] at ht
    obtain ⟨condition, hw, rfl⟩ := Option.map_eq_some_iff.mp ht
    have short := waitingText_length hw
    have word : PG_AND.length = 3 := by decide
    refine ⟨apart_append filters.apart (apart_space _), ?_⟩
    rw [filters.word]
    simp only [List.length_append, List.length_cons, word]
    omega

theorem filterCondition_placeholders (param : CStr) (n i : ℕ) :
    placeholders (andWord :: filterCondition inet_pton param n i) = [n] := by
  match i with
  | 0 => rfl
  | 1 => rfl
  | _ + 2 =>
    simp only [filterCondition]
    split <;> rfl

theorem filterConditions_placeholders (is : List ℕ) (n : ℕ) :
    placeholders (spelled (filterConditions inet_pton request is n)) =
      List.range' (n + 1)
        (is.flatMap fun i => bound (get_rparam request (PARAM_FIRST + i))).length := by
  induction is generalizing n with
  | nil => rfl
  | cons i is ih =>
    rw [filterConditions, List.flatMap_cons]
    match get_rparam request (PARAM_FIRST + i) with
    | none => exact ih n
    | some [] => exact ih n
    | some (d :: param) =>
      rw [spelled, List.flatMap_cons, placeholders_append, filterCondition_placeholders,
        ← spelled, ih (n + 1)]
      simp only [bound, List.length_append, List.length_singleton]
      rw [Nat.add_comm 1, List.range'_succ]
      rfl

theorem waitingConditions_placeholders :
    placeholders (spelled (waitingConditions request)) = [] := by
  rw [waitingConditions]
  match get_rparam request (PARAM_FIRST + 3) with
  | none => rfl
  | some [] => rfl
  | some (d :: param) => rfl

theorem filterParams_eq :
    filterParams request =
      [0, 1, 2].flatMap fun i => bound (get_rparam request (PARAM_FIRST + i)) := by
  simp [filterParams]

theorem activityText_numbered {text : CStr} (ht : activityText inet_pton request = some text) :
    Numbered text (filterParams request).length := by
  rw [Numbered, activityText_tokens ht, Option.map_some, conditions, spelled,
    List.flatMap_append, placeholders_append, ← spelled, ← spelled,
    filterConditions_placeholders, waitingConditions_placeholders, filterParams_eq,
    List.append_nil]

end Conditions

end LibZbxPgsql.ClauseTokens
