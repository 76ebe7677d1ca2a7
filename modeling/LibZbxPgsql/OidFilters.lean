import LibZbxPgsql.BackendFilters

set_option autoImplicit false

namespace LibZbxPgsql.OidFilters
open CStrings AgentModel Connections BackendKeys SqlQueries SqlEvaluation BackendFilters

/-- The texts of oids: decimal digits whose value has 32 bits. -/
def IsOid (s : CStr) : Prop :=
  s ≠ [] ∧ (∀ c ∈ s, c.isDigit = true) ∧ SqlQueries.digitsValue s ≤ 4294967295

instance (s : CStr) : Decidable (IsOid s) := inferInstanceAs (Decidable (_ ∧ _ ∧ _))

def TooLarge (s : CStr) : Prop :=
  s ≠ [] ∧ (∀ c ∈ s, c.isDigit = true) ∧ 2 ^ 32 ≤ SqlQueries.digitsValue s

theorem isNumeral_iff (s : CStr) :
    isNumeral s = true ↔ s ≠ [] ∧ ∀ c ∈ s, c.isDigit = true := by
  simp [isNumeral]

theorem is_oid_iff (s : CStr) : is_oid s = true ↔ s ≠ [] ∧ ∀ c ∈ s, c.isDigit = true := by
  rw [is_oid_eq, isNumeral_iff]

/-- The server reads exactly these as oids. -/
theorem input_oid_iff {α : Type} (session : Session α) (s : CStr) :
    (input session .oid s).isSome = true ↔ IsOid s := by
  have bound : SqlQueries.digitsValue s < 2 ^ 32 ↔ SqlQueries.digitsValue s ≤ 4294967295 := by
    omega
  rw [input, IsOid, ← bound, ← and_assoc, ← isNumeral_iff]
  split
  · rename_i read
    exact iff_of_true rfl read
  · rename_i refused
    exact iff_of_false (by simp) refused

def oidColumn : ℕ → CStr
  | 0 => "datid".toList
  | _ => "usesysid".toList

def nameColumn : ℕ → CStr
  | 0 => "datname".toList
  | _ => "usename".toList

/-- The arm of the `switch` that compares one column with the parameter. -/
def comparesWith {S : Server} (c : ActivityClause) (param column : CStr) :
    Agent S (Except PGparams ActivityClause) := do
  let params ← param_append c.params (some param)
  let c ← writeFilter { c with params := params } column []
  return .ok c

/-- The text is taken for an oid where it is one, and the clause compares the column of
    oids with it there, and the column of names elsewhere. -/
structure ExactOn (s : CStr) : Prop where
  recognised : is_oid s = true ↔ IsOid s
  compared : ∀ (S : Server) (inet_pton : AddressFamily → CStr → Bool) (request : AGENT_REQUEST)
    (c : ActivityClause), ∀ i < 2,
      (activityFilter inet_pton request c s i : Agent S (Except PGparams ActivityClause)) =
        comparesWith c s (if IsOid s then oidColumn i else nameColumn i)

/-- The arm compares the column that the recogniser chooses. -/
theorem activityFilter_compares {S : Server} (inet_pton : AddressFamily → CStr → Bool)
    (request : AGENT_REQUEST) (c : ActivityClause) (s : CStr) {i : ℕ} (hi : i < 2) :
    (activityFilter inet_pton request c s i : Agent S (Except PGparams ActivityClause)) =
      comparesWith c s (if is_oid s = true then oidColumn i else nameColumn i) := by
  match i, hi with
  | 0, _ => rfl
  | 1, _ => rfl

/-- The recogniser is exact but on the numerals too large for an oid. -/
theorem is_oid_exact_iff (s : CStr) : ExactOn s ↔ ¬ TooLarge s := by
  constructor
  · rintro exact ⟨nonempty, digits, large⟩
    have accepted := (is_oid_iff s).mpr ⟨nonempty, digits⟩
    have small := (exact.recognised.mp accepted).2.2
    omega
  · intro small
    have recognised : is_oid s = true ↔ IsOid s := by
      rw [is_oid_iff]
      constructor
      · rintro ⟨nonempty, digits⟩
        have range : ¬ 2 ^ 32 ≤ SqlQueries.digitsValue s :=
          fun large => small ⟨nonempty, digits, large⟩
        exact ⟨nonempty, digits, by omega⟩
      · rintro ⟨nonempty, digits, -⟩
        exact ⟨nonempty, digits⟩
    refine ⟨recognised, ?_⟩
    intro S inet_pton request c i hi
    rw [activityFilter_compares inet_pton request c s hi]
    simp only [recognised]

/-- The value after the largest oid. -/
theorem large_numeral_is_oid : ¬ ExactOn "4294967296".toList := by
  intro exact
  have accepted : is_oid "4294967296".toList = true := by decide
  have large : ¬ SqlQueries.digitsValue "4294967296".toList ≤ 4294967295 := by decide
  exact large (exact.recognised.mp accepted).2.2

end LibZbxPgsql.OidFilters
