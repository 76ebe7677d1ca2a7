import LibZbxPgsql.BackendAccounting

set_option autoImplicit false

namespace LibZbxPgsql.FilteredCounts
open StateFaultWp CStrings PrintfFormat AgentModel Connections Drivers BackendKeys ItemKeys
open Dialogues WorldView Sessions DialogueRefinement DriverDialogues HandlerPlans KeyPlans
open ActivityClauses HandleDiscipline Conclusions QueryBinding BackendAccounting
open SqlTokens ClauseTokens SqlQueries SqlEvaluation ActivityView BackendFilters

section Partition
variable {V R : Type} (holds : V → R → Bool)

theorem filter_split (p q : R → Bool) (rows : List R) :
    (rows.filter fun r => p r && q r).length + (rows.filter fun r => p r && !q r).length =
      (rows.filter p).length := by
  induction rows with
  | nil => rfl
  | cons r rows ih =>
    cases hp : p r <;> cases hq : q r <;> simp [hp, hq] <;> omega

theorem filter_partition (rows : List R) {values : List V}
    (exclusive : values.Pairwise fun v w => ∀ r ∈ rows, ¬ (holds v r = true ∧ holds w r = true))
    (p : R → Bool) :
    (values.map fun v => (rows.filter fun r => p r && holds v r).length).sum +
      (rows.filter fun r => p r && values.all fun v => !holds v r).length =
        (rows.filter p).length := by
  induction values generalizing p with
  | nil => simp
  | cons v values ih =>
    obtain ⟨apart, exclusive⟩ := List.pairwise_cons.mp exclusive
    have rest := ih exclusive fun r => p r && !holds v r
    have same : ∀ w ∈ values, (rows.filter fun r => (p r && !holds v r) && holds w r) =
        rows.filter fun r => p r && holds w r := by
      intro w hw
      refine List.filter_congr fun r hr => ?_
      have not_both := apart w hw r hr
      cases hv : holds v r <;> cases hw' : holds w r <;> simp_all
    have counts : (values.map fun w =>
        (rows.filter fun r => (p r && !holds v r) && holds w r).length) =
          values.map fun w => (rows.filter fun r => p r && holds w r).length :=
      List.map_congr_left fun w hw => by rw [same w hw]
    rw [counts] at rest
    simp only [Bool.and_assoc] at rest
    have first := filter_split p (holds v) rows
    simp only [List.map_cons, List.sum_cons, List.all_cons]
    omega

end Partition

/-- The request with this filter besides. -/
structure Narrows (request narrower : AGENT_REQUEST) (i : ℕ) (value : CStr) : Prop where
  given : get_rparam narrower (PARAM_FIRST + i) = some value
  same : ∀ j, j ≠ i → get_rparam narrower (PARAM_FIRST + j) = get_rparam request (PARAM_FIRST + j)

/-- Two values of a filter that the server compares with one column and tells apart there:
    oids that are different numbers, names that differ where names are kept, addresses that it
    reads as different ones, host names that differ, the two texts of a flag. -/
def Apart {α : Type} (session : Session α) (inet_pton : AddressFamily → CStr → Bool)
    (v w : CStr) : ℕ → Prop
  | 0 | 1 => is_oid v = is_oid w ∧
    if is_oid v then SqlQueries.digitsValue v ≠ SqlQueries.digitsValue w
    else nameIn 63 v ≠ nameIn 63 w
  | 2 => is_valid_ip inet_pton v = is_valid_ip inet_pton w ∧
    if is_valid_ip inet_pton v then session.inet_in v ≠ session.inet_in w else v ≠ w
  | _ => (v = "true".toList ∨ v = "false".toList) ∧ (w = "true".toList ∨ w = "false".toList) ∧
    v ≠ w

section Meaning
variable {α : Type} [DecidableEq α] {session : Session α} {g : Globals}
  {request narrower : AGENT_REQUEST} {i : ℕ} {value : CStr}

theorem matches_narrowed (narrows : Narrows request narrower i value) (given : value ≠ [])
    (r : Backend α) :
    filterMatches session g.inet_pton narrower r i =
      filterHolds session g.inet_pton value r i := by
  obtain ⟨c, cs, rfl⟩ := List.exists_cons_of_ne_nil given
  rw [filterMatches, narrows.given]

theorem matches_same (narrows : Narrows request narrower i value) {j : ℕ} (other : j ≠ i)
    (r : Backend α) :
    filterMatches session g.inet_pton narrower r j =
      filterMatches session g.inet_pton request r j := by
  rw [filterMatches, filterMatches, narrows.same j other]

theorem matches_open (absent : strisnull (get_rparam request (PARAM_FIRST + i)) = true)
    (r : Backend α) : filterMatches session g.inet_pton request r i = true := by
  rw [filterMatches]
  cases given : get_rparam request (PARAM_FIRST + i) with
  | none => rfl
  | some param =>
    cases param with
    | nil => rfl
    | cons c cs =>
      rw [given] at absent
      cases absent

theorem all_changed {f f' : ℕ → Bool} {l : List ℕ} (hi : i ∈ l) (here : f' i = true)
    (others : ∀ j, j ≠ i → f j = f' j) : l.all f = (l.all f' && f i) := by
  rw [Bool.eq_iff_iff, Bool.and_eq_true, List.all_eq_true, List.all_eq_true]
  constructor
  · intro all
    refine ⟨fun j hj => ?_, all i hi⟩
    by_cases same : j = i
    · exact same ▸ here
    · exact (others j same) ▸ all j hj
  · rintro ⟨all, added⟩ j hj
    by_cases same : j = i
    · exact same ▸ added
    · exact (others j same).symm ▸ all j hj

theorem counted_narrowed (hi : i ∈ [0, 1, 2, 3]) (narrows : Narrows request narrower i value)
    (given : value ≠ []) (absent : strisnull (get_rparam request (PARAM_FIRST + i)) = true)
    (r : Backend α) :
    counted session g.inet_pton narrower r =
      (counted session g.inet_pton request r &&
        filterHolds session g.inet_pton value r i) := by
  have all := all_changed (f := filterMatches session g.inet_pton narrower r) hi
    (matches_open absent r) fun j other => matches_same narrows other r
  rw [matches_narrowed narrows given] at all
  rw [counted, counted, all, Bool.and_assoc, Bool.and_assoc]

/-- A column of oids or, beside it, one of names holds at most one of two values that it
    tells apart. -/
theorem compared_exclusive {v w : CStr} {oid : Option ℕ} {name : Option CStr}
    (kind : is_oid v = is_oid w)
    (differ : if is_oid v then SqlQueries.digitsValue v ≠ SqlQueries.digitsValue w
      else nameIn 63 v ≠ nameIn 63 w)
    (first : (if is_oid v then decide (oid = some (SqlQueries.digitsValue v))
      else decide (name = some (nameIn 63 v))) = true)
    (second : (if is_oid w then decide (oid = some (SqlQueries.digitsValue w))
      else decide (name = some (nameIn 63 w))) = true) : False := by
  rw [← kind] at second
  split at differ
  · next is_number =>
    simp only [is_number, if_true, decide_eq_true_eq] at first second
    exact differ (Option.some.inj (first.symm.trans second))
  · next is_name =>
    simp only [is_name, Bool.false_eq_true, if_false, decide_eq_true_eq] at first second
    exact differ (Option.some.inj (first.symm.trans second))

/-- No row is one of those that two such values are for. -/
theorem apart_exclusive (hi : i ∈ [0, 1, 2, 3]) {v w : CStr}
    (apart : Apart session g.inet_pton v w i) (r : Backend α) :
    ¬ (filterHolds session g.inet_pton v r i = true ∧
      filterHolds session g.inet_pton w r i = true) := by
  rintro ⟨first, second⟩
  simp only [List.mem_cons, List.not_mem_nil, or_false] at hi
  rcases hi with rfl | rfl | rfl | rfl
  · exact compared_exclusive apart.1 apart.2 first second
  · exact compared_exclusive apart.1 apart.2 first second
  · obtain ⟨kind, differ⟩ := apart
    simp only [filterHolds, ← kind] at first second
    split at differ
    · next ip =>
      simp only [ip, if_true, Bool.and_eq_true, decide_eq_true_eq] at first second
      exact differ (first.2.symm.trans second.2)
    · next host =>
      simp only [host, Bool.false_eq_true, if_false, decide_eq_true_eq] at first second
      exact differ (Option.some.inj (first.symm.trans second))
  · obtain ⟨hv, hw, differ⟩ := apart
    simp only [filterHolds, decide_eq_true_eq] at first second
    have same := Option.some.inj (first.symm.trans second)
    rcases hv with rfl | rfl <;> rcases hw with rfl | rfl <;> simp_all

end Meaning

section Main
variable {α : Type} [DecidableEq α] (session : Session α) (g : Globals) (version : ℤ)
  (rows : List (Backend α))

/-- What the request sends to a server of this version counts so many. -/
def CountIs (request : AGENT_REQUEST) (n : ℕ) : Prop :=
  ∃ (text : CStr) (q : Query),
    (∀ (S : Server) (server : S.State), versionRead S server request = some version →
      version ≠ 0 → ¬ Refused S (afterVersionQuery S server request) request →
      commands (lastState (call g request .PG_BACKENDS_COUNT (World.start server))).trace =
        [(PGSQL_VERSION_NUM, []), (text, filterParams request)]) ∧
    parse text = some q ∧
    SqlEvaluation.run session (pg_stat_activity version rows) (filterParams request) q =
      some [some (.number n)]

/-- The request is not rejected, and its filters are ones that a server of this version can
    compare: `client_hostname` came with 9.1, `waiting` went with 9.6. -/
structure Accepted (request : AGENT_REQUEST) : Prop where
  kept : ¬ WaitingRejected request
  hostnames : ∀ param, get_rparam request (PARAM_FIRST + 2) = some param → param ≠ [] →
    is_valid_ip g.inet_pton param = false → 90100 ≤ version
  waits : strisnull (get_rparam request (PARAM_FIRST + 3)) = false → version < 90600
  range : ∀ param ∈ filterParams request, OidInRange param
  reads : ∀ param ∈ filterParams request, ReadsAddresses session g.inet_pton param

variable {session g}

theorem countIs_counted {request : AGENT_REQUEST} (accepted : Accepted session g version request) :
    CountIs session g version rows request
      (rows.filter (counted session g.inet_pton request)).length := by
  cases ht : activityText g.inet_pton request with
  | none => exact absurd ((activityText_none_iff _ _).mp ht) accepted.kept
  | some text =>
    exact ⟨PGSQL_GET_BACKENDS (pidColumn version) text, countQuery g.inet_pton request version,
      fun S server read nonzero reached => count_sent ht read nonzero reached,
      parse_count version ht,
      count_counts session version rows accepted.range accepted.reads⟩

/-- On one snapshot the counts for values of a filter that are told apart add up to the count
    without the filter, less the rows that none of the values is for. -/
theorem counts_add_up {request : AGENT_REQUEST} {i : ℕ} (hi : i ∈ [0, 1, 2, 3])
    (accepted : Accepted session g version request)
    (absent : strisnull (get_rparam request (PARAM_FIRST + i)) = true) {values : List CStr}
    (given : ∀ v ∈ values, v ≠ [])
    (apart : values.Pairwise fun v w => Apart session g.inet_pton v w i)
    (narrower : CStr → AGENT_REQUEST) (narrows : ∀ v, Narrows request (narrower v) i v)
    (each : ∀ v ∈ values, Accepted session g version (narrower v)) :
    ∃ (whole : ℕ) (counts : List ℕ), CountIs session g version rows request whole ∧
      List.Forall₂ (fun v n => CountIs session g version rows (narrower v) n) values counts ∧
      whole = counts.sum + (rows.filter fun r => counted session g.inet_pton request r &&
        values.all fun v => !filterHolds session g.inet_pton v r i).length := by
  refine ⟨_, values.map fun v =>
    (rows.filter (counted session g.inet_pton (narrower v))).length,
    countIs_counted version rows accepted, ?_, ?_⟩
  · rw [List.forall₂_map_right_iff, List.forall₂_same]
    exact fun v hv => countIs_counted version rows (each v hv)
  · have exclusive : values.Pairwise fun v w => ∀ r ∈ rows,
        ¬ (filterHolds session g.inet_pton v r i = true ∧
          filterHolds session g.inet_pton w r i = true) :=
      apart.imp fun differ r _ => apart_exclusive hi differ r
    have partition := filter_partition (fun v r => filterHolds session g.inet_pton v r i) rows
      exclusive (counted session g.inet_pton request)
    rw [← partition]
    congr 2
    refine List.map_congr_left fun v hv => ?_
    congr 1
    exact List.filter_congr fun r _ =>
      (counted_narrowed hi (narrows v) (given v hv) absent r).symm

end Main

def waitingRequest (value : CStr) : AGENT_REQUEST :=
  ⟨"pg.backends.count".toList, [[], [], [], [], [], value]⟩

def fourClients : List (Backend (List Char)) :=
  backend 1 (some 16384) :: [(2, some true), (3, some false), (4, some false), (5, none)].map
    fun p => { backend p.1 (some 16384) with waiting := p.2 }

theorem waitingRequest_accepted {value : CStr}
    (h : value = [] ∨ value = "true".toList ∨ value = "false".toList) :
    Accepted textAddresses loopback 90500 (waitingRequest value) := by
  have none_bound : filterParams (waitingRequest value) = [] := rfl
  refine ⟨?_, ?_, fun _ => by decide, ?_, ?_⟩
  · rintro ⟨param, given, some_value, not_true, not_false⟩
    obtain rfl : value = param := Option.some.inj given
    rcases h with h | h | h
    · exact some_value h
    · exact not_true h
    · exact not_false h
  · intro param given nonempty
    exact absurd (Option.some.inj given).symm nonempty
  · rw [none_bound]
    exact List.forall_mem_nil _
  · rw [none_bound]
    exact List.forall_mem_nil _

theorem waitingRequest_narrows (value : CStr) :
    Narrows (waitingRequest []) (waitingRequest value) 3 value := by
  refine ⟨rfl, fun j other => ?_⟩
  rcases j with _ | _ | _ | _ | j
  · rfl
  · rfl
  · rfl
  · exact absurd rfl other
  · have beyond : 6 ≤ PARAM_FIRST + (j + 1 + 1 + 1 + 1) := by
      rw [PARAM_FIRST]
      omega
    rw [get_rparam, get_rparam, List.getElem?_eq_none beyond, List.getElem?_eq_none beyond]

theorem counts_add_up_waiting :
    ∃ (whole : ℕ) (counts : List ℕ),
      CountIs textAddresses loopback 90500 fourClients (waitingRequest []) whole ∧
      List.Forall₂ (fun v n =>
        CountIs textAddresses loopback 90500 fourClients (waitingRequest v) n)
        ["true".toList, "false".toList] counts ∧
      whole = counts.sum + (fourClients.filter fun r =>
        counted textAddresses loopback.inet_pton (waitingRequest []) r &&
          ["true".toList, "false".toList].all fun v =>
            !filterHolds textAddresses loopback.inet_pton v r 3).length := by
  have values : ∀ v ∈ ["true".toList, "false".toList], v = "true".toList ∨ v = "false".toList :=
    fun v hv => by simpa using hv
  refine counts_add_up 90500 fourClients (by decide) (waitingRequest_accepted (.inl rfl)) rfl
    ?_ ?_ waitingRequest waitingRequest_narrows ?_
  · intro v hv
    rcases values v hv with rfl | rfl <;> decide
  · exact List.pairwise_pair.mpr ⟨.inl rfl, .inr rfl, by decide⟩
  · exact fun v hv => waitingRequest_accepted (.inr (values v hv))

end LibZbxPgsql.FilteredCounts
