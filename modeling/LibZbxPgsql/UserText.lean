import LibZbxPgsql.StatementTexts
import LibZbxPgsql.Conclusions

set_option autoImplicit false

namespace LibZbxPgsql.UserText
open StateFaultWp CStrings PrintfFormat AgentModel Connections Drivers Discovery ItemKeys
open ServerKeys BackendKeys QueryKeys DatabaseKeys TableKeys IndexKeys
open Dialogues Sessions DialogueRefinement DriverDialogues HandlerPlans KeyPlans
open ActivityClauses SqlTokens StatementTexts HandleDiscipline Conclusions

inductive Test where
  | empty
  | oid
  | address
  | keyword (word : CStr)

def Test.passes (g : Globals) : Test → Option CStr → Bool
  | .empty, param => strisnull param
  | .oid, param => param.any is_oid
  | .address, param => param.any (is_valid_ip g.inet_pton)
  | .keyword word, param => param = some word

def activityTests : List (ℕ × Test) :=
  [(0, .empty), (0, .oid), (1, .empty), (1, .oid), (2, .empty), (2, .address), (3, .empty),
   (3, .keyword "true".toList), (3, .keyword "false".toList)]

def modeTests : List (ℕ × Test) :=
  [(0, .empty), (0, .keyword "deep".toList), (0, .keyword "shallow".toList)]

/-- The tests of a handler, each with the place of its parameter after the first two. -/
def tests : Handler → List (ℕ × Test)
  | .MODVER | .PG_CONNECT | .PG_VERSION | .PG_STARTTIME | .PG_UPTIME => []
  | Handler.PG_PREPARED_XACTS_RATIO | .PG_SETTING_DISCOVERY => []
  | .PG_BACKENDS_FREE | Handler.PG_BACKENDS_RATIO => []
  | .PG_STAT_BGWRITER | .PG_BG_AVG_INTERVAL | .PG_BG_STATS_RESET_INTERVAL => []
  | .PG_DB_DISCOVERY | .PG_TABLESPACE_DISCOVERY => []
  | .PG_BACKENDS_COUNT | .PG_QUERIES_LONGEST => activityTests
  | .PG_NAMESPACE_DISCOVERY | .PG_TABLE_DISCOVERY => modeTests
  | Handler.PG_BG_TIME_RATIO =>
    [(0, .empty), (0, .keyword "all".toList), (0, .keyword "write".toList),
     (0, .keyword "sync".toList)]
  | _ => [(0, .empty)]

/-- The handler's tests come out alike for both requests. -/
def SameClass (g : Globals) (f : Handler) (request request' : AGENT_REQUEST) : Prop :=
  ∀ t ∈ tests f, t.2.passes g (get_rparam request (PARAM_FIRST + t.1)) =
    t.2.passes g (get_rparam request' (PARAM_FIRST + t.1))

def bareSteps : Steps → Steps
  | .reject _ _ => .reject [] []
  | .fault e => .fault e
  | .append _ next => bareSteps next
  | .version next => .version fun v => bareSteps (next v)
  | .scalar type query => .scalar type query
  | .discovery query => .discovery query

def bare : Plan → Plan
  | .steps steps => .steps (bareSteps steps)
  | .report _ => .report []
  | .ping => .ping
  | .wide query => .wide query
  | .setting _ => .setting none
  | .indexStat query _ => .indexStat query none

section Bare
variable {g : Globals} {f : Handler} {request request' : AGENT_REQUEST}

theorem same_empty {i : ℕ} (same : SameClass g f request request')
    (ht : (i, .empty) ∈ tests f) : strisnull (get_rparam request (PARAM_FIRST + i)) =
      strisnull (get_rparam request' (PARAM_FIRST + i)) := same _ ht

theorem same_keyword {i : ℕ} {word : CStr} (same : SameClass g f request request')
    (ht : (i, .keyword word) ∈ tests f) : get_rparam request (PARAM_FIRST + i) = some word ↔
      get_rparam request' (PARAM_FIRST + i) = some word := by
  have alike := same _ ht
  simpa [Test.passes] using alike

theorem mode_bare (same : SameClass g f request request') (ht : tests f = modeTests)
    (query : CStr) : bare (modePlan request query) = bare (modePlan request' query) := by
  have known : ∀ t, t ∈ modeTests → t ∈ tests f := by
    rw [ht]
    exact fun _ h => h
  have empty := same_empty same (known (0, .empty) (by simp [modeTests]))
  have deep := same_keyword same (known (0, .keyword "deep".toList) (by simp [modeTests]))
  have shallow := same_keyword same (known (0, .keyword "shallow".toList) (by simp [modeTests]))
  simp only [Nat.add_zero] at empty deep shallow
  unfold modePlan
  simp only [empty, deep]
  split
  · rfl
  · simp only [shallow]
    split <;> rfl

def SameGiven (request request' : AGENT_REQUEST) : Prop :=
  strisnull (get_rparam request PARAM_FIRST) = strisnull (get_rparam request' PARAM_FIRST)

theorem requireName_bare (same : SameGiven request request') (message : CStr)
    {found : Option CStr → Steps}
    (h : ∀ name name', bareSteps (found name) = bareSteps (found name')) :
    bare (requireNamePlan request message found) =
      bare (requireNamePlan request' message found) := by
  unfold SameGiven at same
  unfold requireNamePlan
  simp only [same]
  split
  · rfl
  · exact congrArg Plan.steps (h _ _)

theorem intByName_bare (same : SameGiven request request') (all one : CStr) :
    bare (intByNamePlan request all one) = bare (intByNamePlan request' all one) := by
  unfold SameGiven at same
  unfold intByNamePlan
  simp only [same]
  rfl

theorem databaseInt_bare (same : SameGiven request request') (all one : CStr) :
    bare (databaseIntPlan request all one) = bare (databaseIntPlan request' all one) := by
  unfold SameGiven at same
  unfold databaseIntPlan
  simp only [same]
  rfl

theorem optionalName_bare (same : SameGiven request request') (type : ResultType)
    (all one : CStr) :
    bare (optionalNamePlan request type all one) =
      bare (optionalNamePlan request' type all one) := by
  unfold SameGiven at same
  unfold optionalNamePlan
  simp only [same]
  split <;> rfl

theorem statDatabase_bare (same : SameGiven request request') (key : request.key = request'.key) :
    bare (statDatabasePlan request) = bare (statDatabasePlan request') := by
  unfold SameGiven at same
  unfold statDatabasePlan
  cases hn : strisnull (get_rparam request' PARAM_FIRST) with
  | true =>
    rw [hn] at same
    simp only [same, hn, key, if_true, strisnull_none]
  | false =>
    rw [hn] at same
    simp only [same, hn, key, Bool.false_eq_true, if_false]
    split
    · rfl
    · split <;> rfl

theorem statAllTables_bare (same : SameGiven request request')
    (key : request.key = request'.key) :
    bare (statAllTablesPlan request) = bare (statAllTablesPlan request') := by
  unfold SameGiven at same
  unfold statAllTablesPlan
  simp only [same, key]
  split
  · split <;> rfl
  · rfl

theorem timeRatio_bare (same : SameClass g Handler.PG_BG_TIME_RATIO request request') :
    bare (timeRatioPlan request) = bare (timeRatioPlan request') := by
  have empty := same_empty same (by simp [tests] : (0, Test.empty) ∈ tests Handler.PG_BG_TIME_RATIO)
  have all := same_keyword same
    (by simp [tests] : (0, Test.keyword "all".toList) ∈ tests Handler.PG_BG_TIME_RATIO)
  have write := same_keyword same
    (by simp [tests] : (0, Test.keyword "write".toList) ∈ tests Handler.PG_BG_TIME_RATIO)
  have sync := same_keyword same
    (by simp [tests] : (0, Test.keyword "sync".toList) ∈ tests Handler.PG_BG_TIME_RATIO)
  simp only [Nat.add_zero] at empty all write sync
  have field : timeRatioField (get_rparam request PARAM_FIRST) =
      timeRatioField (get_rparam request' PARAM_FIRST) := by
    simp only [timeRatioField, empty, all, write, sync]
  unfold timeRatioPlan
  simp only [field]
  split <;> rfl

/-- A filter is given in both requests or in neither, and adds the same condition. -/
structure SameFilter (inet_pton : AddressFamily → CStr → Bool)
    (request request' : AGENT_REQUEST) (i : ℕ) : Prop where
  given : strisnull (get_rparam request (PARAM_FIRST + i)) =
    strisnull (get_rparam request' (PARAM_FIRST + i))
  column : i < 3 → ∀ p p', get_rparam request (PARAM_FIRST + i) = some p →
    get_rparam request' (PARAM_FIRST + i) = some p' →
    filterColumn inet_pton p i = filterColumn inet_pton p' i
  waiting : ¬ i < 3 → ∀ p p', get_rparam request (PARAM_FIRST + i) = some p →
    get_rparam request' (PARAM_FIRST + i) = some p' → waitingText p = waitingText p'

theorem same_passes {i : ℕ} {test : Test} (same : SameClass g f request request')
    (ht : (i, test) ∈ tests f) {p p' : CStr} (hp : get_rparam request (PARAM_FIRST + i) = some p)
    (hp' : get_rparam request' (PARAM_FIRST + i) = some p') :
    test.passes g (some p) = test.passes g (some p') := by
  have alike := same _ ht
  rwa [hp, hp'] at alike

theorem sameFilter (same : SameClass g f request request') (ht : tests f = activityTests) :
    ∀ i ∈ [0, 1, 2, 3], SameFilter g.inet_pton request request' i := by
  have known : ∀ t, t ∈ activityTests → t ∈ tests f := by
    rw [ht]
    exact fun _ h => h
  intro i hi
  simp only [List.mem_cons, List.not_mem_nil, or_false] at hi
  rcases hi with rfl | rfl | rfl | rfl
  · refine ⟨same_empty same (known (0, .empty) (by simp [activityTests])), ?_,
      fun h => absurd (by decide) h⟩
    intro _ p p' hp hp'
    have oid : is_oid p = is_oid p' :=
      same_passes same (known (0, .oid) (by simp [activityTests])) hp hp'
    rw [filterColumn, filterColumn, oid]
  · refine ⟨same_empty same (known (1, .empty) (by simp [activityTests])), ?_,
      fun h => absurd (by decide) h⟩
    intro _ p p' hp hp'
    have oid : is_oid p = is_oid p' :=
      same_passes same (known (1, .oid) (by simp [activityTests])) hp hp'
    rw [filterColumn, filterColumn, oid]
  · refine ⟨same_empty same (known (2, .empty) (by simp [activityTests])), ?_,
      fun h => absurd (by decide) h⟩
    intro _ p p' hp hp'
    have address : is_valid_ip g.inet_pton p = is_valid_ip g.inet_pton p' :=
      same_passes same (known (2, .address) (by simp [activityTests])) hp hp'
    simp only [filterColumn, address]
  · refine ⟨same_empty same (known (3, .empty) (by simp [activityTests])),
      fun h => absurd h (by decide), ?_⟩
    intro _ p p' hp hp'
    have yes := same_keyword same (known (3, .keyword "true".toList) (by simp [activityTests]))
    have no := same_keyword same (known (3, .keyword "false".toList) (by simp [activityTests]))
    rw [hp, hp', Option.some.injEq, Option.some.injEq] at yes no
    rw [waitingText_eq, waitingText_eq]
    simp only [yes, no]

theorem writeSteps_bare (buf formatted : CStr) {next next' : CStr → Steps}
    (h : ∀ buf, bareSteps (next buf) = bareSteps (next' buf)) :
    bareSteps (writeSteps buf formatted next) = bareSteps (writeSteps buf formatted next') := by
  unfold writeSteps
  dsimp only
  split
  · rfl
  · exact h _

theorem filterSteps_bare {inet_pton : AddressFamily → CStr → Bool} {next next' : CStr → Steps}
    (h : ∀ buf, bareSteps (next buf) = bareSteps (next' buf)) (is : List ℕ)
    (same : ∀ i ∈ is, SameFilter inet_pton request request' i) (buf clause : CStr) (pgi : ℕ) :
    bareSteps (filterSteps inet_pton request is buf clause pgi next) =
      bareSteps (filterSteps inet_pton request' is buf clause pgi next') := by
  induction is generalizing buf clause pgi with
  | nil => exact h buf
  | cons i is ih =>
    obtain ⟨given, column, waiting⟩ := same i List.mem_cons_self
    have rest := ih fun j hj => same j (List.mem_cons_of_mem _ hj)
    rw [filterSteps, filterSteps]
    rcases hp : get_rparam request (PARAM_FIRST + i) with _ | _ | ⟨d, param⟩ <;>
      rcases hp' : get_rparam request' (PARAM_FIRST + i) with _ | _ | ⟨d', param'⟩ <;>
      rw [hp, hp'] at given
    -- the one has the parameter where the other has it
    case none.some.cons => cases given
    case some.nil.some.cons => cases given
    case some.cons.none => cases given
    case some.cons.some.nil => cases given
    case some.cons.some.cons =>
      by_cases hi : i < 3
      · simp only [if_pos hi, column hi _ _ hp hp']
        exact writeSteps_bare _ _ fun buf => rest _ _ _
      · simp only [if_neg hi, waiting hi _ _ hp hp']
        cases waitingText (d' :: param') with
        | none => rfl
        | some condition => exact writeSteps_bare _ _ fun buf => rest _ _ _
    all_goals exact rest _ _ _

theorem activity_bare (same : SameClass g f request request') (ht : tests f = activityTests)
    {next next' : CStr → Steps} (h : ∀ buf, bareSteps (next buf) = bareSteps (next' buf)) :
    bareSteps (activitySteps g.inet_pton request next) =
      bareSteps (activitySteps g.inet_pton request' next') :=
  filterSteps_bare h [0, 1, 2, 3] (sameFilter same ht) [] PG_AND 0

theorem backendsCount_bare (same : SameClass g .PG_BACKENDS_COUNT request request') :
    bareSteps (backendsCountSteps g request) = bareSteps (backendsCountSteps g request') := by
  refine congrArg Steps.version ?_
  funext v
  exact activity_bare same rfl fun _ => rfl

theorem queriesLongest_bare (same : SameClass g .PG_QUERIES_LONGEST request request') :
    bareSteps (queriesLongestSteps g request) = bareSteps (queriesLongestSteps g request') :=
  activity_bare same rfl fun _ => rfl

/-- The user's text changes nothing else in the plan of a handler. -/
theorem plan_bare (not_query : f ≠ .PG_QUERY) (not_index : f ≠ .PG_INDEX_DISCOVERY)
    (key : request.key = request'.key) (same : SameClass g f request request') :
    bare (plan g request f) = bare (plan g request' f) := by
  cases f with
  | PG_QUERY => exact absurd rfl not_query
  | PG_INDEX_DISCOVERY => exact absurd rfl not_index
  | PG_BACKENDS_COUNT => exact congrArg Plan.steps (backendsCount_bare same)
  | PG_QUERIES_LONGEST => exact congrArg Plan.steps (queriesLongest_bare same)
  | PG_NAMESPACE_DISCOVERY | PG_TABLE_DISCOVERY => exact mode_bare same rfl _
  | PG_BG_TIME_RATIO => exact timeRatio_bare same
  | PG_STAT_BGWRITER =>
    have alike : bgwriterPlan request = bgwriterPlan request' := by
      simp only [bgwriterPlan, key]
    exact congrArg bare alike
  | PG_SETTING =>
    have given : SameGiven request request' := same_empty same List.mem_cons_self
    unfold SameGiven at given
    simp only [plan, settingPlan, given]
    split <;> rfl
  | PG_STAT_DATABASE => exact statDatabase_bare (same_empty same List.mem_cons_self) key
  | PG_STAT_ALL_TABLES => exact statAllTables_bare (same_empty same List.mem_cons_self) key
  | PG_STAT_ALL_INDEXES =>
    have given : SameGiven request request' := same_empty same List.mem_cons_self
    unfold SameGiven at given
    simp only [plan, statAllIndexesPlan, given, key]
    rfl
  | PG_STATIO_ALL_TABLES | PG_STATIO_ALL_INDEXES =>
    simp only [plan, key]
    exact intByName_bare (same_empty same List.mem_cons_self) _ _
  | PG_TABLE_SIZE | PG_TABLE_ROWS | PG_INDEX_ROWS =>
    exact intByName_bare (same_empty same List.mem_cons_self) _ _
  | PG_DB_SIZE | PG_DB_XID_AGE =>
    exact databaseInt_bare (same_empty same List.mem_cons_self) _ _
  | PG_TABLE_CHILDREN_DISCOVERY | PG_TABLE_CHILDREN | PG_TABLE_CHILDREN_SIZE
  | PG_TABLE_CHILDREN_ROWS | PG_TABLESPACE_SIZE | PG_NAMESPACE_SIZE =>
    exact requireName_bare (same_empty same List.mem_cons_self) _ fun _ _ => rfl
  | PG_PREPARED_XACTS_COUNT | PG_PREPARED_XACTS_AGE | PG_INDEX_SIZE | PG_DB_BLKS_RATIO
  | PG_TABLE_IDX_SCAN_RATIO | PG_TABLE_HEAP_BLKS_RATIO | PG_TABLE_IDX_BLKS_RATIO
  | PG_TABLE_TOAST_BLKS_RATIO | PG_TABLE_TIDX_BLKS_RATIO | PG_INDEX_IDX_BLKS_RATIO =>
    exact optionalName_bare (same_empty same List.mem_cons_self) _ _ _
  | _ => rfl

end Bare

def SameText : Question → Question → Prop
  | .ping _, .ping _ => True
  | .query _ text _, .query _ text' _ => text = text'
  | .ping _, .query _ _ _ => False
  | .query _ _ _, .ping _ => False

theorem sameText_symm : ∀ q q', SameText q q' → SameText q' q
  | .ping _, .ping _, _ => trivial
  | .query _ _ _, .query _ _ _, h => Eq.symm h

theorem sameText_trans : ∀ q q' q'', SameText q q' → SameText q' q'' → SameText q q''
  | .ping _, .ping _, .ping _, _, _ => trivial
  | .query _ _ _, .query _ _ _, .query _ _ _, h, h' => Eq.trans h h'

section Alike
variable (request request' : AGENT_REQUEST)

theorem steps_alike_bare (steps : Steps) (params params' : List CStr) :
    Alike SameText (steps.dialogue request params)
      ((bareSteps steps).dialogue request' params') := by
  induction steps generalizing params params' with
  | reject format args => trivial
  | fault e => trivial
  | append param next ih => exact ih _ _
  | version next ih =>
    refine ⟨rfl, ?_⟩
    intro reply
    simp only [Dialogue.bind]
    cases scalarEnd PGSQL_VERSION_NUM MAX_STRING_LEN reply with
    | error e => trivial
    | ok e =>
      cases e with
      | refused m => trivial
      | failed m => trivial
      | value text =>
        simp only [afterVersion]
        split
        · trivial
        · exact ih _ _ _
  | scalar type query =>
    refine ⟨rfl, ?_⟩
    intro reply
    simp only [Dialogue.bind]
    cases scalarEnd query MAX_STRING_LEN reply <;> trivial
  | discovery query => exact ⟨rfl, fun _ => trivial⟩

theorem wideAsk_alike (connstring connstring' : Option CStr) (query : CStr) (dbs : List CStr)
    (data data' : List Json) :
    Alike SameText (wideAsk connstring query dbs data) (wideAsk connstring' query dbs data') := by
  induction dbs generalizing data data' with
  | nil => trivial
  | cons db dbs ih =>
    refine ⟨rfl, ?_⟩
    intro reply
    cases reply with
    | refused m => trivial
    | noResult => trivial
    | failed m => trivial
    | answered tuples => exact ih _ _

theorem wide_alike (query : CStr) : Alike SameText (discoveryWideAsk request query)
    (discoveryWideAsk request' query) := by
  refine ⟨rfl, ?_⟩
  intro reply
  simp only [Dialogue.bind]
  cases databasesEnd reply with
  | error e => trivial
  | ok names =>
    cases names with
    | error m => trivial
    | ok names => exact wideAsk_alike _ _ _ _ _ _

theorem alike_bare (plan : Plan) :
    Alike SameText (plan.dialogue request) ((bare plan).dialogue request') := by
  cases plan with
  | steps steps => exact steps_alike_bare request request' steps [] []
  | report value => trivial
  | ping => exact ⟨trivial, fun _ => trivial⟩
  | wide query => exact wide_alike request request' query
  | setting name => exact ⟨rfl, fun _ => trivial⟩
  | indexStat query index => exact ⟨rfl, fun _ => trivial⟩

variable {request request'}

theorem alike_of_bare {p p' : Plan} (h : bare p = bare p') :
    Alike SameText (p.dialogue request) (p'.dialogue request') := by
  have left := alike_bare request request p
  have right := alike_bare request' request p'
  rw [h] at left
  exact alike_trans sameText_trans left (alike_symm sameText_symm right)

end Alike

/-- Servers that answer alike whatever the connection strings and the parameters. -/
structure AnswerAlike (S S' : Server) (rel : S.State → S'.State → Prop) : Prop where
  connect : ∀ s s' c c', rel s s' → (S.connect s c).1 = (S'.connect s' c').1 ∧
    rel (S.connect s c).2 (S'.connect s' c').2
  exec : ∀ s s' c c' command params params', rel s s' →
    (S.exec s c command params).1 = (S'.exec s' c' command params').1 ∧
    rel (S.exec s c command params).2 (S'.exec s' c' command params').2
  finish : ∀ s s', rel s s' → rel (S.finish s) (S'.finish s')

section Answers
variable {S S' : Server} {rel : S.State → S'.State → Prop}

theorem refusal_alike (h : AnswerAlike S S' rel) {s : S.State} {s' : S'.State} (hs : rel s s')
    (c c' : CStr) : (refusal S s c).1 = (refusal S' s' c').1 ∧
      rel (refusal S s c).2 (refusal S' s' c').2 := by
  obtain ⟨reply, after⟩ := h.connect s s' c c' hs
  rw [refusal, refusal]
  revert reply after
  generalize S.connect s c = x
  generalize S'.connect s' c' = x'
  obtain ⟨r, t⟩ := x
  obtain ⟨r', t'⟩ := x'
  rintro rfl after
  cases r with
  | outOfMemory => exact ⟨rfl, after⟩
  | CONNECTION_BAD message => exact ⟨rfl, h.finish _ _ after⟩
  | CONNECTION_OK => exact ⟨rfl, after⟩

theorem session_alike (h : AnswerAlike S S' rel) {s : S.State} {s' : S'.State} (hs : rel s s') :
    ∀ q q', SameText q q' → (session S s q).1 = (session S' s' q').1 ∧
      rel (session S s q).2 (session S' s' q').2
  | .ping c, .ping c', _ => by
    obtain ⟨message, after⟩ := refusal_alike h hs c c'
    rw [session, session]
    revert message after
    generalize refusal S s c = x
    generalize refusal S' s' c' = x'
    obtain ⟨m, t⟩ := x
    obtain ⟨m', t'⟩ := x'
    rintro rfl after
    cases m with
    | some message => exact ⟨rfl, after⟩
    | none => exact ⟨rfl, h.finish _ _ after⟩
  | .query c text params, .query c' text' params', same => by
    have same : text = text' := same
    subst same
    obtain ⟨message, after⟩ := refusal_alike h hs c c'
    rw [session, session]
    revert message after
    generalize refusal S s c = x
    generalize refusal S' s' c' = x'
    obtain ⟨m, t⟩ := x
    obtain ⟨m', t'⟩ := x'
    rintro rfl after
    cases m with
    | some message => exact ⟨rfl, after⟩
    | none =>
      obtain ⟨reply, last⟩ := h.exec t t' c c' text params params' after
      exact ⟨congrArg replyOf reply, h.finish _ _ last⟩

theorem sentBy_alike {e e' : Question × Reply} (same : SameText e.1 e'.1) (h : e.2 = e'.2) :
    (sentBy e).map Prod.fst = (sentBy e').map Prod.fst := by
  obtain ⟨q, reply⟩ := e
  obtain ⟨q', reply'⟩ := e'
  simp only at same h
  subst h
  cases q with
  | ping c =>
    cases q' with
    | ping c' => rfl
    | query c' text' params' => cases same
  | query c text params =>
    cases q' with
    | ping c' => cases same
    | query c' text' params' =>
      have same : text = text' := same
      subst same
      cases reply <;> rfl

theorem sentOf_texts (exchanges : List (Question × Reply)) :
    (sentOf exchanges).map Prod.fst = exchanges.filterMap fun e => (sentBy e).map Prod.fst :=
  List.map_filterMap

theorem sent_alike {exchanges exchanges' : List (Question × Reply)}
    (h : List.Forall₂ (fun e e' => SameText e.1 e'.1 ∧ e.2 = e'.2) exchanges exchanges') :
    (sentOf exchanges).map Prod.fst = (sentOf exchanges').map Prod.fst := by
  rw [sentOf_texts, sentOf_texts]
  induction h with
  | nil => rfl
  | cons same _ ih =>
    rw [List.filterMap_cons, List.filterMap_cons, sentBy_alike same.1 same.2, ih]

end Answers

def textOf (e : Question × Reply) : Option CStr := (sentBy e).map Prod.fst

def OfVersion (v : ℤ) (e : Question × Reply) : Prop :=
  ∀ c, e.1 = .query c PGSQL_VERSION_NUM [] → ∀ text, firstText e.2 = some text →
    versionNumber (zbx_strlcpy text MAX_STRING_LEN) = v

def ServerVersion (S : Server) (v : ℤ) : Prop :=
  ∀ (s : S.State) (c text : CStr),
    firstText (session S s (.query c PGSQL_VERSION_NUM [])).1 = some text →
    versionNumber (zbx_strlcpy text MAX_STRING_LEN) = v

def scriptSteps (v : ℤ) : Steps → ℕ → CStr
  | .reject _ _ => fun _ => []
  | .fault _ => fun _ => []
  | .append _ next => scriptSteps v next
  | .version next => fun
    | 0 => PGSQL_VERSION_NUM
    | n + 1 => scriptSteps v (next v) n
  | .scalar _ query => fun _ => query
  | .discovery query => fun _ => query

def script (v : ℤ) : Plan → ℕ → CStr
  | .steps steps => scriptSteps v steps
  | .report _ => fun _ => []
  | .ping => fun _ => []
  | .wide query => fun
    | 0 => PGSQL_CONNECTABLE_DATABASES
    | _ + 1 => query
  | .setting _ => fun _ => PGSQL_GET_SETTING
  | .indexStat query _ => fun _ => query

theorem scriptSteps_bare (v : ℤ) (steps : Steps) :
    scriptSteps v (bareSteps steps) = scriptSteps v steps := by
  induction steps with
  | append param next ih => exact ih
  | version next ih =>
    funext n
    cases n with
    | zero => rfl
    | succ n => exact congrFun (ih v) n
  | reject _ _ | fault _ | scalar _ _ | discovery _ => rfl

theorem script_bare (v : ℤ) (p : Plan) : script v (bare p) = script v p := by
  cases p with
  | steps steps => exact scriptSteps_bare v steps
  | report _ | ping | wide _ | setting _ | indexStat _ _ => rfl

section Script
variable {request : AGENT_REQUEST} {v : ℤ}

/-- A query and what follows it; nothing does where the connection was refused. -/
theorem scripted_ask {β : Type} {c query : CStr} {params : List CStr} {next : Reply → Asks β}
    {lines : ℕ → CStr} (first : query = lines 0)
    (refused : ∀ m, Scripted textOf (OfVersion v) (next (.refused m)) lines)
    (rest : ∀ reply, (∀ m, reply ≠ .refused m) →
      OfVersion v (.query c query params, reply) →
      Scripted textOf (OfVersion v) (next reply) fun n => lines (n + 1)) :
    Scripted textOf (OfVersion v) (.ask (.query c query params) next) lines := by
  intro reply ok
  cases reply with
  | refused m => exact refused m
  | noResult => exact ⟨first, rest _ (fun m => nofun) ok⟩
  | failed m => exact ⟨first, rest _ (fun m => nofun) ok⟩
  | answered tuples => exact ⟨first, rest _ (fun m => nofun) ok⟩

/-- A query that ends the dialogue. -/
theorem scripted_last {β : Type} {c query : CStr} {params : List CStr} {next : Reply → Asks β}
    (ends : ∀ reply, ∃ r, next reply = .done r) :
    Scripted textOf (OfVersion v) (.ask (.query c query params) next) fun _ => query := by
  have last : ∀ reply lines, Scripted textOf (OfVersion v) (next reply) lines := by
    intro reply lines
    obtain ⟨r, hr⟩ := ends reply
    rw [hr]
    trivial
  exact scripted_ask rfl (fun m => last _ _) fun reply _ _ => last _ _

theorem steps_scripted (steps : Steps) (params : List CStr) :
    Scripted textOf (OfVersion v) (steps.dialogue request params) (scriptSteps v steps) := by
  induction steps generalizing params with
  | reject format args => trivial
  | fault e => trivial
  | append param next ih => exact ih _
  | version next ih =>
    refine scripted_ask rfl (fun m => trivial) ?_
    intro reply other ok
    cases reply with
    | refused m => exact absurd rfl (other m)
    | noResult => trivial
    | failed m => trivial
    | answered tuples =>
      match hrows : tuples.rows with
      | [] =>
        simp only [Dialogue.bind, scalarEnd, hrows]
        trivial
      | [] :: _ =>
        simp only [Dialogue.bind, scalarEnd, hrows]
        trivial
      | (x :: _) :: _ =>
        have read : versionNumber (zbx_strlcpy (fieldText x) MAX_STRING_LEN) = v :=
          ok _ rfl _ (by simp [firstText, hrows])
        simp only [Dialogue.bind, scalarEnd, hrows, afterVersion, read]
        split
        · trivial
        · exact ih v params
  | scalar type query =>
    refine scripted_last ?_
    intro reply
    simp only [Dialogue.bind]
    cases scalarEnd query MAX_STRING_LEN reply <;> exact ⟨_, rfl⟩
  | discovery query => exact scripted_last fun _ => ⟨_, rfl⟩

theorem wideAsk_scripted (connstring : Option CStr) (query : CStr) (dbs : List CStr)
    (data : List Json) :
    Scripted textOf (OfVersion v) (wideAsk connstring query dbs data) fun _ => query := by
  induction dbs generalizing data with
  | nil => trivial
  | cons db dbs ih =>
    refine scripted_ask rfl (fun m => trivial) ?_
    intro reply other _
    cases reply with
    | refused m => exact absurd rfl (other m)
    | noResult => trivial
    | failed m => trivial
    | answered tuples => exact ih _

theorem plan_scripted (p : Plan) :
    Scripted textOf (OfVersion v) (p.dialogue request) (script v p) := by
  cases p with
  | steps steps => exact steps_scripted steps []
  | report value => trivial
  | ping => exact fun _ _ => trivial
  | wide query =>
    refine scripted_ask rfl (fun m => trivial) ?_
    intro reply _ _
    simp only [Dialogue.bind]
    cases databasesEnd reply with
    | error e => trivial
    | ok names =>
      cases names with
      | error m => trivial
      | ok names => exact wideAsk_scripted _ _ _ _
  | setting name => exact scripted_last fun _ => ⟨_, rfl⟩
  | indexStat query index => exact scripted_last fun _ => ⟨_, rfl⟩

end Script

def textsSent {S : Server} (g : Globals) (request : AGENT_REQUEST) (f : Handler)
    (server : S.State) : List CStr :=
  (commands (lastState (call g request f (World.start server))).trace).map Prod.fst

theorem textsSent_eq {S : Server} (g : Globals) (request : AGENT_REQUEST) (f : Handler)
    (server : S.State) : textsSent g request f server =
      (sentOf (played S g request f server).exchanges).map Prod.fst := by
  rw [textsSent, call_sent]

theorem textsSent_script {S : Server} {v : ℤ} (version : ServerVersion S v) (g : Globals)
    (request : AGENT_REQUEST) (f : Handler) (server : S.State) :
    textsSent g request f server = (List.range (textsSent g request f server).length).map
      (script v (plan g request f)) := by
  have allowed : ∀ e ∈ (played S g request f server).exchanges, OfVersion v e := by
    intro e he c hq text ht
    obtain ⟨s, hs⟩ := play_answered (session S) server e he
    rw [hq] at hs
    rw [hs] at ht
    exact version s c text ht
  have follows := fun n t => scripted_play (n := n) (t := t) textOf (OfVersion v) (session S)
    (plan_scripted (plan g request f)) allowed
  apply List.ext_getElem?
  intro n
  rw [List.getElem?_map]
  by_cases hn : n < (textsSent g request f server).length
  · rw [List.getElem?_range hn, List.getElem?_eq_getElem hn, Option.map_some]
    refine congrArg some (follows n _ ?_)
    rw [← List.getElem?_eq_getElem hn, textsSent_eq, sentOf_texts]
    rfl
  · rw [List.getElem?_eq_none (by omega), List.getElem?_eq_none (by simp; omega),
      Option.map_none]

theorem prefix_of_script {lines : ℕ → CStr} {m n : ℕ} (h : m ≤ n) :
    (List.range m).map lines <+: (List.range n).map lines := by
  obtain ⟨k, rfl⟩ := Nat.exists_eq_add_of_le h
  rw [List.range_add, List.map_append]
  exact List.prefix_append _ _

section Main
variable {g : Globals} {metric : ZBX_METRIC} {request : AGENT_REQUEST}

/-- What the user's text leaves of the statements of a run: against servers of one
    version, one run goes through the statements of the other as far as it gets; against
    servers that answer alike, they are the same. -/
def SameStatements (g : Globals) (f : Handler) (request request' : AGENT_REQUEST) : Prop :=
  (∀ (S S' : Server) (v : ℤ), ServerVersion S v → ServerVersion S' v → ∀ s s',
    textsSent (S := S) g request f s <+: textsSent (S := S') g request' f s' ∨
    textsSent (S := S') g request' f s' <+: textsSent (S := S) g request f s) ∧
  ∀ (S S' : Server) (rel : S.State → S'.State → Prop), AnswerAlike S S' rel → ∀ s s', rel s s' →
    textsSent (S := S) g request f s = textsSent (S := S') g request' f s'

theorem sameStatements {f : Handler} {request' : AGENT_REQUEST}
    (h : bare (plan g request f) = bare (plan g request' f)) :
    SameStatements g f request request' := by
  constructor
  · intro S S' v version version' s s'
    have lines : script v (plan g request f) = script v (plan g request' f) := by
      rw [← script_bare v (plan g request f), h, script_bare]
    rw [textsSent_script version, textsSent_script version', lines]
    rcases Nat.le_total (textsSent g request f s).length (textsSent g request' f s').length
      with le | le
    · exact .inl (prefix_of_script le)
    · exact .inr (prefix_of_script le)
  · intro S S' rel alike s s' hs
    have statements : Alike SameText ((plan g request f).dialogue request)
        ((plan g request' f).dialogue request') := alike_of_bare h
    have exchanged := alike_play SameText (session S) (session S') rel
      (fun t t' q q' ht hq => session_alike alike ht q q' hq) statements hs
    rw [textsSent_eq, textsSent_eq]
    exact sent_alike exchanged

/-- The user's text reaches the server only in the parameters of a command, and each
    command has a place for each of its parameters. -/
theorem user_text_is_bound (listed : metric ∈ keys) (not_query : metric.function ≠ .PG_QUERY)
    (not_index : metric.function ≠ .PG_INDEX_DISCOVERY) (asked : request.key = metric.key) :
    (∀ request', request'.key = metric.key → SameClass g metric.function request request' →
      SameStatements g metric.function request request') ∧
    ∀ (S : Server) (server : S.State), ∀ sent ∈
      commands (lastState (call g request metric.function (World.start server))).trace,
      Binds sent.1 sent.2.length := by
  constructor
  · intro request' asked' same
    exact sameStatements (plan_bare not_query not_index (asked.trans asked'.symm) same)
  · intro S server sent hs
    rw [call_sent] at hs
    obtain ⟨⟨q, reply⟩, he, hq⟩ := List.mem_filterMap.mp hs
    have fitting := asked_play (session S) (plan_fitting (g := g) listed not_query not_index asked)
      server _ he
    cases q with
    | ping c => cases hq
    | query c text params =>
      cases reply with
      | refused m => cases hq
      | noResult | failed _ | answered _ =>
        cases hq
        exact fitting

end Main

def rowsRequest (name : CStr) : AGENT_REQUEST := ⟨"pg.table.rows".toList, [[], [], name]⟩

theorem user_text_is_bound_rows :
    (∀ request', request'.key = "pg.table.rows".toList →
      SameClass defaults .PG_TABLE_ROWS (rowsRequest "a' OR 'a' = 'a".toList) request' →
      SameStatements defaults .PG_TABLE_ROWS (rowsRequest "a' OR 'a' = 'a".toList) request') ∧
    ∀ (S : Server) (server : S.State), ∀ sent ∈
      commands (lastState (call defaults (rowsRequest "a' OR 'a' = 'a".toList) .PG_TABLE_ROWS
        (World.start server))).trace, Binds sent.1 sent.2.length := by
  have listed : (⟨"pg.table.rows".toList, .PG_TABLE_ROWS⟩ : ZBX_METRIC) ∈ keys :=
    List.mem_of_getElem? (i := 41) rfl
  exact user_text_is_bound listed (by decide) (by decide) rfl

end LibZbxPgsql.UserText
