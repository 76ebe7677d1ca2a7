import LibZbxPgsql.BackendFilters
import LibZbxPgsql.OrderedQueries

set_option autoImplicit false

namespace LibZbxPgsql.LongestQueries
open StateFaultWp CStrings AgentModel BackendKeys ItemKeys
open Dialogues WorldView Sessions DialogueRefinement DriverDialogues HandlerPlans KeyPlans
open ActivityClauses HandleDiscipline Conclusions QueryBinding
open SqlTokens ClauseTokens SqlQueries SqlEvaluation ActivityView BackendFilters
open DescendingRows
open OrderedQueries (Item Condition OrderedQuery View evalItem evalCondition keepsRow binds)

/-- A backend with its query. From 9.2 there is a state beside it. -/
structure Activity (α : Type) extends Backend α where
  query_start : Option ℚ
  state : Option CStr
  current_query : Option CStr

section Columns
variable {α : Type} (version : ℤ)

def runningColumn : Columns α (Activity α) :=
  if version < 90200 then [("current_query".toList, .text, fun r => r.current_query.map .text)]
  else [("state".toList, .text, fun r => r.state.map .text)]

def lifted {R R' : Type} (part : R' → R) (cols : Columns α R) : Columns α R' :=
  cols.map fun column => (column.1, column.2.1, fun r => column.2.2 (part r))

theorem lookup_lifted {R R' : Type} (part : R' → R) (cols : Columns α R) (c : Name) :
    (lifted part cols).lookup c =
      (cols.lookup c).map fun column => (column.1, fun r => column.2 (part r)) := by
  induction cols with
  | nil => rfl
  | cons column cols ih =>
    rw [lifted, List.map_cons, List.lookup_cons, List.lookup_cons, ← lifted, ih]
    cases c == column.1 <;> rfl

def activityColumns : Columns α (Activity α) :=
  lifted Activity.toBackend (columns version) ++ runningColumn version

def activityView : View α (Activity α) :=
  ⟨activityColumns version, [("query_start".toList, fun r => r.query_start)]⟩

theorem lookup_backend {c : Name} {t : SqlType} {f : Backend α → Value α}
    (h : (columns version).lookup c = some (t, f)) :
    (activityColumns version).lookup c = some (t, fun r => f r.toBackend) := by
  rw [activityColumns, List.lookup_append, lookup_lifted, h]
  rfl

theorem activity_shows :
    ShowsBackends version (activityColumns (α := α) version) Activity.toBackend where
  pid := lookup_backend version (lookup_pid version)
  datid := lookup_backend version (lookup_datid version)
  datname := lookup_backend version (lookup_datname version)
  usesysid := lookup_backend version (lookup_usesysid version)
  usename := lookup_backend version (lookup_usename version)
  client_addr := lookup_backend version (lookup_client_addr version)
  client_hostname := lookup_backend version (lookup_client_hostname version)
  waiting := lookup_backend version (lookup_waiting version)

/-- The columns of a backend are others. -/
theorem lookup_running {c : Name} {t : SqlType} {f : Activity α → Value α}
    (other : (columns (α := α) version).lookup c = none)
    (h : (runningColumn version).lookup c = some (t, f)) :
    (activityColumns version).lookup c = some (t, f) := by
  rw [activityColumns, List.lookup_append, lookup_lifted, other, h]
  rfl

theorem lookup_current_query (old : version < 90200) :
    (activityColumns (α := α) version).lookup "current_query".toList =
      some (.text, fun r => r.current_query.map .text) := by
  refine lookup_running version ?_ ?_
  · rw [columns, pidColumn, if_pos old]
    rfl
  · rw [runningColumn, if_pos old]
    rfl

theorem lookup_state (recent : ¬ version < 90200) :
    (activityColumns (α := α) version).lookup "state".toList =
      some (.text, fun r => r.state.map .text) := by
  refine lookup_running version ?_ ?_
  · rw [columns, pidColumn, if_neg recent]
    rfl
  · rw [runningColumn, if_neg recent]
    rfl

end Columns

def runningCondition (version : ℤ) : Condition :=
  if version < 90200 then
    .notIn "current_query".toList [[], "<IDLE>".toList, "<insufficient privilege>".toList]
  else .holds (.binary .eq (.column "state".toList) (.text "active".toList))

def longestConditions (inet_pton : AddressFamily → CStr → Bool) (request : AGENT_REQUEST)
    (version : ℤ) : List Condition :=
  runningCondition version :: (countExprs inet_pton request version).map .holds

def duration : Item := .sub (.epoch .now) (.epoch (.column "query_start".toList))

def longestQuery (inet_pton : AddressFamily → CStr → Bool) (request : AGENT_REQUEST)
    (version : ℤ) : OrderedQuery :=
  ⟨duration, pg_stat_activity_name, longestConditions inet_pton request version, 1, 0⟩

def durationTokens : List Token :=
  [word "extract", leftParen, word "epoch", word "from", word "now", leftParen, rightParen,
   rightParen, .symbol ['-'],
   word "extract", leftParen, word "epoch", word "from", word "query_start", rightParen]

theorem item_duration (ts : List Token) :
    OrderedQueries.item (durationTokens ++ ts) = some (duration, ts) := rfl

def runningTokens (version : ℤ) : List Token :=
  if version < 90200 then
    [word "current_query", word "not", word "in", leftParen, .text [], .symbol [','],
     .text "<IDLE>".toList, .symbol [','], .text "<insufficient privilege>".toList, rightParen]
  else [word "state", equals, .text "active".toList]

def longestHead (version : ℤ) : List Token :=
  word "select" :: word "coalesce" :: leftParen :: leftParen :: word "select" ::
    (durationTokens ++ word "as" :: word "duration" :: word "from" ::
      .word pg_stat_activity_name :: word "where" ::
        (runningTokens version ++ word "and" :: otherCondition version))

def longestTail : List Token :=
  [word "by", word "duration", word "desc", word "limit", .number ['1'], rightParen,
   .symbol [','], .number ['0'], rightParen]

def longestText (version : ℤ) (clause : CStr) : CStr :=
  if version < 90200 then PGSQL_GET_LONGEST_QUERY clause else PGSQL_GET_LONGEST_QUERY_92 clause

section Parse
variable {inet_pton : AddressFamily → CStr → Bool} {request : AGENT_REQUEST} {text : CStr}

set_option maxRecDepth 8000 in
theorem longestText_parts (version : ℤ) : ∃ head tail, Apart tail = true ∧
    head.length ≤ 400 ∧ tail.length ≤ 100 ∧
    tokens head = some (longestHead version) ∧
    tokens tail = some (word "order" :: longestTail ++ [.symbol [';']]) ∧
    ∀ clause, longestText version clause = head ++ clause ++ tail := by
  by_cases old : version < 90200
  · rw [longestHead, runningTokens, otherCondition, pidColumn, if_pos old, if_pos old]
    refine ⟨_, _, ?_, ?_, ?_, ?_, ?_, fun clause => if_pos old⟩
    all_goals
      simp only [literal, List.flatMap_cons, List.flatMap_nil]
      repeat rw [String.toList_ofList]
      decide
  · rw [longestHead, runningTokens, otherCondition, pidColumn, if_neg old, if_neg old]
    refine ⟨_, _, ?_, ?_, ?_, ?_, ?_, fun clause => if_neg old⟩
    all_goals
      simp only [literal, List.flatMap_cons, List.flatMap_nil]
      repeat rw [String.toList_ofList]
      decide

/-- A condition that is an expression, and begins with an operand and an operator. -/
def Compares (ts : List Token) : Prop := ∃ a name rest, ts = a :: .symbol name :: rest

theorem condition_compares {ts : List Token} (h : Compares ts) :
    OrderedQueries.condition ts = (wholeExpression ts).map .holds := by
  obtain ⟨a, name, rest, rfl⟩ := h
  cases a <;> rfl

theorem filterCondition_compares (param : CStr) (n i : ℕ) :
    Compares (filterCondition inet_pton param n i) := by
  match i with
  | 0 => exact ⟨_, _, _, rfl⟩
  | 1 => exact ⟨_, _, _, rfl⟩
  | _ + 2 =>
    simp only [filterCondition]
    split <;> exact ⟨_, _, _, rfl⟩

theorem conditions_compare : ∀ c ∈ conditions inet_pton request, Compares c :=
  every_condition filterCondition_compares fun _ => ⟨_, _, _, rfl⟩

theorem mapM_compares {cs : List (List Token)} {es : List Expr} (h : ∀ c ∈ cs, Compares c)
    (hes : cs.mapM wholeExpression = some es) :
    cs.mapM OrderedQueries.condition = some (es.map .holds) := by
  induction cs generalizing es with
  | nil =>
    obtain rfl := Option.some.inj hes
    rfl
  | cons c cs ih =>
    rw [List.mapM_cons] at hes
    obtain ⟨e, he, hes⟩ := Option.bind_eq_some_iff.mp hes
    obtain ⟨rest, hrest, hes⟩ := Option.bind_eq_some_iff.mp hes
    obtain rfl := Option.some.inj hes
    rw [List.mapM_cons, condition_compares (h c List.mem_cons_self), he,
      ih (fun d hd => h d (List.mem_cons_of_mem _ hd)) hrest]
    rfl

theorem condition_running (version : ℤ) :
    OrderedQueries.condition (runningTokens version) = some (runningCondition version) := by
  rw [runningTokens, runningCondition]
  split <;> rfl

theorem runningTokens_plain {t : Token} (ht : Parting t) (version : ℤ) :
    t ∉ runningTokens version := by
  rw [runningTokens]
  rcases ht with rfl | rfl <;> split <;> simp [word, leftParen, rightParen, equals]

/-- The text reads as the query with the conditions of its clause. -/
theorem parse_longest (version : ℤ) (ht : activityText inet_pton request = some text) :
    OrderedQueries.parse (longestText version text) =
      some (longestQuery inet_pton request version) := by
  obtain ⟨head, tail, apart, -, -, head_tokens, tail_tokens, whole⟩ := longestText_parts version
  have clause := tokens_append (activityText_apart ht).1 head_tokens (activityText_tokens ht)
  have both {t : Token} (keyword : Parting t) :
      ∀ c ∈ otherCondition version :: conditions inet_pton request, t ∉ c :=
    List.forall_mem_cons.mpr ⟨otherCondition_plain keyword version, conditions_plain keyword⟩
  have compare : ∀ c ∈ otherCondition version :: conditions inet_pton request, Compares c :=
    List.forall_mem_cons.mpr ⟨⟨_, _, _, rfl⟩, conditions_compare⟩
  have each : (runningTokens version :: otherCondition version ::
      conditions inet_pton request).mapM OrderedQueries.condition =
        some (longestConditions inet_pton request version) := by
    rw [List.mapM_cons, condition_running,
      mapM_compares compare (wholeExpression_conditions version)]
    rfl
  have ends : OrderedQueries.ending "duration".toList longestTail = some (1, 0) := rfl
  have read := OrderedQueries.query_ordered item_duration
    (runningTokens_plain (.inl rfl) version) (runningTokens_plain (.inr rfl) version)
    (both (.inl rfl)) (both (.inr rfl)) each ends
  rw [OrderedQueries.parse, whole, tokens_append apart clause tail_tokens, Option.bind_some,
    longestQuery, ← read pg_stat_activity_name]
  congr 1
  simp [longestHead, spelled, andWord, word, List.append_assoc]

end Parse

/-- What a server before 9.2 shows in the place of a query, where a session runs none or
    may not be seen. -/
def idleTexts : List CStr :=
  ["".toList, "<IDLE>".toList, "<IDLE> in transaction".toList,
   "<IDLE> in transaction (aborted)".toList, "<insufficient privilege>".toList]

def running {α : Type} (version : ℤ) (r : Activity α) : Bool :=
  if version < 90200 then
    match r.current_query with
    | none => false
    | some text => !idleTexts.contains text
  else r.state = some "active".toList

def excludedTexts : List CStr := [[], "<IDLE>".toList, "<insufficient privilege>".toList]

/-- The texts take a session that is idle in a transaction for one that runs a query. -/
def takenForRunning {α : Type} (version : ℤ) (r : Activity α) : Bool :=
  if version < 90200 then
    match r.current_query with
    | none => false
    | some text => !excludedTexts.contains text
  else r.state = some "active".toList

theorem running_taken {α : Type} {version : ℤ} {r : Activity α}
    (h : running version r = true) : takenForRunning version r = true := by
  rw [running] at h
  rw [takenForRunning]
  split
  · rename_i old
    rw [if_pos old] at h
    cases hq : r.current_query with
    | none =>
      rw [hq] at h
      cases h
    | some text =>
      rw [hq] at h
      simp only [Bool.not_eq_true', List.contains_eq_mem, decide_eq_false_iff_not] at h ⊢
      intro mark
      refine h ?_
      simp only [excludedTexts, List.mem_cons, List.not_mem_nil, or_false] at mark
      rcases mark with rfl | rfl | rfl <;> decide
  · rename_i recent
    rwa [if_neg recent] at h

section Meaning
variable {α : Type} [DecidableEq α] (session : Session α)
  (inet_pton : AddressFamily → CStr → Bool) (request : AGENT_REQUEST) (version : ℤ)

def filtersHold (r : Activity α) : Bool :=
  decide (r.pid ≠ session.backendPid) &&
    [0, 1, 2, 3].all (filterMatches session inet_pton request r.toBackend)

/-- The rows that the request asks for. -/
def asked (rows : List (Activity α)) : List (Activity α) :=
  rows.filter fun r => running version r && filtersHold session inet_pton request r

/-- The rows that the query selects. -/
def selected (rows : List (Activity α)) : List (Activity α) :=
  rows.filter fun r => takenForRunning version r && filtersHold session inet_pton request r

def durations (now : ℚ) (rows : List (Activity α)) : List ℚ :=
  rows.filterMap fun r => r.query_start.map fun start => now - start

variable {session inet_pton request}

theorem running_decides (params : List CStr) (r : Activity α) :
    ∃ v, evalCondition session (activityView version) params r (runningCondition version) =
      some v ∧ decide (v = some (.bool true)) = takenForRunning version r := by
  by_cases old : version < 90200
  · rw [runningCondition, takenForRunning, if_pos old, if_pos old, evalCondition]
    have column : evalRow session (activityView version).types params
        (rowOf (activityView version).columns r) (.column "current_query".toList) =
        some (r.current_query.map .text) :=
      evalRow_column session [] r params (lookup_current_query version old)
    rw [column, Option.bind_some]
    cases r.current_query with
    | none => exact ⟨none, rfl, rfl⟩
    | some text => exact ⟨_, rfl, by simp [excludedTexts]⟩
  · rw [runningCondition, takenForRunning, if_neg old, if_neg old, evalCondition]
    have decided : Decides session (tableOf (activityColumns version) []).types params
        (rowOf (activityColumns version) r)
        (.binary .eq (.column "state".toList) (.text "active".toList))
        (decide (r.state = some "active".toList)) :=
      decides_compare session embeds_text (lookup_state version old) (by decide)
        (v := some (.text "active".toList)) rfl rfl
    exact decided

theorem longest_keeps (range : FilterOidsFit request)
    (reads : ∀ param ∈ filterParams request, ReadsAddresses session inet_pton param)
    (r : Activity α) :
    keepsRow session (activityView version) (filterParams request)
        (longestConditions inet_pton request version) r =
      some (takenForRunning version r && filtersHold session inet_pton request r) := by
  obtain ⟨v, hv, truth⟩ := running_decides version (filterParams request) r
  have clause := clause_keeps [] r (activity_shows version) range reads
  rw [longestConditions, OrderedQueries.keepsRow_cons hv clause, truth, filtersHold]

omit [DecidableEq α] in
theorem duration_value (now : ℚ) (r : Activity α) :
    evalItem now (activityView version) r duration =
      some (r.query_start.map fun start => now - start) := rfl

variable (inet_pton) in
def filterType (param : CStr) : ℕ → SqlType
  | 0 | 1 => if is_oid param then .oid else .name
  | _ => if is_valid_ip inet_pton param then .inet else .text

omit [DecidableEq α] in
theorem filter_placeholders (param : CStr) (n : ℕ) {i : ℕ} (hi : i < 3) :
    OrderedQueries.placeholders (activityView (α := α) version).types
        (filterExpr inet_pton param n i) = [(n, filterType inet_pton param i)] := by
  have shows := activity_shows (α := α) version
  match i, hi with
  | 0, _ =>
    rw [filterExpr, filterType]
    cases is_oid param with
    | true => exact OrderedQueries.placeholders_param shows.datid .eq n
    | false => exact OrderedQueries.placeholders_param shows.datname .eq n
  | 1, _ =>
    rw [filterExpr, filterType]
    cases is_oid param with
    | true => exact OrderedQueries.placeholders_param shows.usesysid .eq n
    | false => exact OrderedQueries.placeholders_param shows.usename .eq n
  | 2, _ =>
    simp only [filterExpr, filterType]
    cases is_valid_ip inet_pton param with
    | true => rfl
    | false => exact OrderedQueries.placeholders_param shows.client_hostname .eq n

omit [DecidableEq α] in
/-- A filter's parameter reads as a value of its column, unless it is too large an oid. -/
theorem filterType_reads {param : CStr} {i : ℕ} (hi : i < 3)
    (reads : ReadsAddresses session inet_pton param) :
    (input session (filterType inet_pton param i) param).isSome = true ↔
      (i < 2 → OidInRange param) := by
  have by_oid : (input session (if is_oid param then .oid else .name) param).isSome = true ↔
      OidInRange param := by
    rw [OidInRange]
    cases oid : is_oid param with
    | false => simp [input]
    | true =>
      rw [is_oid_eq] at oid
      simp [input, oid]
  rcases (by omega : i = 0 ∨ i = 1 ∨ i = 2) with rfl | rfl | rfl
  · simpa [filterType] using by_oid
  · simpa [filterType] using by_oid
  · refine iff_of_true ?_ (by omega)
    simp only [filterType]
    cases ip : is_valid_ip inet_pton param with
    | true => simpa [input] using reads ip
    | false => rfl

omit [DecidableEq α] in
theorem filters_bind_iff (is : List ℕ) (hi : ∀ i ∈ is, i < 3) {n : ℕ} {params : List CStr}
    (hp : params.drop n = is.flatMap fun i => bound (get_rparam request (PARAM_FIRST + i)))
    (reads : ∀ param ∈ params, ReadsAddresses session inet_pton param) :
    ((filterExprs inet_pton request is n).flatMap
        (OrderedQueries.placeholders (activityView (α := α) version).types)).all
        (OrderedQueries.bindsAs session params) = true ↔
      ∀ i ∈ is, i < 2 → ∀ param, get_rparam request (PARAM_FIRST + i) = some param →
        OidInRange param := by
  induction is generalizing n with
  | nil => exact iff_of_true rfl (fun i hi => by cases hi)
  | cons i is ih =>
    obtain ⟨here, others⟩ := List.forall_mem_cons.mp hi
    rw [List.flatMap_cons] at hp
    rw [filterExprs, List.forall_mem_cons]
    rcases hg : get_rparam request (PARAM_FIRST + i) with _ | _ | ⟨d, param⟩
    · rw [hg] at hp
      refine (ih others hp).trans (iff_and_self.mpr fun _ _ param given => ?_)
      cases given
    · rw [hg] at hp
      refine (ih others hp).trans (iff_and_self.mpr fun _ _ param given => ?_)
      obtain rfl := Option.some.inj given
      exact fun oid => absurd oid (by decide)
    · rw [hg, bound, List.singleton_append] at hp
      have at_n : params[n]? = some (d :: param) := by
        have head := congrArg List.head? hp
        rwa [List.head?_drop, List.head?_cons] at head
      have later : params.drop (n + 1) =
          is.flatMap fun i => bound (get_rparam request (PARAM_FIRST + i)) := by
        rw [← List.tail_drop, hp, List.tail_cons]
      have first := filterType_reads here (reads _ (List.mem_of_getElem? at_n))
      simp only [List.flatMap_cons, filter_placeholders version (d :: param) (n + 1) here,
        List.singleton_append, List.all_cons, Bool.and_eq_true, ih others later,
        OrderedQueries.bindsAs, at_n, Option.bind_some, first]
      refine and_congr_left fun _ => ⟨fun h two param' given => ?_, fun h two => h two _ rfl⟩
      obtain rfl := Option.some.inj given
      exact h two

omit [DecidableEq α] in
/-- The query binds its parameters where the filters by oid are oids. -/
theorem longest_binds_iff
    (reads : ∀ param ∈ filterParams request, ReadsAddresses session inet_pton param) :
    binds session (activityView (α := α) version) (filterParams request)
        (longestConditions inet_pton request version) = true ↔ FilterOidsFit request := by
  have params : (filterParams request).drop 0 =
      [0, 1, 2].flatMap fun i => bound (get_rparam request (PARAM_FIRST + i)) := by
    rw [List.drop_zero, filterParams_eq]
  have filters := filters_bind_iff (α := α) version [0, 1, 2] (by decide) params reads
  have first : (runningCondition version).placeholders (activityView (α := α) version).types =
      [] := by
    rw [runningCondition]
    split <;> rfl
  have last : (waitingExprs request).flatMap
      (OrderedQueries.placeholders (activityView (α := α) version).types) = [] := by
    rw [waitingExprs]
    split <;> rfl
  have all_of_them : (longestConditions inet_pton request version).flatMap
      (Condition.placeholders (activityView (α := α) version).types) =
      (filterExprs inet_pton request [0, 1, 2] 0).flatMap
        (OrderedQueries.placeholders (activityView (α := α) version).types) := by
    rw [longestConditions, countExprs, List.flatMap_cons, first, List.nil_append, List.flatMap_map,
      List.flatMap_cons]
    change [] ++ (filterExprs _ _ _ _ ++ waitingExprs _).flatMap (OrderedQueries.placeholders _) = _
    rw [List.nil_append, List.flatMap_append, last, List.append_nil]
  rw [binds, all_of_them, filters]
  constructor
  · intro h i hi
    rw [List.mem_cons, List.mem_singleton] at hi
    refine h i ?_ (by omega)
    rw [List.mem_cons, List.mem_cons, List.mem_singleton]
    omega
  · intro h i _ two
    refine h i ?_
    rw [List.mem_cons, List.mem_singleton]
    omega

variable (session inet_pton request) in
/-- No row selected comes before those asked for: none lacks a start, and none that only
    seems to run has taken longer. Otherwise the maximum is the default. -/
def Undisturbed (now : ℚ) (rows : List (Activity α)) : Prop :=
  let asked := durations now (asked session inet_pton request version rows)
  let selected := selected session inet_pton request version rows
  (∀ r ∈ selected, r.query_start ≠ none) ∧
      ((∀ d ∈ durations now selected, ∃ d' ∈ asked, d ≤ d') ∨
        asked = [] ∧ IsMaximum 0 (durations now selected) 0) ∨
    (∃ r ∈ selected, r.query_start = none) ∧ IsMaximum 0 asked 0

omit [DecidableEq α] in
theorem durations_values (now : ℚ) (rows : List (Activity α)) :
    durations now rows =
      (rows.map fun r => r.query_start.map fun start => now - start).filterMap id := by
  rw [durations, List.filterMap_map]
  rfl

theorem asked_selected {now d : ℚ} {rows : List (Activity α)}
    (h : d ∈ durations now (asked session inet_pton request version rows)) :
    d ∈ durations now (selected session inet_pton request version rows) := by
  obtain ⟨r, hr, hd⟩ := List.mem_filterMap.mp h
  obtain ⟨row, holds⟩ := List.mem_filter.mp hr
  rw [Bool.and_eq_true] at holds
  refine List.mem_filterMap.mpr ⟨r, List.mem_filter.mpr ⟨row, ?_⟩, hd⟩
  rw [Bool.and_eq_true]
  exact ⟨running_taken holds.1, holds.2⟩

/-- What the query returns is the maximum where its parameters are read and nothing that
    it selects comes before the rows asked for. -/
theorem longest_maximum_iff
    (reads : ∀ param ∈ filterParams request, ReadsAddresses session inet_pton param) (now : ℚ)
    (rows : List (Activity α)) :
    (∃ x, OrderedQueries.run session now (activityView version) (filterParams request) rows
        (longestQuery inet_pton request version) = some x ∧
      IsMaximum 0 (durations now (asked session inet_pton request version rows)) x) ↔
    FilterOidsFit request ∧ Undisturbed session inet_pton request version now rows := by
  have bind_iff := longest_binds_iff version reads
  by_cases range : FilterOidsFit request
  · have value := OrderedQueries.run_first (q := longestQuery inet_pton request version)
      (bind_iff.mpr range) rfl (fun r (_ : r ∈ rows) => longest_keeps version range reads r)
      (duration_value version now)
    have some_of : ∀ d ∈ durations now (asked session inet_pton request version rows),
        d ∈ ((selected session inet_pton request version rows).map fun r =>
          r.query_start.map fun start => now - start).filterMap id := by
      intro d hd
      rw [← durations_values]
      exact asked_selected version hd
    have null : none ∈ (selected session inet_pton request version rows).map
          (fun r => r.query_start.map fun start => now - start) ↔
        ∃ r ∈ selected session inet_pton request version rows, r.query_start = none := by
      simp
    have first_iff := isMaximum_first_iff 0 some_of
    rw [← durations_values, null] at first_iff
    simp only [value, Option.some.injEq, exists_eq_left', range, true_and]
    refine first_iff.trans ?_
    rw [Undisturbed]
    simp only [not_exists, not_and, ne_eq]
  · refine iff_of_false ?_ (fun h => range h.1)
    rintro ⟨x, run, -⟩
    rw [OrderedQueries.run_unbound (fun bound => range (bind_iff.mp bound))] at run
    cases run

/-- From 9.2 the state tells which sessions run a query. -/
theorem undisturbed_recent_iff (recent : ¬ version < 90200) (now : ℚ)
    (rows : List (Activity α)) :
    Undisturbed session inet_pton request version now rows ↔
      (∀ r ∈ asked session inet_pton request version rows, r.query_start ≠ none) ∨
        IsMaximum 0 (durations now (asked session inet_pton request version rows)) 0 := by
  have same : selected session inet_pton request version rows =
      asked session inet_pton request version rows := by
    simp only [selected, asked, takenForRunning, running, if_neg recent]
  rw [Undisturbed, same]
  constructor
  · rintro (⟨started, -⟩ | ⟨-, zero⟩)
    · exact .inl started
    · exact .inr zero
  · intro h
    by_cases started : ∀ r ∈ asked session inet_pton request version rows, r.query_start ≠ none
    · exact .inl ⟨started, .inl fun d hd => ⟨d, hd, le_refl d⟩⟩
    · refine .inr ⟨?_, h.resolve_left started⟩
      simpa using started

end Meaning

end LibZbxPgsql.LongestQueries
