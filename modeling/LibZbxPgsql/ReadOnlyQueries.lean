import LibZbxPgsql.AgentRuns
import LibZbxPgsql.IndexFilters
import LibZbxPgsql.StatementTexts

set_option autoImplicit false

/-! Every statement of every key but `pg.query.*` is one `SELECT` that calls nothing but
functions which read. So is every statement of a whole life of the process, as a server whose
`standard_conforming_strings` is on reads it. -/
namespace LibZbxPgsql.ReadOnlyQueries
open CStrings PrintfFormat AgentModel Connections Drivers Discovery
open ServerKeys BackendKeys QueryKeys DatabaseKeys TableKeys IndexKeys ItemKeys
open StateFaultWp Dialogues WorldView Sessions DialogueRefinement HandlerPlans KeyPlans
open ActivityClauses SqlTokens ClauseTokens StatementTexts AgentRuns

structure Rules where
  /-- The functions a statement may call. -/
  functions : List CStr
  /-- The words after which a parenthesis calls nothing. -/
  grammar : List CStr
  /-- The words without which a `SELECT` neither writes nor locks. -/
  barred : List CStr

def rules : Rules where
  functions := ["age".toList, "coalesce".toList, "count".toList, "current_database".toList,
    "current_setting".toList, "extract".toList, "has_database_privilege".toList, "max".toList,
    "now".toList, "obj_description".toList, "pg_backend_pid".toList, "pg_database_size".toList,
    "pg_encoding_to_char".toList, "pg_get_userbyid".toList, "pg_postmaster_start_time".toList,
    "pg_relation_size".toList, "pg_tablespace_location".toList, "pg_tablespace_size".toList,
    "quote_ident".toList, "shobj_description".toList, "sum".toList, "version".toList]
  grammar := ["else".toList, "from".toList, "in".toList, "select".toList, "then".toList,
    "when".toList]
  barred := ["into".toList, "for".toList, "with".toList, "insert".toList, "update".toList,
    "delete".toList, "merge".toList]

def opening : Token := .symbol ['(']

def semicolon : Token := .symbol [';']

section Tokens
variable (R : Rules)

def Free (name : List Char) : Bool := R.barred.all fun word => decide (name ≠ word)

/-- A word that stands here, before these tokens. -/
def Allowed (name : List Char) (rest : List Token) : Bool :=
  Free R name && (decide (rest.head? ≠ some opening) ||
    (R.functions ++ R.grammar).any fun word => decide (name = word))

def Quiet : List Token → Bool
  | [] => true
  | .word name :: rest => Allowed R name rest && Quiet rest
  | token :: rest => decide (token ≠ semicolon) && Quiet rest

/-- The tokens of a statement without the semicolon that may end it. -/
def unended (ts : List Token) : List Token :=
  if ts.getLast? = some semicolon then ts.dropLast else ts

/-- The text is a single `SELECT` under the rules. -/
def Selects (text : CStr) : Bool :=
  match tokens text with
  | none => false
  | some ts => decide (ts.head? = some (.word ['s', 'e', 'l', 'e', 'c', 't'])) &&
      Quiet R (unended ts)

end Tokens

set_option maxRecDepth 8000 in
theorem texts_select :
    (∀ t ∈ ServerText.every.map ServerText.text, Selects rules t = true) ∧
      (∀ t ∈ DatabaseText.every.map DatabaseText.text, Selects rules t = true) ∧
      (∀ t ∈ RelationText.every.map RelationText.text, Selects rules t = true) ∧
      ∀ t ∈ RatioText.every.map fun t => (t.all, t.one),
        Selects rules t.1 = true ∧ Selects rules t.2 = true := by
  unfold rules
  -- one theorem, so that the four families are evaluated one after another
  refine ⟨?_, ?_, ?_, ?_⟩
  · unfold ServerText.every
    simp only [List.map_cons, List.map_nil, ServerText.text]
    unfold PGSQL_VERSION_NUM PGSQL_GET_VERSION PGSQL_GET_STARTTIME PGSQL_GET_UPTIME
      preparedXactsCount preparedXactsCountOf preparedXactsRatio preparedXactsAge
      preparedXactsAgeOf pgsql_bg_avg_interval pgsql_stats_reset_interval timeRatioQuery
      pgsql_bg_time_ratio PGSQL_GET_SETTING PGSQL_DISCOVER_SETTINGS backendsFree
      backendsRatioQuery backendsRatio
    simp only [literal, List.flatMap_cons, List.flatMap_nil]
    repeat rw [String.toList_ofList]
    decide +kernel
  · unfold DatabaseText.every
    simp only [List.map_cons, List.map_nil, DatabaseText.text]
    unfold PGSQL_CONNECTABLE_DATABASES PGSQL_DISCOVER_DBS PGSQL_GET_DB_SIZE
      PGSQL_GET_DB_SIZE_SUM dbXidAgeMax dbXidAge PGSQL_DISCOVER_NAMESPACES PGSQL_GET_NS_SIZE
      PGSQL_DISCOVER_TABLESPACES PGSQL_DISCOVER_TABLESPACES_92 PGSQL_GET_TS_SIZE
    simp only [literal, List.flatMap_cons, List.flatMap_nil]
    repeat rw [String.toList_ofList]
    decide +kernel
  · unfold RelationText.every
    simp only [List.map_cons, List.map_nil, RelationText.text]
    unfold PGSQL_DISCOVER_TABLES PGSQL_DISCOVER_TABLE_CHILDREN PGSQL_GET_TABLE_SIZE
      PGSQL_GET_TABLE_SIZE_SUM PGSQL_GET_TABLE_ROWS_SUM PGSQL_GET_TABLE_ROWS
      PGSQL_GET_TABLE_CHILD_COUNT PGSQL_GET_CHILDREN_SIZE PGSQL_GET_CHILDREN_ROWS
      PGSQL_GET_INDEX_SIZE PGSQL_GET_INDEX_SIZE_SUM PGSQL_GET_INDEX_ROWS PGSQL_GET_INDEX_ROWS_SUM
    simp only [literal, List.flatMap_cons, List.flatMap_nil]
    repeat rw [String.toList_ofList]
    decide +kernel
  · unfold RatioText.every
    simp only [List.map_cons, List.map_nil, RatioText.all, RatioText.one]
    unfold percentageQuery
    repeat rw [String.toList_ofList]
    decide +kernel

theorem server_selects (t : ServerText) : Selects rules t.text = true :=
  texts_select.1 t.text (List.mem_map_of_mem t.mem_every)

theorem database_selects (t : DatabaseText) : Selects rules t.text = true :=
  texts_select.2.1 t.text (List.mem_map_of_mem t.mem_every)

theorem relation_selects (t : RelationText) : Selects rules t.text = true :=
  texts_select.2.2.1 t.text (List.mem_map_of_mem t.mem_every)

theorem ratio_selects (t : RatioText) : Selects rules t.all = true ∧ Selects rules t.one = true :=
  texts_select.2.2.2 (t.all, t.one) (List.mem_map_of_mem t.mem_every)

section Parts
variable {R : Rules} {ts us : List Token} {a b c : CStr}

theorem allowed_append {name : List Char} (h : Allowed R name ts = true)
    (apart : us.head? ≠ some opening) : Allowed R name (ts ++ us) = true := by
  cases ts with
  | nil =>
    simp only [Allowed, Bool.and_eq_true] at h ⊢
    exact ⟨h.1, by simp [apart]⟩
  | cons t ts => exact h

theorem quiet_append (ht : Quiet R ts = true) (hu : Quiet R us = true)
    (apart : us.head? ≠ some opening) : Quiet R (ts ++ us) = true := by
  induction ts with
  | nil => exact hu
  | cons t ts ih =>
    cases t with
    | word name =>
      simp only [List.cons_append, Quiet, Bool.and_eq_true] at ht ⊢
      exact ⟨allowed_append ht.1 apart, ih ht.2⟩
    | number digits | text value | param n | symbol name =>
      simp only [List.cons_append, Quiet, Bool.and_eq_true] at ht ⊢
      exact ⟨ht.1, ih ht.2⟩

theorem unended_append (h : us ≠ []) : unended (ts ++ us) = ts ++ unended us := by
  rw [unended, unended, List.getLast?_append_of_ne_nil _ h]
  split
  · rw [List.dropLast_append_of_ne_nil h]
  · rfl

theorem unended_quiet (h : Quiet R ts = true) : unended ts = ts := by
  refine if_neg fun ends => ?_
  obtain ⟨us, rfl⟩ := List.getLast?_eq_some_iff.mp ends
  clear ends
  induction us with
  | nil => simp [Quiet, semicolon] at h
  | cons t us ih =>
    cases t <;> simp_all [Quiet]

theorem unended_head {t : Token} (h : (unended us).head? = some t) : us.head? = some t := by
  rw [unended] at h
  split at h
  · rcases us with _ | ⟨u, _ | ⟨v, us⟩⟩
    · exact h
    · cases h
    · exact h
  · exact h

theorem selects_of_tokens (read : tokens a = some (ts ++ us))
    (head : ts.head? = some (.word ['s', 'e', 'l', 'e', 'c', 't'])) (ht : Quiet R ts = true)
    (hu : Quiet R (unended us) = true) (apart : us.head? ≠ some opening) :
    Selects R a = true := by
  have whole : Quiet R (unended (ts ++ us)) = true := by
    by_cases none : us = []
    · rw [none, List.append_nil, unended_quiet ht]
      exact ht
    · rw [unended_append none]
      exact quiet_append ht hu fun h => apart (unended_head h)
  obtain ⟨first, ts, rfl⟩ : ∃ t ts', ts = t :: ts' := by
    cases ts with
    | nil => cases head
    | cons t ts => exact ⟨t, ts, rfl⟩
  simp only [List.head?_cons, Option.some.injEq] at head
  subst head
  rw [Selects, read]
  simp only [List.cons_append, List.head?_cons, decide_true, Bool.true_and]
  exact whole

/-- A statement may begin so, and the next token is a new one. -/
def Opens (R : Rules) (text : CStr) : Bool :=
  match run .between text with
  | some (ts, .between) =>
    decide (ts.head? = some (.word ['s', 'e', 'l', 'e', 'c', 't'])) && Quiet R ts
  | _ => false

def Begins (R : Rules) (text : CStr) : Bool :=
  match tokens text with
  | none => false
  | some ts => decide (ts.head? = some (.word ['s', 'e', 'l', 'e', 'c', 't'])) && Quiet R ts

def Follows (R : Rules) (text : CStr) : Bool :=
  Apart text &&
    match tokens text with
    | none => false
    | some ts => decide (ts.head? ≠ some opening) && Quiet R (unended ts)

theorem opens_tokens (h : Opens R a = true) :
    ∃ ts, Ends a ts ∧ ts.head? = some (.word ['s', 'e', 'l', 'e', 'c', 't']) ∧
      Quiet R ts = true := by
  rw [Opens] at h
  split at h
  · next ts read =>
    simp only [Bool.and_eq_true, decide_eq_true_eq] at h
    exact ⟨ts, read, h⟩
  · cases h

theorem begins_tokens (h : Begins R a = true) :
    ∃ ts, tokens a = some ts ∧ ts.head? = some (.word ['s', 'e', 'l', 'e', 'c', 't']) ∧
      Quiet R ts = true := by
  rw [Begins] at h
  split at h
  · cases h
  · next ts read =>
    simp only [Bool.and_eq_true, decide_eq_true_eq] at h
    exact ⟨ts, read, h⟩

theorem follows_tokens (h : Follows R b = true) :
    Apart b = true ∧ ∃ ts, tokens b = some ts ∧ ts.head? ≠ some opening ∧
      Quiet R (unended ts) = true := by
  rw [Follows, Bool.and_eq_true] at h
  obtain ⟨apart, h⟩ := h
  split at h
  · cases h
  · next ts read =>
    simp only [Bool.and_eq_true, decide_eq_true_eq] at h
    exact ⟨apart, ts, read, h⟩

theorem head_append {t : Token} (h : ts.head? = some t) : (ts ++ us).head? = some t := by
  cases ts with
  | nil => cases h
  | cons u ts => exact h

/-- The name of a column between two parts of a statement. -/
theorem column_selects {field : CStr} (before : Opens R a = true) (after : Follows R b = true)
    (short : a.length + b.length ≤ 400) (hf : IsColumn field = true)
    (free : Free R (field.map Char.toLower) = true) :
    Selects R (zbx_snprintf MAX_STRING_LEN (a ++ field ++ b)) = true := by
  obtain ⟨ts, ends, head, quiet⟩ := opens_tokens before
  obtain ⟨apart, us, read, start, rest⟩ := follows_tokens after
  simp only [IsColumn, Bool.and_eq_true, decide_eq_true_eq] at hf
  have whole : zbx_snprintf MAX_STRING_LEN (a ++ field ++ b) = a ++ field ++ b := by
    apply zbx_snprintf_fits
    simp only [List.length_append, MAX_STRING_LEN]
    omega
  rw [whole]
  have word : Quiet R [.word (field.map Char.toLower)] = true := by simp [Quiet, Allowed, free]
  exact selects_of_tokens (tokens_append apart (tokens_after ends (tokens_word hf.1)) read)
    (head_append head) (quiet_append quiet word (by simp [opening])) rest start

theorem spelled_quiet {conditions : List (List Token)} (barred : Free R ['a', 'n', 'd'] = true)
    (h : ∀ c ∈ conditions, Quiet R c = true ∧ c.head? ≠ some opening) :
    Quiet R (spelled conditions) = true := by
  induction conditions with
  | nil => rfl
  | cons c conditions ih =>
    obtain ⟨quiet, start⟩ := h c List.mem_cons_self
    have first : Quiet R (andWord :: c) = true := by
      simp [andWord, Quiet, Allowed, barred, start, quiet]
    rw [spelled, List.flatMap_cons]
    refine quiet_append first (ih fun c hc => h c (List.mem_cons_of_mem _ hc)) ?_
    cases conditions with
    | nil => simp
    | cons c conditions => simp [andWord, opening]

end Parts

theorem conditions_quiet (inet_pton : AddressFamily → CStr → Bool) (request : AGENT_REQUEST) :
    ∀ c ∈ conditions inet_pton request, Quiet rules c = true ∧ c.head? ≠ some opening := by
  refine every_condition ?_ ?_
  · intro param n i
    rcases i with _ | _ | i
    · rw [filterCondition]
      cases is_oid param <;> exact ⟨rfl, by simp [opening]⟩
    · rw [filterCondition]
      cases is_oid param <;> exact ⟨rfl, by simp [opening]⟩
    · simp only [filterCondition]
      cases is_valid_ip inet_pton param <;> exact ⟨rfl, by simp [opening]⟩
  · intro value
    cases value <;> exact ⟨rfl, by decide⟩

/-- The activity clause between two parts of a statement. -/
theorem activity_selects {inet_pton : AddressFamily → CStr → Bool} {request : AGENT_REQUEST}
    {a b text : CStr} (ht : activityText inet_pton request = some text)
    (before : Begins rules a = true) (after : Follows rules b = true)
    (short : a.length + b.length ≤ 1000) :
    Selects rules (zbx_snprintf MAX_QUERY_LEN (a ++ text ++ b)) = true := by
  obtain ⟨ts, first, head, quiet⟩ := begins_tokens before
  obtain ⟨apart, us, read, start, rest⟩ := follows_tokens after
  obtain ⟨text_apart, text_short⟩ := activityText_apart ht
  have whole : zbx_snprintf MAX_QUERY_LEN (a ++ text ++ b) = a ++ text ++ b := by
    apply zbx_snprintf_fits
    simp only [List.length_append, MAX_QUERY_LEN]
    omega
  rw [whole]
  have clause := spelled_quiet (by decide) (conditions_quiet inet_pton request)
  refine selects_of_tokens (tokens_append apart
    (tokens_append text_apart first (activityText_tokens ht)) read)
    (head_append head) (quiet_append quiet clause ?_) rest start
  cases conditions inet_pton request with
  | nil => simp [spelled]
  | cons c conditions => simp [spelled, andWord, opening]

def IsFreeColumn (field : CStr) : Bool :=
  IsColumn field && Free rules (field.map Char.toLower)

theorem keys_columns_free : ∀ metric ∈ keys, ∀ n ∈ columnStart metric.function,
    IsFreeColumn (metric.key.drop n) = true := by decide +kernel

theorem columnTexts_select : ∀ t ∈ columnTexts, ∀ field, IsFreeColumn field = true →
    Selects rules (zbx_snprintf MAX_STRING_LEN (t.1 field)) = true := by
  have parts : ∀ field, IsFreeColumn field = true →
      IsColumn field = true ∧ Free rules (field.map Char.toLower) = true := by
    intro field hf
    simpa [IsFreeColumn] using hf
  simp only [columnTexts, List.forall_mem_cons, List.not_mem_nil, false_imp_iff, implies_true,
    and_true]
  refine ⟨?_, ?_, ?_, ?_, ?_, ?_, ?_, ?_, ?_, ?_, ?_⟩
  all_goals
    intro field hf
    refine column_selects ?_ ?_ ?_ (parts field hf).1 (parts field hf).2
    all_goals
      try simp only [literal, List.flatMap_cons, List.flatMap_nil]
      repeat rw [String.toList_ofList]
      decide +kernel

theorem getBackends_selects {inet_pton : AddressFamily → CStr → Bool} {request : AGENT_REQUEST}
    {text : CStr} (ht : activityText inet_pton request = some text) (version : ℤ) :
    Selects rules (zbx_snprintf MAX_QUERY_LEN (PGSQL_GET_BACKENDS (pidColumn version) text)) =
      true := by
  unfold PGSQL_GET_BACKENDS pidColumn
  split
  all_goals
    refine activity_selects ht ?_ ?_ ?_
    all_goals
      repeat rw [String.toList_ofList]
      decide +kernel

theorem longestQuery_selects {inet_pton : AddressFamily → CStr → Bool} {request : AGENT_REQUEST}
    {text : CStr} (ht : activityText inet_pton request = some text) (version : ℤ) :
    Selects rules (zbx_snprintf MAX_QUERY_LEN (if version < 90200 then
      PGSQL_GET_LONGEST_QUERY text else PGSQL_GET_LONGEST_QUERY_92 text)) = true := by
  unfold PGSQL_GET_LONGEST_QUERY PGSQL_GET_LONGEST_QUERY_92
  split
  all_goals
    refine activity_selects ht ?_ ?_ ?_
    all_goals
      simp only [literal, List.flatMap_cons, List.flatMap_nil]
      repeat rw [String.toList_ofList]
      decide +kernel

def Reading : Question → Prop
  | .ping _ => True
  | .query _ text _ => Selects rules text = true

section Plans
variable {request : AGENT_REQUEST}

set_option maxRecDepth 8000 in
theorem discover_begins : Begins rules PGSQL_DISCOVER_INDEXES = true := by
  unfold rules PGSQL_DISCOVER_INDEXES
  simp only [literal, List.flatMap_cons, List.flatMap_nil]
  repeat rw [String.toList_ofList]
  decide +kernel

theorem conjunct_quiet (param : Option CStr) {relation column : String}
    (h : Quiet rules (IndexFilters.conjunct relation column (some ['a'])) = true) :
    Quiet rules (IndexFilters.conjunct relation column param) = true ∧
      (IndexFilters.conjunct relation column param).head? ≠ some opening := by
  match param with
  | none | some [] => exact ⟨rfl, by simp [IndexFilters.conjunct]⟩
  | some (c :: name) => exact ⟨h, by simp [IndexFilters.conjunct, opening]⟩

theorem built_selects (schema : IndexFilters.Unquoted (IndexFilters.schemaName request))
    (table : IndexFilters.Unquoted (IndexFilters.tableName request)) :
    Selects rules (IndexFilters.builtQuery request) = true := by
  obtain ⟨fixed, read, head, quiet⟩ := begins_tokens discover_begins
  obtain ⟨quiet₁, start₁⟩ := conjunct_quiet (IndexFilters.schemaName request)
    (show Quiet rules (IndexFilters.conjunct "n" "nspname" (some ['a'])) = true by decide +kernel)
  obtain ⟨quiet₂, start₂⟩ := conjunct_quiet (IndexFilters.tableName request)
    (show Quiet rules (IndexFilters.conjunct "t" "relname" (some ['a'])) = true by decide +kernel)
  have built := IndexFilters.built_tokens read schema table
  rw [← List.append_nil (_ ++ _)] at built
  exact selects_of_tokens built (head_append (head_append head))
    (quiet_append (quiet_append quiet quiet₁ start₁) quiet₂ start₂) rfl (by simp)

/-- The names a filter on indexes puts into its query are plain. -/
def PlainFilters (f : Handler) (request : AGENT_REQUEST) : Prop :=
  f = .PG_INDEX_DISCOVERY → IndexFilters.Unquoted (IndexFilters.schemaName request) ∧
    IndexFilters.Unquoted (IndexFilters.tableName request)

variable {g : Globals}

theorem index_reads (plain : PlainFilters .PG_INDEX_DISCOVERY request) :
    Asked Reading ((plan g request .PG_INDEX_DISCOVERY).dialogue request) := by
  obtain ⟨schema, table⟩ := plain rfl
  by_cases fits : IndexFilters.Fits request
  · rw [IndexFilters.index_plan fits]
    exact asked_mode (database_selects .connectable) fun _ => built_selects schema table
  · rw [plan, indexDiscoveryPlan, IndexFilters.indexDiscoveryQuery_eq, if_neg fits]
    trivial

variable {metric : ZBX_METRIC}

theorem ownText_selects (listed : metric ∈ keys) (asked : request.key = metric.key) {text : CStr}
    {n : ℕ} (own : OwnText g request metric.function text n) : Selects rules text = true := by
  cases own with
  | server t => exact server_selects t
  | database t => exact database_selects t
  | relation t => exact relation_selects t
  | ratio_all t => exact (ratio_selects t).1
  | ratio_one t => exact (ratio_selects t).2
  | column known start =>
    exact columnTexts_select _ known _ (asked ▸ keys_columns_free metric listed _ start)
  | backends ht version => exact getBackends_selects ht version
  | longest ht version => exact longestQuery_selects ht version

theorem plan_reads (listed : metric ∈ keys) (not_query : metric.function ≠ .PG_QUERY)
    (plain : PlainFilters metric.function request) (asked : request.key = metric.key) :
    Asked Reading ((plan g request metric.function).dialogue request) := by
  by_cases index : metric.function = .PG_INDEX_DISCOVERY
  · rw [index] at plain ⊢
    exact index_reads plain
  · refine asked_mono ?_ (plan_sends not_query index)
    intro q own
    cases q with
    | ping connstring => trivial
    | query connstring text params => exact ownText_selects listed asked own

end Plans

section Life
variable {S : Server} {g : Globals}

theorem alone_handles (items : List Item) (s : S.State) :
    ∀ run ∈ alone g items s, ∃ item ∈ items, ∃ s' : S.State,
      run = handle g item (World.start s') := by
  induction items generalizing s with
  | nil => exact fun _ hr => by cases hr
  | cons item items ih =>
    intro run hr
    rw [alone] at hr
    cases first : handle g item (World.start s) with
    | ok ret w =>
      rw [first] at hr
      rcases List.mem_cons.mp hr with rfl | hr
      · exact ⟨item, List.mem_cons_self, s, first.symm⟩
      · obtain ⟨item', hi, s', e⟩ := ih w.server run hr
        exact ⟨item', List.mem_cons_of_mem _ hi, s', e⟩
    | error e w =>
      rw [first, List.mem_singleton] at hr
      exact ⟨item, List.mem_cons_self, s, hr.trans first.symm⟩

/-- Whatever it is asked for but queries of the user's own, the process never sends a server
    anything but a single `SELECT` that only reads. -/
theorem life_only_reads (items : List Item) (server : S.State)
    (no_query : ∀ item ∈ items, item.metric.function ≠ .PG_QUERY)
    (plain : ∀ item ∈ items, PlainFilters item.metric.function item.request) :
    ∀ sent ∈ commands (serve g items (World.start server)).2.trace,
      Selects rules sent.1 = true := by
  have served := (requests_alike (g := g) items (shows_start server) (fun _ hx => by cases hx)).2
  intro sent hs
  rw [served] at hs
  rcases List.mem_append.mp hs with hs | hs
  · cases hs
  · obtain ⟨run, hr, hs⟩ := List.mem_flatMap.mp hs
    obtain ⟨item, hi, s', rfl⟩ := alone_handles items server run hr
    obtain ⟨connstring, known⟩ := call_asked
      (plan_reads (g := g) item.listed (no_query item hi) (plain item hi) item.asked) sent hs
    exact known

def indexItem : Item :=
  ⟨⟨"pg.index.discovery".toList, .PG_INDEX_DISCOVERY⟩,
    IndexFilters.indexesOf "public".toList "accounts".toList,
    List.mem_of_getElem? (i := 38) rfl, rfl⟩

theorem life_only_reads_indexes :
    ((commands (serve HandleDiscipline.defaults [sizeItem, indexItem]
      (World.start IndexFilters.oneDatabase)).2.trace).all fun sent =>
        Selects rules sent.1) = true := by
  refine List.all_eq_true.mpr (life_only_reads [sizeItem, indexItem] _ ?_ ?_)
  · rintro item (_ | ⟨_, _ | ⟨_, ⟨⟩⟩⟩) <;> decide
  · rintro item (_ | ⟨_, _ | ⟨_, ⟨⟩⟩⟩)
    · exact fun h => by cases h
    · intro _
      constructor
      · rintro name ⟨rfl⟩
        decide
      · rintro name ⟨rfl⟩
        decide

end Life

end LibZbxPgsql.ReadOnlyQueries
