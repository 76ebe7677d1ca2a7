import LibZbxPgsql.ActivityView
import LibZbxPgsql.QueryBinding

set_option autoImplicit false

namespace LibZbxPgsql.BackendFilters
open StateFaultWp CStrings PrintfFormat AgentModel Connections Drivers BackendKeys ItemKeys
open Dialogues WorldView Sessions DialogueRefinement DriverDialogues HandlerPlans KeyPlans
open ActivityClauses HandleDiscipline Conclusions QueryBinding
open SqlTokens ClauseTokens SqlQueries SqlEvaluation ActivityView

section Expressions
variable (inet_pton : AddressFamily → CStr → Bool) (request : AGENT_REQUEST)

def filterExpr (param : CStr) (n : ℕ) : ℕ → Expr
  | 0 => .binary .eq (.column (if is_oid param then "datid".toList else "datname".toList))
      (.param n)
  | 1 => .binary .eq (.column (if is_oid param then "usesysid".toList else "usename".toList))
      (.param n)
  | _ =>
    if is_valid_ip inet_pton param then
      .binary .eq (.column "client_addr".toList) (.cast (.param n) .inet)
    else .binary .eq (.column "client_hostname".toList) (.param n)

def filterExprs : List ℕ → ℕ → List Expr
  | [], _ => []
  | i :: is, n =>
    match get_rparam request (PARAM_FIRST + i) with
    | none => filterExprs is n
    | some [] => filterExprs is n
    | some (d :: param) => filterExpr inet_pton (d :: param) (n + 1) i :: filterExprs is (n + 1)

def waitingExprs : List Expr :=
  match get_rparam request (PARAM_FIRST + 3) with
  | none => []
  | some [] => []
  | some (d :: param) =>
    [.binary .eq (.column "waiting".toList) (.bool (d :: param = "true".toList))]

def otherBackend (version : ℤ) : Expr :=
  .binary .ne (.column (pidColumn version)) (.call pg_backend_pid)

def countExprs (version : ℤ) : List Expr :=
  otherBackend version ::
    (filterExprs inet_pton request [0, 1, 2] 0 ++ waitingExprs request)

theorem wholeExpression_filter (param : CStr) (n i : ℕ) :
    wholeExpression (filterCondition inet_pton param n i) =
      some (filterExpr inet_pton param n i) := by
  match i with
  | 0 =>
    rw [filterCondition, filterExpr]
    cases is_oid param <;> rfl
  | 1 =>
    rw [filterCondition, filterExpr]
    cases is_oid param <;> rfl
  | _ + 2 =>
    simp only [filterCondition, filterExpr]
    cases is_valid_ip inet_pton param <;> rfl

theorem wholeExpression_filters (is : List ℕ) (n : ℕ) :
    (filterConditions inet_pton request is n).mapM wholeExpression =
      some (filterExprs inet_pton request is n) := by
  induction is generalizing n with
  | nil => rfl
  | cons i is ih =>
    rw [filterConditions, filterExprs]
    rcases get_rparam request (PARAM_FIRST + i) with _ | _ | ⟨d, param⟩
    · exact ih n
    · exact ih n
    · simp only
      rw [List.mapM_cons, wholeExpression_filter, ih (n + 1)]
      rfl

theorem wholeExpression_waiting :
    (waitingConditions request).mapM wholeExpression = some (waitingExprs request) := by
  rw [waitingConditions, waitingExprs]
  rcases get_rparam request (PARAM_FIRST + 3) with _ | _ | ⟨d, param⟩
  · rfl
  · rfl
  · simp only
    cases decide (d :: param = "true".toList) <;> rfl

end Expressions

def countHead (version : ℤ) : List Token :=
  [word "select", word "count", leftParen, word "datid", rightParen, word "from",
   word "pg_stat_activity", word "where", .word (pidColumn version), .symbol ['!', '='],
   word "pg_backend_pid", leftParen, rightParen]

theorem countHead_tokens (version : ℤ) :
    tokens ("SELECT COUNT(datid) FROM pg_stat_activity WHERE ".toList ++ pidColumn version ++
      " != pg_backend_pid()".toList) = some (countHead version) := by
  rw [countHead, pidColumn]
  split <;> decide

def pg_stat_activity_name : Name := "pg_stat_activity".toList

def countQuery (inet_pton : AddressFamily → CStr → Bool) (request : AGENT_REQUEST)
    (version : ℤ) : Query :=
  ⟨.apply count (.column "datid".toList), pg_stat_activity_name,
    countExprs inet_pton request version⟩

section Parse
variable {inet_pton : AddressFamily → CStr → Bool} {request : AGENT_REQUEST} {text : CStr}

def Parting (t : Token) : Prop := t = word "and" ∨ t = word "order"

theorem filterCondition_plain {t : Token} (ht : Parting t) (param : CStr) (n i : ℕ) :
    t ∉ filterCondition inet_pton param n i := by
  match i with
  | 0 =>
    rw [filterCondition]
    rcases ht with rfl | rfl <;> cases is_oid param <;> simp [word, equals]
  | 1 =>
    rw [filterCondition]
    rcases ht with rfl | rfl <;> cases is_oid param <;> simp [word, equals]
  | _ + 2 =>
    simp only [filterCondition]
    rcases ht with rfl | rfl <;> cases is_valid_ip inet_pton param <;> simp [word, equals]

theorem waitingCondition_plain {t : Token} (ht : Parting t) (value : Bool) :
    t ∉ waitingCondition value := by
  rw [waitingCondition]
  rcases ht with rfl | rfl <;> split <;> simp [word, equals]

theorem conditions_plain {t : Token} (ht : Parting t) :
    ∀ c ∈ conditions inet_pton request, t ∉ c :=
  every_condition (filterCondition_plain ht) (waitingCondition_plain ht)

def otherCondition (version : ℤ) : List Token :=
  [.word (pidColumn version), .symbol ['!', '='], word "pg_backend_pid", leftParen, rightParen]

theorem wholeExpression_other (version : ℤ) :
    wholeExpression (otherCondition version) = some (otherBackend version) := by
  rw [otherCondition, otherBackend, pidColumn]
  split <;> rfl

theorem otherCondition_plain {t : Token} (ht : Parting t) (version : ℤ) :
    t ∉ otherCondition version := by
  rw [otherCondition, pidColumn]
  rcases ht with rfl | rfl <;> split <;> simp [word, leftParen, rightParen]

theorem wholeExpression_conditions (version : ℤ) :
    (otherCondition version :: conditions inet_pton request).mapM wholeExpression =
      some (countExprs inet_pton request version) := by
  rw [List.mapM_cons, wholeExpression_other, conditions, List.mapM_append,
    wholeExpression_filters, wholeExpression_waiting]
  rfl

/-- The count query reads as a count of the rows that its conditions keep. -/
theorem parse_count (version : ℤ) (ht : activityText inet_pton request = some text) :
    parse (PGSQL_GET_BACKENDS (pidColumn version) text) =
      some (countQuery inet_pton request version) := by
  have clause := tokens_append (activityText_apart ht).1 (countHead_tokens version)
    (activityText_tokens ht)
  have semicolon : tokens ";".toList = some [.symbol [';']] := by decide
  have read : query (word "select" :: ([word "count", leftParen, word "datid", rightParen] ++
      word "from" :: .word pg_stat_activity_name :: word "where" ::
        (otherCondition version ++ (conditions inet_pton request).flatMap fun c =>
          word "and" :: c)) ++ [.symbol [';']]) =
      some (countQuery inet_pton request version) :=
    query_where (by decide) rfl (otherCondition_plain (.inl rfl) version)
      (conditions_plain (.inl rfl)) (wholeExpression_conditions version)
  unfold parse PGSQL_GET_BACKENDS
  rw [tokens_append (by decide) clause semicolon, Option.bind_some, ← read]
  rfl

end Parse

theorem is_oid_loop_eq (s : CStr) : is_oid_loop s true = s.all Char.isDigit := by
  induction s with
  | nil => rfl
  | cons c s ih =>
    rw [is_oid_loop, ih, List.all_cons, isdigit]
    cases c.isDigit <;> rfl

theorem is_oid_eq (s : CStr) : is_oid s = isNumeral s := by
  cases s with
  | nil => rfl
  | cons c s =>
    rw [is_oid, is_oid_loop, is_oid_loop_eq, isNumeral, List.all_cons, isdigit]
    cases c.isDigit <;> simp

/-- A parameter that is taken for an oid is one. -/
def OidInRange (param : CStr) : Prop :=
  is_oid param = true → SqlQueries.digitsValue param < 2 ^ 32

instance (param : CStr) : Decidable (OidInRange param) :=
  inferInstanceAs (Decidable (_ → _))

section Meaning
variable {α : Type} [DecidableEq α] (session : Session α)
  (inet_pton : AddressFamily → CStr → Bool) (request : AGENT_REQUEST)

/-- The server reads every address that the agent takes for one. -/
def ReadsAddresses (param : CStr) : Prop :=
  is_valid_ip inet_pton param = true → (session.inet_in param).isSome

/-- The row is one of those that the filter is for. -/
def filterHolds (param : CStr) (r : Backend α) : ℕ → Bool
  | 0 =>
    if is_oid param then r.datid = some (SqlQueries.digitsValue param)
    else r.datname = some (nameIn 63 param)
  | 1 =>
    if is_oid param then r.usesysid = some (SqlQueries.digitsValue param)
    else r.usename = some (nameIn 63 param)
  | 2 =>
    if is_valid_ip inet_pton param then
      r.client_addr.isSome && r.client_addr = session.inet_in param
    else r.client_hostname = some param
  | _ => r.waiting = some (decide (param = "true".toList))

def filterMatches (r : Backend α) (i : ℕ) : Bool :=
  match get_rparam request (PARAM_FIRST + i) with
  | none => true
  | some [] => true
  | some (d :: param) => filterHolds session inet_pton (d :: param) r i

def FilterOidsFit : Prop :=
  ∀ i ∈ [0, 1], ∀ param, get_rparam request (PARAM_FIRST + i) = some param → OidInRange param

def counted (r : Backend α) : Bool :=
  r.datid.isSome && (decide (r.pid ≠ session.backendPid) &&
    [0, 1, 2, 3].all (filterMatches session inet_pton request r))

variable {session inet_pton request} {version : ℤ} {params : List CStr}

section Views
variable {R : Type} {cols : Columns α R} {backend : R → Backend α} {rows : List R} {r : R}

theorem decides_oid {c : Name} {f : R → Option ℕ} {param : CStr} {n : ℕ}
    (hc : cols.lookup c = some (.oid, fun r => (f r).map fun n : ℕ => .number n))
    (hp : params[n]? = some param) (oid : is_oid param = true) (range : OidInRange param) :
    Decides session (tableOf cols rows).types params (rowOf cols r)
      (.binary .eq (.column c) (.param (n + 1)))
      (decide (f r = some (SqlQueries.digitsValue param))) := by
  have read : input session .oid param = some (.number (SqlQueries.digitsValue param)) := by
    rw [input, if_pos ⟨is_oid_eq param ▸ oid, range oid⟩]
  exact decides_param session embeds_number hc (by decide) hp read

theorem filter_decides (shows : ShowsBackends version cols backend) (param : CStr) {n i : ℕ}
    (hi : i < 3) (hp : params[n]? = some param) (range : i < 2 → OidInRange param)
    (reads : ReadsAddresses session inet_pton param) :
    Decides session (tableOf cols rows).types params (rowOf cols r)
      (filterExpr inet_pton param (n + 1) i)
      (filterHolds session inet_pton param (backend r) i) := by
  match i, hi with
  | 0, _ =>
    rw [filterExpr, filterHolds]
    by_cases oid : is_oid param = true
    · rw [if_pos oid, if_pos oid]
      exact decides_oid shows.datid hp oid (range (by decide))
    · rw [if_neg oid, if_neg oid]
      exact decides_param session embeds_text shows.datname (by decide) hp rfl
  | 1, _ =>
    rw [filterExpr, filterHolds]
    by_cases oid : is_oid param = true
    · rw [if_pos oid, if_pos oid]
      exact decides_oid shows.usesysid hp oid (range (by decide))
    · rw [if_neg oid, if_neg oid]
      exact decides_param session embeds_text shows.usename (by decide) hp rfl
  | 2, _ =>
    simp only [filterExpr, filterHolds]
    by_cases ip : is_valid_ip inet_pton param = true
    · rw [if_pos ip, if_pos ip]
      obtain ⟨a, ha⟩ := Option.isSome_iff_exists.mp (reads ip)
      have read : input session .inet param = some (.address a) := by
        rw [input, ha, Option.map_some]
      have decided : Decides session (tableOf cols rows).types params (rowOf cols r) _
          (decide ((backend r).client_addr = some a)) :=
        decides_cast session embeds_address shows.client_addr (by decide) hp read
      have same : ((backend r).client_addr.isSome && decide ((backend r).client_addr = some a)) =
          decide ((backend r).client_addr = some a) := by
        cases (backend r).client_addr <;> simp
      rw [ha, same]
      exact decided
    · rw [if_neg ip, if_neg ip]
      exact decides_param session embeds_text shows.client_hostname (by decide) hp rfl

variable (rows r) in
/-- After `n` parameters, those of these filters. -/
theorem filters_keep (shows : ShowsBackends version cols backend) (is : List ℕ)
    (hi : ∀ i ∈ is, i < 3) {n : ℕ}
    (hp : params.drop n = is.flatMap fun i => bound (get_rparam request (PARAM_FIRST + i)))
    (range : FilterOidsFit request)
    (reads : ∀ param ∈ params, ReadsAddresses session inet_pton param) :
    keeps session (tableOf cols rows).types params
        (filterExprs inet_pton request is n) (rowOf cols r) =
      some (is.all (filterMatches session inet_pton request (backend r))) := by
  induction is generalizing n with
  | nil => rfl
  | cons i is ih =>
    obtain ⟨first, rest⟩ := List.forall_mem_cons.mp hi
    rw [List.flatMap_cons] at hp
    rw [filterExprs, List.all_cons]
    match hg : get_rparam request (PARAM_FIRST + i) with
    | none =>
      rw [hg] at hp
      simp only [filterMatches, hg, Bool.true_and]
      exact ih rest hp
    | some [] =>
      rw [hg] at hp
      simp only [filterMatches, hg, Bool.true_and]
      exact ih rest hp
    | some (d :: param) =>
      rw [hg, bound, List.singleton_append] at hp
      have here : params[n]? = some (d :: param) := by
        have head := congrArg List.head? hp
        rwa [List.head?_drop, List.head?_cons] at head
      have given : d :: param ∈ params := List.mem_of_getElem? here
      have later : params.drop (n + 1) =
          is.flatMap fun i => bound (get_rparam request (PARAM_FIRST + i)) := by
        rw [← List.tail_drop, hp, List.tail_cons]
      have oid : i < 2 → OidInRange (d :: param) := by
        intro two
        refine range i ?_ _ hg
        rw [List.mem_cons, List.mem_singleton]
        omega
      simp only [filterMatches, hg]
      exact keeps_of_decides session
        (filter_decides shows (d :: param) first here oid (reads _ given)) (ih rest later)

variable (session inet_pton request rows r params) in
theorem waiting_keeps (shows : ShowsBackends version cols backend) :
    keeps session (tableOf cols rows).types params (waitingExprs request) (rowOf cols r) =
      some (filterMatches session inet_pton request (backend r) 3) := by
  rw [waitingExprs, filterMatches]
  match get_rparam request (PARAM_FIRST + 3) with
  | none => rfl
  | some [] => rfl
  | some (d :: param) =>
    have decided : Decides session (tableOf cols rows).types params (rowOf cols r) _
        (decide ((backend r).waiting = some _)) :=
      decides_bool session shows.waiting (decide (d :: param = "true".toList))
    have one := keeps_of_decides session decided (keeps_nil session)
    rw [Bool.and_true] at one
    exact one

variable (session rows r params) in
theorem other_decides (shows : ShowsBackends version cols backend) :
    Decides session (tableOf cols rows).types params (rowOf cols r)
      (otherBackend version) (decide ((backend r).pid ≠ session.backendPid)) := by
  have self : evalRow session (tableOf cols rows).types params (rowOf cols r)
      (.call pg_backend_pid) = some (some (.number session.backendPid)) := rfl
  have compared := evalRow_compare session .ne shows.pid (by decide) self rfl
  refine ⟨_, compared.trans rfl, ?_⟩
  by_cases h : (backend r).pid = session.backendPid <;> simp [h]

variable (rows r) in
/-- What the process and the filters ask of a row. -/
theorem clause_keeps (shows : ShowsBackends version cols backend) (range : FilterOidsFit request)
    (reads : ∀ param ∈ filterParams request, ReadsAddresses session inet_pton param) :
    keeps session (tableOf cols rows).types (filterParams request)
        (countExprs inet_pton request version) (rowOf cols r) =
      some (decide ((backend r).pid ≠ session.backendPid) &&
        [0, 1, 2, 3].all (filterMatches session inet_pton request (backend r))) := by
  have params : (filterParams request).drop 0 =
      [0, 1, 2].flatMap fun i => bound (get_rparam request (PARAM_FIRST + i)) := by
    rw [List.drop_zero, filterParams_eq]
  have filters := filters_keep rows r shows [0, 1, 2] (by decide) params range reads
  have clause := keeps_append session filters
    (waiting_keeps session inet_pton request _ rows r shows)
  have whole := keeps_of_decides session (other_decides session _ rows r shows) clause
  rw [countExprs, whole]
  simp [Bool.and_assoc]

end Views

theorem filterOids_fit (range : ∀ param ∈ filterParams request, OidInRange param) :
    FilterOidsFit request := by
  intro i hi param given
  match param with
  | [] => exact fun oid => absurd oid (by decide)
  | d :: param =>
    refine range _ ?_
    rw [filterParams_eq, List.mem_flatMap]
    refine ⟨i, ?_, by rw [given]; exact List.mem_singleton_self _⟩
    rw [List.mem_cons, List.mem_singleton] at hi
    rw [List.mem_cons, List.mem_cons, List.mem_singleton]
    omega

/-- The count query counts the rows that every filter given holds of. -/
theorem count_counts (session : Session α) (version : ℤ) (rows : List (Backend α))
    (range : ∀ param ∈ filterParams request, OidInRange param)
    (reads : ∀ param ∈ filterParams request, ReadsAddresses session inet_pton param) :
    SqlEvaluation.run session (pg_stat_activity version rows) (filterParams request)
        (countQuery inet_pton request version) =
      some [some (.number (rows.filter (counted session inet_pton request)).length)] := by
  have kept_rows := run_count session pg_stat_activity_name (lookup_datid version)
    fun r (_ : r ∈ rows) => clause_keeps rows r (columns_show version) (filterOids_fit range) reads
  simp only [Option.isSome_map] at kept_rows
  exact kept_rows

end Meaning

section Build
variable {S : Server} {inet_pton : AddressFamily → CStr → Bool} {request : AGENT_REQUEST}

def clauseOf (c : ActivityClause) : Clause := ⟨c.buf, c.clause, c.pgi⟩

theorem param_append_returns (params : PGparams) (s : Option CStr) (w : World S) :
    wp (param_append params s) (fun _ _ => True) (fun _ _ => False) w := by
  match s, params with
  | none, _ => trivial
  | some [], _ => trivial
  | some (c :: s), none => trivial
  | some (c :: s), some array => trivial

theorem write_fits {c : ActivityClause} {formatted : CStr}
    (h : c.buf.length + formatted.length < 4000) :
    (write c formatted : Agent S ActivityClause) =
      pure { c with buf := c.buf ++ formatted, clause := PG_AND } := by
  have whole : zbx_snprintf MAX_CLAUSE_LEN formatted = formatted := by
    apply zbx_snprintf_fits
    simp only [MAX_CLAUSE_LEN]
    omega
  rw [write, whole]
  refine if_neg ?_
  simp only [MAX_CLAUSE_LEN, List.length_append]
  omega

/-- A filter by a parameter does not stop the loop. -/
theorem filters_step {n i : ℕ} (hi : i < 3) (hn : n < 4) {c : ActivityClause}
    (h : Fits n (clauseOf c)) {is : List ℕ}
    {Q : Except PGparams ActivityClause → World S → Prop}
    (rest : ∀ c' w', clauseOf c' = addFilter inet_pton request (clauseOf c) i →
      wp (activityFilters inet_pton request is c') Q (fun _ _ => False) w') (w : World S) :
    wp (activityFilters inet_pton request (i :: is) c) Q (fun _ _ => False) w := by
  rw [activityFilters]
  rw [addFilter] at rest
  rcases hg : get_rparam request (PARAM_FIRST + i) with _ | _ | ⟨d, param⟩
  · simp only [hg] at rest
    exact rest c w rfl
  · simp only [hg] at rest
    exact rest c w rfl
  · simp only [hg] at rest
    have pgi : c.pgi ≤ n := h.pgi
    have text : c.buf.length ≤ 40 * n := h.text
    have word : c.clause = PG_AND := h.word
    have added := filterText_length inet_pton (d :: param) i (n := c.pgi + 1) (by omega)
    simp only [activityFilter_bound request inet_pton c (d :: param) hi, bind_assoc, pure_bind]
    refine wp_seq (param_append_returns c.params (some (d :: param)) w) ?_
    intro params w' _
    rw [write_fits (by simp only; rw [word]; omega), pure_bind]
    exact rest _ w' rfl

/-- The last filter alone can reject the request. -/
theorem filters_last {c : ActivityClause} (h : Fits 3 (clauseOf c)) (w : World S) :
    wp (activityFilters inet_pton request [3] c)
      (fun done _ => (∃ params, done = .error params) ↔ WaitingRejected request)
      (fun _ _ => False) w := by
  have text : c.buf.length ≤ 120 := h.text
  have word : c.clause = PG_AND := h.word
  rw [activityFilters, WaitingRejected]
  rcases get_rparam request (PARAM_FIRST + 3) with _ | _ | ⟨d, param⟩
  · simp [activityFilters]
  · simp [activityFilters]
  · have none_iff := waitingText_none_iff (d :: param)
    simp only [activityFilter_waiting request inet_pton c (d :: param) (by omega : ¬ 3 < 3)]
    cases hw : waitingText (d :: param) with
    | none =>
      have rejected := none_iff.mp hw
      exact iff_of_true ⟨c.params, rfl⟩ ⟨d :: param, rfl, List.cons_ne_nil _ _, rejected⟩
    | some condition =>
      have short := waitingText_length hw
      have and_length : PG_AND.length = 3 := by decide
      have fits : c.buf.length + (' ' :: c.clause ++ ' ' :: condition).length < 4000 := by
        rw [word]
        simp only [List.length_append, List.length_cons, and_length]
        omega
      simp only [write_fits fits, pure_bind, activityFilters, wp_pure]
      have kept : ¬ (d :: param ≠ "true".toList ∧ d :: param ≠ "false".toList) := by
        rw [← none_iff, hw]
        exact Option.some_ne_none condition
      refine iff_of_false ?_ ?_
      · rintro ⟨params, h⟩
        cases h
      · rintro ⟨p, hp, -, rejected⟩
        cases hp
        exact kept rejected

variable (inet_pton request) in
/-- The clause is built, or the request rejected, without a fault. -/
theorem build_returns (w : World S) :
    wp (build_activity_clause inet_pton request none true)
      (fun done _ => (∃ params, done = .error params) ↔ WaitingRejected request)
      (fun _ _ => False) w := by
  have start : Fits 0 ⟨[], PG_AND, 0⟩ := ⟨by simp, rfl, by simp⟩
  rw [build_activity_clause, if_pos rfl]
  refine filters_step (by omega) (by omega) start (fun c₁ w₁ h₁ => ?_) w
  have one : Fits 1 (clauseOf c₁) := h₁ ▸ addFilter_fits inet_pton request (by omega) start 0
  refine filters_step (by omega) (by omega) one (fun c₂ w₂ h₂ => ?_) w₁
  have two : Fits 2 (clauseOf c₂) := h₂ ▸ addFilter_fits inet_pton request (by omega) one 1
  refine filters_step (by omega) (by omega) two (fun c₃ w₃ h₃ => ?_) w₂
  have three : Fits 3 (clauseOf c₃) := h₃ ▸ addFilter_fits inet_pton request (by omega) two 2
  exact filters_last three w₃

variable (inet_pton request) in
theorem build_rejects_iff (w : World S) :
    (∃ params w', build_activity_clause inet_pton request none true w = .ok (.error params) w') ↔
      WaitingRejected request := by
  obtain ⟨done, w', run, rejects⟩ := wp_returns (build_returns inet_pton request w)
  rw [run, ← rejects]
  constructor
  · rintro ⟨params, w'', same⟩
    cases same
    exact ⟨params, rfl⟩
  · rintro ⟨params, rfl⟩
    exact ⟨params, w', rfl⟩

end Build

section Sent
variable {S : Server} {server : S.State} {g : Globals} {request : AGENT_REQUEST}

theorem version_sentBy {v : ℤ} (read : versionRead S server request = some v) :
    sentBy (.query (requestConnstring request) PGSQL_VERSION_NUM [],
      (versionAnswer S server request).1) = some (PGSQL_VERSION_NUM, []) := by
  rw [versionRead] at read
  cases ha : (versionAnswer S server request).1 with
  | refused m =>
    rw [ha] at read
    cases read
  | noResult | failed _ | answered _ => rfl

theorem getBackends_fits {text : CStr} (ht : activityText g.inet_pton request = some text)
    (v : ℤ) : zbx_snprintf MAX_QUERY_LEN (PGSQL_GET_BACKENDS (pidColumn v) text) =
      PGSQL_GET_BACKENDS (pidColumn v) text := by
  have short := (activityText_apart ht).2
  have head : "SELECT COUNT(datid) FROM pg_stat_activity WHERE ".toList.length = 48 := by
    decide
  have middle : " != pg_backend_pid()".toList.length = 20 := by decide
  have pid : (pidColumn v).length ≤ 7 := by
    rw [pidColumn]
    split <;> decide
  apply zbx_snprintf_fits
  unfold PGSQL_GET_BACKENDS
  simp only [List.length_append, head, middle, MAX_QUERY_LEN]
  have last : ";".toList.length = 1 := by decide
  omega

/-- The commands of a count that is not rejected. -/
theorem count_sent {text : CStr} {v : ℤ} (ht : activityText g.inet_pton request = some text)
    (read : versionRead S server request = some v) (nonzero : v ≠ 0)
    (reached : ¬ Refused S (afterVersionQuery S server request) request) :
    commands (lastState (call g request .PG_BACKENDS_COUNT (World.start server))).trace =
      [(PGSQL_VERSION_NUM, []),
       (PGSQL_GET_BACKENDS (pidColumn v) text, filterParams request)] := by
  have whole : zbx_snprintf MAX_QUERY_LEN (PGSQL_GET_BACKENDS (pidColumn v) text) =
      PGSQL_GET_BACKENDS (pidColumn v) text :=
    getBackends_fits ht v
  rw [call_sent, played]
  change sentOf (play (session S) ((Steps.version _).dialogue request []) server).exchanges = _
  rw [play_version read nonzero, sentOf, List.filterMap_cons, version_sentBy read, ← sentOf,
    activitySteps_dialogue, ht]
  simp only [List.nil_append, whole]
  exact congrArg _ (result_sent .AR_UINT64 reached)

/-- A count that is rejected sends nothing after the version query. -/
theorem rejected_sent (rejected : WaitingRejected request) :
    ∀ sent ∈ commands
      (lastState (call g request .PG_BACKENDS_COUNT (World.start server))).trace,
      sent = (PGSQL_VERSION_NUM, []) := by
  have none_text : activityText g.inet_pton request = none :=
    (activityText_none_iff _ _).mpr rejected
  have asked : Asked (fun q => q = .query (requestConnstring request) PGSQL_VERSION_NUM [])
      ((plan g request .PG_BACKENDS_COUNT).dialogue request) := by
    refine asked_version rfl ?_
    intro v
    rw [activitySteps_dialogue, none_text]
    trivial
  intro sent hs
  obtain ⟨connstring, only⟩ := call_asked asked sent hs
  obtain ⟨-, text, params⟩ := Question.query.inj only
  exact Prod.ext text params

end Sent

section Main
variable {α : Type} [DecidableEq α]

/-- The command counts, on every snapshot, the rows that the request asks for. -/
def Counts (session : Session α) (g : Globals) (request : AGENT_REQUEST) (v : ℤ)
    (command : CStr × List CStr) : Prop :=
  ∃ q, parse command.1 = some q ∧ q.table = pg_stat_activity_name ∧
    ∀ rows : List (Backend α),
      SqlEvaluation.run session (pg_stat_activity v rows) command.2 q =
        some [some (.number (rows.filter (counted session g.inet_pton request)).length)]

/-- The request is rejected where its waiting filter is neither of the two texts;
    otherwise the count query is sent whole, and counts the rows of its filters. -/
theorem backend_filters_count (session : Session α) (g : Globals) (request : AGENT_REQUEST)
    (range : ∀ param ∈ filterParams request, OidInRange param)
    (reads : ∀ param ∈ filterParams request, ReadsAddresses session g.inet_pton param)
    (S : Server) :
    (∀ w : World S, (∃ params w', build_activity_clause g.inet_pton request none true w =
      .ok (.error params) w') ↔ WaitingRejected request) ∧
    ∀ server : S.State,
      (WaitingRejected request → ∀ sent ∈ commands
        (lastState (call g request .PG_BACKENDS_COUNT (World.start server))).trace,
        sent = (PGSQL_VERSION_NUM, [])) ∧
      (¬ WaitingRejected request → ∀ v, versionRead S server request = some v → v ≠ 0 →
        ¬ Refused S (afterVersionQuery S server request) request →
        ∃ text, activityText g.inet_pton request = some text ∧
          commands (lastState (call g request .PG_BACKENDS_COUNT (World.start server))).trace =
            [(PGSQL_VERSION_NUM, []),
             (PGSQL_GET_BACKENDS (pidColumn v) text, filterParams request)] ∧
          Counts session g request v
            (PGSQL_GET_BACKENDS (pidColumn v) text, filterParams request)) := by
  refine ⟨fun w => build_rejects_iff g.inet_pton request w, fun server => ⟨rejected_sent, ?_⟩⟩
  intro kept v read nonzero reached
  cases ht : activityText g.inet_pton request with
  | none => exact absurd ((activityText_none_iff _ _).mp ht) kept
  | some text =>
    refine ⟨text, rfl, count_sent ht read nonzero reached, ?_⟩
    exact ⟨countQuery g.inet_pton request v, parse_count v ht, rfl,
      fun rows => count_counts session v rows range reads⟩

end Main

def textAddresses : Session (List Char) := ⟨1, fun _ => none, some⟩

def filtersRequest : AGENT_REQUEST :=
  ⟨"pg.backends.count".toList,
    [[], [], "16384".toList, "zabbix".toList, "127.0.0.1".toList, "true".toList]⟩

def loopback : Globals :=
  { defaults with inet_pton := fun family s => family = .AF_INET ∧ s = "127.0.0.1".toList }

theorem backend_filters_count_loopback :
    (∀ w : World scripted, (∃ params w', build_activity_clause loopback.inet_pton filtersRequest
      none true w = .ok (.error params) w') ↔ WaitingRejected filtersRequest) ∧
    ∀ server : scripted.State,
      (WaitingRejected filtersRequest → ∀ sent ∈ commands (lastState (call (S := scripted)
        loopback filtersRequest .PG_BACKENDS_COUNT (World.start server))).trace,
        sent = (PGSQL_VERSION_NUM, [])) ∧
      (¬ WaitingRejected filtersRequest → ∀ v, versionRead scripted server filtersRequest = some v →
        v ≠ 0 → ¬ Refused scripted (afterVersionQuery scripted server filtersRequest)
          filtersRequest →
        ∃ text, activityText loopback.inet_pton filtersRequest = some text ∧
          commands (lastState (call (S := scripted) loopback filtersRequest .PG_BACKENDS_COUNT
            (World.start server))).trace =
            [(PGSQL_VERSION_NUM, []),
             (PGSQL_GET_BACKENDS (pidColumn v) text, filterParams filtersRequest)] ∧
          Counts textAddresses loopback filtersRequest v
            (PGSQL_GET_BACKENDS (pidColumn v) text, filterParams filtersRequest)) := by
  have range : ∀ param ∈ filterParams filtersRequest, OidInRange param := by
    intro param hp
    simp only [show filterParams filtersRequest =
      ["16384".toList, "zabbix".toList, "127.0.0.1".toList] from rfl, List.mem_cons,
      List.not_mem_nil, or_false] at hp
    rcases hp with rfl | rfl | rfl <;> decide
  exact backend_filters_count textAddresses loopback filtersRequest range
    (fun _ _ _ => rfl) scripted

end LibZbxPgsql.BackendFilters
