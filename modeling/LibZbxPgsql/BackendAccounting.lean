import LibZbxPgsql.BackendFilters

set_option autoImplicit false

namespace LibZbxPgsql.BackendAccounting
open StateFaultWp CStrings PrintfFormat AgentModel Connections Drivers BackendKeys ItemKeys
open Dialogues WorldView Sessions DialogueRefinement DriverDialogues HandlerPlans KeyPlans
open ActivityClauses HandleDiscipline Conclusions QueryBinding
open SqlTokens ClauseTokens SqlQueries SqlEvaluation ActivityView BackendFilters

def countCommand (version : ℤ) : CStr × List CStr :=
  (PGSQL_GET_BACKENDS (pidColumn version) [], [])

def freeCommand : CStr × List CStr := (backendsFree, [])

def ratioCommand (version : ℤ) : CStr × List CStr := (backendsRatio (pidColumn version), [])

def countOfBackends : Expr := .apply count (.column "datid".toList)

def max_connections : Name := "max_connections".toList

def maxConnections : Expr := .cast (.apply current_setting (.text max_connections)) .integer

def othersQuery (version : ℤ) : Query :=
  ⟨countOfBackends, pg_stat_activity_name, [otherBackend version]⟩

def freeQuery : Query := ⟨.binary .sub maxConnections countOfBackends, pg_stat_activity_name, []⟩

def ratioItem : Expr :=
  .caseWhen (.binary .eq countOfBackends (.int 0)) (.decimal 0)
    (.binary .div (.cast countOfBackends .float) maxConnections)

def ratioQuery (version : ℤ) : Query :=
  ⟨ratioItem, pg_stat_activity_name, [otherBackend version]⟩

set_option maxRecDepth 8000 in
theorem parse_free : parse backendsFree = some freeQuery := by
  unfold backendsFree
  simp only [literal, List.flatMap_cons, List.flatMap_nil]
  repeat rw [String.toList_ofList]
  decide

theorem parse_ratio (version : ℤ) :
    parse (backendsRatio (pidColumn version)) = some (ratioQuery version) := by
  unfold backendsRatio ratioQuery otherBackend
  rw [pidColumn]
  simp only [literal, List.flatMap_cons, List.flatMap_nil]
  split <;> repeat rw [String.toList_ofList]
  · decide +kernel
  · decide +kernel

section Unfiltered
variable (inet_pton : AddressFamily → CStr → Bool) (request : AGENT_REQUEST)

def Unfiltered : Prop := ∀ i < 4, strisnull (get_rparam request (PARAM_FIRST + i)) = true

variable {inet_pton request} (h : Unfiltered request)

include h

theorem unfiltered_cases {i : ℕ} (hi : i < 4) :
    get_rparam request (PARAM_FIRST + i) = none ∨
      get_rparam request (PARAM_FIRST + i) = some [] := by
  have empty := h i hi
  match hg : get_rparam request (PARAM_FIRST + i) with
  | none => exact .inl rfl
  | some [] => exact .inr rfl
  | some (d :: param) =>
    rw [hg] at empty
    cases empty

theorem addFilter_unfiltered (c : Clause) {i : ℕ} (hi : i < 4) :
    addFilter inet_pton request c i = c := by
  rw [addFilter]
  rcases unfiltered_cases h hi with none | empty
  · rw [none]
  · rw [empty]

theorem activityText_unfiltered : activityText inet_pton request = some [] := by
  have start : filtered inet_pton request = ⟨[], PG_AND, 0⟩ := by
    simp only [filtered, List.foldl_cons, List.foldl_nil]
    rw [addFilter_unfiltered h _ (by omega), addFilter_unfiltered h _ (by omega),
      addFilter_unfiltered h _ (by omega)]
  rw [activityText, start]
  rcases unfiltered_cases h (i := 3) (by omega) with none | empty
  · rw [none]
  · rw [empty]

theorem filterParams_unfiltered : filterParams request = [] := by
  have nothing : ∀ i < 4, bound (get_rparam request (PARAM_FIRST + i)) = [] :=
    fun i hi => (bound_eq_nil_iff _).mpr (h i hi)
  rw [filterParams, nothing 0 (by omega), nothing 1 (by omega), nothing 2 (by omega)]
  rfl

theorem filterExprs_unfiltered (is : List ℕ) (hi : ∀ i ∈ is, i < 4) (n : ℕ) :
    filterExprs inet_pton request is n = [] := by
  induction is with
  | nil => rfl
  | cons i is ih =>
    obtain ⟨first, rest⟩ := List.forall_mem_cons.mp hi
    rw [filterExprs]
    rcases unfiltered_cases h first with none | empty
    · rw [none]
      exact ih rest
    · rw [empty]
      exact ih rest

theorem countQuery_unfiltered (version : ℤ) :
    countQuery inet_pton request version = othersQuery version := by
  have waiting : waitingExprs request = [] := by
    rw [waitingExprs]
    rcases unfiltered_cases h (i := 3) (by omega) with none | empty
    · rw [none]
    · rw [empty]
  rw [countQuery, countExprs, filterExprs_unfiltered h _ (by decide), waiting]
  rfl

theorem parse_others (version : ℤ) :
    parse (PGSQL_GET_BACKENDS (pidColumn version) []) = some (othersQuery version) := by
  have text : activityText (fun _ _ => false) request = some [] := activityText_unfiltered h
  rw [parse_count version text, countQuery_unfiltered h]

end Unfiltered

section Values
variable {α : Type} [DecidableEq α] (session : Session α) (version : ℤ)
  (rows : List (Backend α))

def clients : List (Backend α) := rows.filter fun r => r.datid.isSome

def others : List (Backend α) := (clients rows).filter fun r => r.pid ≠ session.backendPid

def MaxConnections (max : ℕ) : Prop :=
  ∃ text, session.setting max_connections = some text ∧ isNumeral text = true ∧
    SqlQueries.digitsValue text = max

/-- The process that runs the query is one row, that of a client. -/
def Monitored : Prop :=
  ∃ monitor, rows.filter (fun r => r.pid = session.backendPid) = [monitor] ∧
    monitor.datid.isSome

variable {session version rows}

omit [DecidableEq α] in
/-- The monitor is the one client that is not among the others. -/
theorem clients_monitored (h : Monitored session rows) :
    (clients rows).length = (others session rows).length + 1 := by
  obtain ⟨monitor, only, client⟩ := h
  have split := List.length_eq_length_filter_add (l := clients rows)
    fun r => decide (r.pid = session.backendPid)
  have own : (clients rows).filter (fun r => r.pid = session.backendPid) = [monitor] := by
    rw [clients, List.filter_comm, only, List.filter_singleton, client]
    rfl
  simp only [own, List.length_singleton] at split
  have rest : ((clients rows).filter fun r => !decide (r.pid = session.backendPid)).length =
      (others session rows).length := by
    simp only [others, decide_not]
  omega

variable (session version) in
theorem others_keep (params : List CStr) (r : Backend α) :
    keeps session (pg_stat_activity version rows).types params [otherBackend version]
      (rowOf (columns version) r) = some (decide (r.pid ≠ session.backendPid)) := by
  have other := other_decides session params rows r (columns_show version)
  have one := keeps_of_decides session other (keeps_nil session)
  rwa [Bool.and_true] at one

section Groups
variable (types : Name → Option SqlType) (group : List (Name → SqlEvaluation.Value α))

theorem group_max {max : ℕ} (limit : MaxConnections session max) :
    evalGroup session types [] group maxConnections = some (some (.number max)) := by
  obtain ⟨text, set, numeral, rfl⟩ := limit
  rw [evalGroup, maxConnections, eval_cast session .integer (eval_setting session set), castTo,
    input, if_pos numeral]
  rfl

variable {types group} {count : ℚ}
  (counted : evalGroup session types [] group countOfBackends = some (some (.number count)))

include counted

theorem group_free {max : ℕ} (limit : MaxConnections session max) :
    evalGroup session types [] group freeQuery.item =
      some (some (.number (max - count))) := by
  exact eval_binary session .sub (t := .integer) (u := .integer) rfl rfl (by decide) (by decide)
    (group_max types group limit) counted

/-- None is a ratio of 0, as it is of any limit but 0. -/
theorem group_ratio {max : ℕ} (limit : MaxConnections session max) (positive : 0 < max) :
    evalGroup session types [] group ratioItem = some (some (.number (count / max))) := by
  have zero : evalGroup session types [] group (.int 0) = some (some (.number 0)) := by
    rw [evalGroup, eval, Nat.cast_zero]
  have empty : evalGroup session types [] group (.binary .eq countOfBackends (.int 0)) =
      some (some (.bool (count = 0))) :=
    eval_binary session .eq (t := .integer) (u := .integer) rfl rfl (by decide) (by decide)
      counted zero
  have floated : evalGroup session types [] group (.cast countOfBackends .float) =
      some (some (.number count)) :=
    eval_cast session .float counted
  have divided : evalGroup session types [] group
      (.binary .div (.cast countOfBackends .float) maxConnections) =
        some (some (.number (count / max))) := by
    have limited : (max : ℚ) ≠ 0 := by
      have := Nat.pos_iff_ne_zero.mp positive
      exact_mod_cast this
    refine (eval_binary session .div (t := .float) (u := .integer) rfl rfl (by decide)
      (by decide) floated (group_max types group limit)).trans ?_
    rw [strict, operate, if_neg limited]
    rfl
  refine (eval_case session empty).trans ?_
  by_cases none : count = 0
  · rw [none, zero_div]
    rfl
  · have some_value : (some (.bool (decide (count = 0))) : SqlEvaluation.Value α) ≠
        some (.bool true) := by simp [none]
    rw [if_neg some_value]
    exact divided

end Groups

variable (session version rows) in
theorem group_clients (group : List (Backend α)) :
    evalGroup session (pg_stat_activity version rows).types []
        (group.map (rowOf (columns version))) countOfBackends =
      some (some (.number (clients group).length)) := by
  have counted := group_count session rows [] (lookup_datid version) group
  simp only [Option.isSome_map] at counted
  exact counted

variable (session version rows) in
def Evaluates (command : CStr × List CStr) (value : ℚ) : Prop :=
  ∃ q, parse command.1 = some q ∧ q.table = pg_stat_activity_name ∧
    SqlEvaluation.run session (pg_stat_activity version rows) command.2 q =
      some [some (.number value)]

variable (session version rows)

theorem count_evaluates {request : AGENT_REQUEST} (h : Unfiltered request) :
    Evaluates session version rows (countCommand version) (others session rows).length := by
  refine ⟨othersQuery version, parse_others h version, rfl, ?_⟩
  have counted := run_count session pg_stat_activity_name (lookup_datid version)
    fun r (_ : r ∈ rows) => others_keep session version [] r
  rw [others, clients, List.filter_filter]
  simp only [Option.isSome_map, Bool.and_comm] at counted ⊢
  exact counted

theorem free_evaluates {max : ℕ} (limit : MaxConnections session max) :
    Evaluates session version rows freeCommand (max - (clients rows).length) := by
  refine ⟨freeQuery, parse_free, rfl, ?_⟩
  have all : ∀ r ∈ rows, keeps session (pg_stat_activity version rows).types [] []
      (rowOf (columns version) r) = some true := fun _ _ => keeps_nil session
  have value := group_free (group_clients session version rows rows) limit
  refine (run_group session pg_stat_activity_name rfl all).trans ?_
  rw [List.filter_true]
  exact congrArg (Option.map fun v => [v]) value

theorem ratio_evaluates {max : ℕ} (limit : MaxConnections session max) (positive : 0 < max) :
    Evaluates session version rows (ratioCommand version)
      ((others session rows).length / max) := by
  refine ⟨ratioQuery version, parse_ratio version, rfl, ?_⟩
  have kept : ∀ r ∈ rows, keeps session (pg_stat_activity version rows).types []
      [otherBackend version] (rowOf (columns version) r) =
        some (decide (r.pid ≠ session.backendPid)) :=
    fun r _ => others_keep session version [] r
  have value := group_ratio (group_clients session version rows
    (rows.filter fun r => r.pid ≠ session.backendPid)) limit positive
  refine (run_group session pg_stat_activity_name rfl kept).trans ?_
  rw [others, clients, List.filter_comm]
  exact congrArg (Option.map fun v => [v]) value

variable {rows}

/-- The free connections and the others add up to one less than the limit. -/
theorem accounts_evaluate {request : AGENT_REQUEST} (h : Unfiltered request) {max : ℕ}
    (limit : MaxConnections session max) (positive : 0 < max)
    (monitored : Monitored session rows) :
    ∃ c f r : ℚ, Evaluates session version rows (countCommand version) c ∧
      Evaluates session version rows freeCommand f ∧
      Evaluates session version rows (ratioCommand version) r ∧
      c + f + 1 = max ∧ r * max = c := by
  have limited : (max : ℚ) ≠ 0 := by
    have nonzero : max ≠ 0 := by omega
    exact_mod_cast nonzero
  have monitor : ((clients rows).length : ℚ) = (others session rows).length + 1 := by
    exact_mod_cast clients_monitored monitored
  refine ⟨_, _, _, count_evaluates session version rows h,
    free_evaluates session version rows limit,
    ratio_evaluates session version rows limit positive, ?_, ?_⟩
  · rw [monitor]
    ring
  · exact div_mul_cancel₀ _ limited

end Values

section Sent
variable {S : Server} {server : S.State} {g : Globals} {request : AGENT_REQUEST} {version : ℤ}

set_option maxRecDepth 8000 in
theorem ratio_whole (version : ℤ) :
    zbx_snprintf MAX_QUERY_LEN (backendsRatio (pidColumn version)) =
      backendsRatio (pidColumn version) := by
  have head : (backendsRatio []).length ≤ 300 := by
    unfold backendsRatio
    simp only [literal, List.flatMap_cons, List.flatMap_nil]
    repeat rw [String.toList_ofList]
    decide
  have pid : (pidColumn version).length ≤ 7 := by
    rw [pidColumn]
    split <;> decide
  apply zbx_snprintf_fits
  unfold backendsRatio at head ⊢
  simp only [List.length_append, List.length_nil, MAX_QUERY_LEN] at head ⊢
  omega

theorem free_sent (reached : ¬ Refused S server request) :
    commands (lastState (call g request .PG_BACKENDS_FREE (World.start server))).trace =
      [freeCommand] := by
  rw [call_sent]
  exact result_sent .AR_DOUBLE reached

theorem ratio_sent (read : versionRead S server request = some version) (nonzero : version ≠ 0)
    (reached : ¬ Refused S (afterVersionQuery S server request) request) :
    commands (lastState (call g request Handler.PG_BACKENDS_RATIO (World.start server))).trace =
      [(PGSQL_VERSION_NUM, []), ratioCommand version] := by
  rw [call_sent, played]
  change sentOf (play (session S) ((Steps.version _).dialogue request []) server).exchanges = _
  rw [play_version read nonzero, sentOf, List.filterMap_cons, version_sentBy read, ← sentOf,
    ratio_whole]
  exact congrArg _ (result_sent .AR_DOUBLE reached)

theorem unfiltered_sent (h : Unfiltered request)
    (read : versionRead S server request = some version) (nonzero : version ≠ 0)
    (reached : ¬ Refused S (afterVersionQuery S server request) request) :
    commands (lastState (call g request .PG_BACKENDS_COUNT (World.start server))).trace =
      [(PGSQL_VERSION_NUM, []), countCommand version] := by
  rw [count_sent (activityText_unfiltered h) read nonzero reached, filterParams_unfiltered h]
  rfl

end Sent

section Main
variable {α : Type} [DecidableEq α]

def Sends (S : Server) (g : Globals) (request : AGENT_REQUEST) (version : ℤ) : Prop :=
  ∀ server : S.State,
    (¬ Refused S server request →
      commands (lastState (call g request .PG_BACKENDS_FREE (World.start server))).trace =
        [freeCommand]) ∧
    (versionRead S server request = some version → version ≠ 0 →
      ¬ Refused S (afterVersionQuery S server request) request →
      commands (lastState (call g request .PG_BACKENDS_COUNT (World.start server))).trace =
          [(PGSQL_VERSION_NUM, []), countCommand version] ∧
        commands (lastState (call g request Handler.PG_BACKENDS_RATIO
          (World.start server))).trace = [(PGSQL_VERSION_NUM, []), ratioCommand version])

/-- On one snapshot, the backends counted and the free ones add up to the limit, and the
    ratio is that of the count to it. -/
def Balanced (session : Session α) (version : ℤ) (rows : List (Backend α)) (max : ℕ) : Prop :=
  ∀ c f r : ℚ, Evaluates session version rows (countCommand version) c →
    Evaluates session version rows freeCommand f →
    Evaluates session version rows (ratioCommand version) r →
    c + f = max ∧ r * max = c

/-- The three values exist on every snapshot that shows the monitor, and never balance:
    the free connections leave out one more, that of the query itself. -/
theorem backends_never_balance (session : Session α) {request : AGENT_REQUEST}
    (unfiltered : Unfiltered request) {max : ℕ} (limit : MaxConnections session max)
    (positive : 0 < max) {rows : List (Backend α)} (monitored : Monitored session rows)
    (version : ℤ) :
    (∀ (S : Server) (g : Globals), Sends S g request version) ∧
      (∃ c f r : ℚ, Evaluates session version rows (countCommand version) c ∧
        Evaluates session version rows freeCommand f ∧
        Evaluates session version rows (ratioCommand version) r ∧
        c + f + 1 = max ∧ r * max = c) ∧
      ¬ Balanced session version rows max := by
  have values := accounts_evaluate session version unfiltered limit positive monitored
  refine ⟨fun S g server => ⟨free_sent, fun read nonzero reached =>
    ⟨unfiltered_sent unfiltered read nonzero reached, ratio_sent read nonzero reached⟩⟩,
    values, ?_⟩
  intro balanced
  obtain ⟨c, f, r, hc, hf, hr, total, -⟩ := values
  have sum := (balanced c f r hc hf hr).1
  linarith

end Main

def hundred : Session (List Char) :=
  ⟨1, fun name => if name = max_connections then some "100".toList else none, fun _ => none⟩

def backend (pid : ℕ) (datid : Option ℕ) : Backend (List Char) :=
  ⟨pid, datid, none, none, none, none, none, none⟩

def threeProcesses : List (Backend (List Char)) :=
  [backend 1 (some 16384), backend 2 (some 16384), backend 3 none]

theorem hundred_limit : MaxConnections hundred 100 :=
  ⟨"100".toList, rfl, by decide, by decide⟩

theorem threeProcesses_monitored : Monitored hundred threeProcesses :=
  ⟨backend 1 (some 16384), rfl, rfl⟩

def freeRequest : AGENT_REQUEST := ⟨"pg.backends.free".toList, []⟩

theorem freeRequest_unfiltered : Unfiltered freeRequest := fun _ _ => rfl

theorem backends_never_balance_hundred :
    (∀ (S : Server) (g : Globals), Sends S g freeRequest 90600) ∧
      (∃ c f r : ℚ, Evaluates hundred 90600 threeProcesses (countCommand 90600) c ∧
        Evaluates hundred 90600 threeProcesses freeCommand f ∧
        Evaluates hundred 90600 threeProcesses (ratioCommand 90600) r ∧
        c + f + 1 = (100 : ℕ) ∧ r * (100 : ℕ) = c) ∧
      ¬ Balanced hundred 90600 threeProcesses 100 :=
  backends_never_balance hundred freeRequest_unfiltered hundred_limit (by decide)
    threeProcesses_monitored 90600

/-- One other client and 98 free connections, of a hundred. -/
theorem own_connection_missing : ¬ Balanced hundred 90600 threeProcesses 100 := by
  have count := count_evaluates hundred 90600 threeProcesses freeRequest_unfiltered
  have free := free_evaluates hundred 90600 threeProcesses hundred_limit
  have ratio := ratio_evaluates hundred 90600 threeProcesses hundred_limit (by decide)
  intro balanced
  have sum := (balanced _ _ _ count free ratio).1
  have clients_two : (clients threeProcesses).length = 2 := rfl
  have others_one : (others hundred threeProcesses).length = 1 := rfl
  rw [clients_two, others_one] at sum
  norm_num at sum

end LibZbxPgsql.BackendAccounting
