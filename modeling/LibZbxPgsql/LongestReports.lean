import LibZbxPgsql.LongestQueries

set_option autoImplicit false

namespace LibZbxPgsql.LongestReports
open StateFaultWp CStrings AgentModel BackendKeys ItemKeys
open Dialogues WorldView Sessions DialogueRefinement DriverDialogues HandlerPlans KeyPlans
open ActivityClauses HandleDiscipline Conclusions QueryBinding
open SqlTokens SqlQueries SqlEvaluation ClauseTokens ActivityView BackendFilters
open DescendingRows LongestQueries
open Drivers (PGSQL_VERSION_NUM)

section Sent
variable {S : Server} {server : S.State} {g : Globals} {request : AGENT_REQUEST} {text : CStr}

theorem longestText_fits (ht : activityText g.inet_pton request = some text) (v : ℤ) :
    zbx_snprintf MAX_QUERY_LEN (longestText v text) = longestText v text := by
  obtain ⟨head, tail, -, head_short, tail_short, -, -, whole⟩ := longestText_parts v
  have short := (activityText_apart ht).2
  rw [whole]
  apply zbx_snprintf_fits
  rw [List.length_append, List.length_append, MAX_QUERY_LEN]
  omega

/-- The commands of a request that is not rejected. -/
theorem longest_sent {v : ℤ} (ht : activityText g.inet_pton request = some text)
    (read : versionRead S server request = some v) (nonzero : v ≠ 0)
    (reached : ¬ Refused S (afterVersionQuery S server request) request) :
    commands (lastState (call g request .PG_QUERIES_LONGEST (World.start server))).trace =
      [(PGSQL_VERSION_NUM, []), (longestText v text, filterParams request)] := by
  rw [call_sent, played]
  change sentOf (play (session S) ((activitySteps _ _ _).dialogue request []) server).exchanges = _
  rw [activitySteps_dialogue, ht]
  simp only [List.nil_append]
  rw [play_version read nonzero, sentOf, List.filterMap_cons, version_sentBy read, ← sentOf]
  change _ :: sentOf (play (session S) (resultAsk request .AR_DOUBLE
    (zbx_snprintf MAX_QUERY_LEN (longestText v text)) (filterParams request)) _).exchanges = _
  rw [longestText_fits ht, result_sent .AR_DOUBLE reached]

end Sent

section Main
variable {α : Type} [DecidableEq α]

/-- The command's query returns the longest time that a query the request asks for has
    run, and zero where there is none. -/
def ReportsLongest (session : Session α) (g : Globals) (request : AGENT_REQUEST) (v : ℤ)
    (now : ℚ) (rows : List (Activity α)) (command : CStr × List CStr) : Prop :=
  ∃ q, OrderedQueries.parse command.1 = some q ∧ q.table = pg_stat_activity_name ∧
    ∃ x, OrderedQueries.run session now (activityView v) command.2 rows q = some x ∧
      IsMaximum 0 (durations now (asked session g.inet_pton request v rows)) x

theorem reportsLongest_iff {session : Session α} {g : Globals} {request : AGENT_REQUEST}
    {text : CStr} (ht : activityText g.inet_pton request = some text)
    (reads : ∀ param ∈ filterParams request, ReadsAddresses session g.inet_pton param)
    (v : ℤ) (now : ℚ) (rows : List (Activity α)) :
    ReportsLongest session g request v now rows (longestText v text, filterParams request) ↔
      FilterOidsFit request ∧ Undisturbed session g.inet_pton request v now rows := by
  rw [← longest_maximum_iff v reads now rows, ReportsLongest]
  simp only [parse_longest v ht, Option.some.injEq, exists_eq_left']
  exact ⟨fun h => h.2, fun h => ⟨rfl, h⟩⟩

/-- The query is sent whole, and returns the maximum where the filters by oid are oids
    and nothing it selects comes before the rows asked for. -/
theorem longest_query_maximum_iff (session : Session α) (g : Globals) (request : AGENT_REQUEST)
    (reads : ∀ param ∈ filterParams request, ReadsAddresses session g.inet_pton param)
    (accepted : ¬ WaitingRejected request) (S : Server) (server : S.State) (v : ℤ)
    (read : versionRead S server request = some v) (nonzero : v ≠ 0)
    (reached : ¬ Refused S (afterVersionQuery S server request) request) (now : ℚ)
    (rows : List (Activity α)) :
    ∃ command,
      commands (lastState (call g request .PG_QUERIES_LONGEST (World.start server))).trace =
        [(PGSQL_VERSION_NUM, []), command] ∧
      (ReportsLongest session g request v now rows command ↔
        FilterOidsFit request ∧ Undisturbed session g.inet_pton request v now rows) := by
  cases ht : activityText g.inet_pton request with
  | none => exact absurd ((activityText_none_iff _ _).mp ht) accepted
  | some text =>
    exact ⟨(longestText v text, filterParams request), longest_sent ht read nonzero reached,
      reportsLongest_iff ht reads v now rows⟩

end Main

def client (pid : ℕ) (query_start : Option ℚ) (state : CStr) : Activity (List Char) :=
  { pid, datid := some 16384, datname := some "zabbix".toList, usesysid := none, usename := none,
    client_addr := none, client_hostname := none, waiting := some false, query_start,
    state := some state, current_query := none }

def stuckRows : List (Activity (List Char)) :=
  [client 2 none "active".toList, client 3 (some 40) "active".toList]

def longestRequest : AGENT_REQUEST :=
  ⟨"pg.queries.longest".toList, [[], [], "zabbix".toList]⟩

def versionServer : scripted.State :=
  [(.CONNECTION_OK, .PGRES_TUPLES_OK ⟨["server_version_num".toList], [[some "90600".toList]],
      by simp⟩),
   (.CONNECTION_OK, .PGRES_TUPLES_OK ⟨["coalesce".toList], [[some "0".toList]], by simp⟩)]

theorem longest_query_maximum_zabbix :
    ∃ command,
      commands (lastState (call defaults longestRequest .PG_QUERIES_LONGEST
        (World.start versionServer))).trace = [(PGSQL_VERSION_NUM, []), command] ∧
      (ReportsLongest textAddresses defaults longestRequest 90600 100 stuckRows command ↔
        FilterOidsFit longestRequest ∧
          Undisturbed textAddresses defaults.inet_pton longestRequest 90600 100 stuckRows) :=
  longest_query_maximum_iff textAddresses defaults longestRequest (fun _ _ _ => rfl)
    (by rintro ⟨p, hp, -⟩; cases hp) scripted versionServer 90600 (by decide) (by decide)
    (fun h => h rfl) 100 stuckRows

/-- The minute is hidden behind the row without a start. -/
theorem stuck_query_hidden :
    ¬ ReportsLongest textAddresses defaults longestRequest 90600 100 stuckRows
      (longestText 90600 " AND datname = $1".toList, ["zabbix".toList]) := by
  have ht : activityText defaults.inet_pton longestRequest =
      some " AND datname = $1".toList := by decide
  have all : asked textAddresses defaults.inet_pton longestRequest 90600 stuckRows =
      stuckRows := List.filter_eq_self.mpr (by decide)
  intro reports
  obtain ⟨-, undisturbed⟩ := (reportsLongest_iff ht (fun _ _ _ => rfl) _ _ _).mp reports
  rw [undisturbed_recent_iff 90600 (by decide), all] at undisturbed
  rcases undisturbed with started | zero
  · exact started (client 2 none "active".toList) List.mem_cons_self rfl
  · have minute : durations 100 stuckRows = [60] := by
      simp only [durations, stuckRows, client, List.filterMap_cons, List.filterMap_nil,
        Option.map_none, Option.map_some]
      norm_num
    rw [minute] at zero
    rcases zero with ⟨empty, -⟩ | ⟨zero, -⟩
    · cases empty
    · exact absurd (List.mem_singleton.mp zero) (by norm_num)

end LibZbxPgsql.LongestReports
