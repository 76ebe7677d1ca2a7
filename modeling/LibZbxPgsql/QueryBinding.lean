import LibZbxPgsql.NamedQueryTable
import LibZbxPgsql.Reports

set_option autoImplicit false

namespace LibZbxPgsql.QueryBinding
open StateFaultWp CStrings AgentModel Connections Drivers Discovery NamedQueries ItemKeys
open NamedQueryTable Dialogues Sessions DialogueRefinement DriverDialogues HandlerPlans KeyPlans
open Conclusions HandleDiscipline Reports

theorem bound_some (s : CStr) : bound (some s) = [s].filter (· ≠ []) := by
  cases s <;> rfl

theorem params_from (params : List CStr) (n : ℕ) :
    (List.range' n (params.length - n)).map (params[·]?) = (params.drop n).map some := by
  apply List.ext_getElem?
  intro i
  rw [List.getElem?_map, List.getElem?_map, List.getElem?_drop]
  by_cases hi : i < params.length - n
  · have inside : n + i < params.length := by omega
    rw [List.getElem?_range' hi, Nat.one_mul, List.getElem?_eq_getElem inside]
    simp [inside]
  · rw [List.getElem?_eq_none (by simpa using hi), List.getElem?_eq_none (by omega)]
    rfl

theorem userParams_eq (request : AGENT_REQUEST) :
    userParams request = (request.params.drop 3).map some :=
  params_from request.params 3

theorem bound_params (params : List CStr) :
    (params.map some).flatMap bound = params.filter (· ≠ []) := by
  induction params with
  | nil => rfl
  | cons p params ih =>
    rw [List.map_cons, List.flatMap_cons, ih, bound_some, ← List.filter_append]
    rfl

def givenParams (request : AGENT_REQUEST) : List CStr :=
  (request.params.drop 3).filter (· ≠ [])

theorem appendAll_dialogue (request : AGENT_REQUEST) (l : List (Option CStr)) (next : Steps)
    (params : List CStr) :
    (appendAll l next).dialogue request params =
      next.dialogue request (params ++ l.flatMap bound) := by
  induction l generalizing params with
  | nil => rw [appendAll, List.flatMap_nil, List.append_nil]
  | cons param l ih => rw [appendAll, Steps.dialogue, ih, List.flatMap_cons, List.append_assoc]

theorem userQuery_dialogue (request : AGENT_REQUEST) (next : Steps) :
    (appendAll (userParams request) next).dialogue request [] =
      next.dialogue request (givenParams request) := by
  rw [appendAll_dialogue, userParams_eq, bound_params]
  rfl

inductive QueryDriver : Steps → CStr → Prop where
  | scalar (type : ResultType) (query : CStr) : QueryDriver (.scalar type query) query
  | discovery (query : CStr) : QueryDriver (.discovery query) query

theorem queryKeys_listed {metric : ZBX_METRIC} (listed : metric ∈ keys)
    (hf : metric.function = .PG_QUERY) :
    metric.key ∈ ["pg.query.string".toList, "pg.query.integer".toList,
      "pg.query.double".toList, "pg.query.discovery".toList] := by
  have all : ∀ m ∈ keys, m.function = .PG_QUERY →
      m.key ∈ ["pg.query.string".toList, "pg.query.integer".toList,
        "pg.query.double".toList, "pg.query.discovery".toList] := by decide
  exact all metric listed hf

theorem queryType_driver {metric : ZBX_METRIC} (listed : metric ∈ keys)
    (hf : metric.function = .PG_QUERY) (query : CStr) :
    QueryDriver (queryTypeSteps (metric.key.drop 9) query) query := by
  have known := queryKeys_listed listed hf
  simp only [List.mem_cons, List.not_mem_nil, or_false] at known
  rcases known with h | h | h | h <;> rw [h]
  · exact .scalar .AR_STRING query
  · exact .scalar .AR_UINT64 query
  · exact .scalar .AR_DOUBLE query
  · exact .discovery query

section Sent
variable {S : Server} {s : S.State} {request : AGENT_REQUEST} {query : CStr}
  {params : List CStr}

theorem sentBy_query (reached : ¬ Refused S s request) :
    sentBy (.query (requestConnstring request) query params,
        (session S s (.query (requestConnstring request) query params)).1) =
      some (query, params) := by
  cases hr : refusal S s (requestConnstring request) with
  | mk message s' =>
    cases message with
    | some m => exact absurd (by simp [Refused, hr]) reached
    | none =>
      rw [session_opened hr]
      cases (S.exec s' (requestConnstring request) query params).1 <;> rfl

/-- A dialogue of one query sends that query. -/
theorem ask_sent {β : Type} {next : Reply → Asks β} (ends : ∀ reply, ∃ r, next reply = .done r)
    (reached : ¬ Refused S s request) :
    sentOf (play (session S) (.ask (.query (requestConnstring request) query params) next)
      s).exchanges = [(query, params)] := by
  obtain ⟨r, last⟩ :=
    ends (session S s (.query (requestConnstring request) query params)).1
  rw [play_ask, last, sentOf, List.filterMap_cons, sentBy_query reached]
  rfl

theorem result_sent (type : ResultType) (reached : ¬ Refused S s request) :
    sentOf (play (session S) (resultAsk request type query params) s).exchanges =
      [(query, params)] := by
  refine ask_sent ?_ reached
  intro reply
  simp only [Dialogue.bind]
  cases scalarEnd query MAX_STRING_LEN reply <;> exact ⟨_, rfl⟩

theorem discovery_sent (reached : ¬ Refused S s request) :
    sentOf (play (session S) (discoveryAsk request query params) s).exchanges =
      [(query, params)] :=
  ask_sent (fun _ => ⟨_, rfl⟩) reached

theorem driver_sent {steps : Steps} (h : QueryDriver steps query)
    (reached : ¬ Refused S s request) :
    sentOf (play (session S) (steps.dialogue request params) s).exchanges =
      [(query, params)] := by
  cases h with
  | scalar type query => exact result_sent type reached
  | discovery query => exact discovery_sent reached

end Sent

section OneQuery
variable (S : Server) (g : Globals) (request : AGENT_REQUEST) (f : Handler) (type : ResultType)
  (command : CStr × List CStr)

/-- The key sends this command alone, and reports its first value. -/
def RunsQuery : Prop :=
  ∀ server : S.State,
    (¬ Refused S server request →
      commands (lastState (call g request f (World.start server))).trace = [command]) ∧
    ∀ t, Answers S server request command.1 command.2 t →
      Delivers S g request f server (resultReport (zbx_strlcpy t MAX_STRING_LEN) type)

variable {S g request f type command}

theorem runsQuery_of_asks (asks : (plan g request f).dialogue request =
    resultAsk request type command.1 command.2) : RunsQuery S g request f type command := by
  intro server
  refine ⟨fun reached => ?_, fun t answer => delivers_answered type asks answer⟩
  rw [call_sent, played, asks]
  exact result_sent type reached

end OneQuery

/-- Each parameter is that of the request two places on. -/
def BoundByPosition (request : AGENT_REQUEST) (params : List CStr) : Prop :=
  params.length = request.nparam - 3 ∧
    ∀ i, 1 ≤ i → i ≤ request.nparam - 3 → params[i - 1]? = get_rparam request (2 + i)

theorem boundByPosition_iff (request : AGENT_REQUEST) (params : List CStr) :
    BoundByPosition request params ↔ params = request.params.drop 3 := by
  constructor
  · rintro ⟨count, places⟩
    apply List.ext_getElem?
    intro i
    rw [List.getElem?_drop]
    by_cases hi : i < request.nparam - 3
    · have place := places (i + 1) (by omega) (by omega)
      rw [Nat.add_sub_cancel, get_rparam] at place
      rw [place]
      congr 1
      omega
    · have short : request.params.length ≤ 3 + i := by
        have : request.nparam = request.params.length := rfl
        omega
      rw [List.getElem?_eq_none (by omega), List.getElem?_eq_none short]
  · rintro rfl
    refine ⟨List.length_drop, ?_⟩
    intro i hi _
    rw [List.getElem?_drop, get_rparam]
    congr 1
    omega

theorem givenParams_all (request : AGENT_REQUEST) :
    givenParams request = request.params.drop 3 ↔ ∀ p ∈ request.params.drop 3, p ≠ [] := by
  rw [givenParams, List.filter_eq_self]
  simp

section Query
variable {S : Server} {g : Globals} {request : AGENT_REQUEST} {metric : ZBX_METRIC}
  {server : S.State} {root : List Setting} {query : CStr}

/-- The command that a query key sends over its connection. -/
theorem query_sent (loaded : Loaded root g.queries) (listed : metric ∈ keys)
    (hf : metric.function = .PG_QUERY) (asked : request.key = metric.key)
    (given : get_rparam request PARAM_FIRST = some query) (nonempty : query ≠ [])
    (reached : ¬ Refused S server request) :
    commands (lastState (call g request metric.function (World.start server))).trace =
      [((configured root query).getD query, givenParams request)] := by
  rw [call_sent, played, hf]
  change sentOf (play (session S) ((querySteps g.queries request).dialogue request [])
    server).exchanges = _
  obtain ⟨c, key, rfl⟩ := List.exists_cons_of_ne_nil nonempty
  rw [querySteps, given]
  simp only [(loaded_resolves loaded (c :: key)).1]
  rw [userQuery_dialogue, asked]
  exact driver_sent (queryType_driver listed hf _) reached

/-- The user's query binds its parameters by position exactly where none of them is
    empty: an empty one is left out, and those after it move up. -/
theorem query_binds_by_position_iff (loaded : Loaded root g.queries) (listed : metric ∈ keys)
    (hf : metric.function = .PG_QUERY) (asked : request.key = metric.key)
    (given : get_rparam request PARAM_FIRST = some query) (nonempty : query ≠ [])
    (reached : ¬ Refused S server request) :
    (∃ params, commands (lastState (call g request metric.function (World.start server))).trace =
        [((configured root query).getD query, params)] ∧ BoundByPosition request params) ↔
      ∀ p ∈ request.params.drop 3, p ≠ [] := by
  rw [query_sent loaded listed hf asked given nonempty reached, ← givenParams_all]
  constructor
  · rintro ⟨params, sent, places⟩
    simp only [List.cons.injEq, Prod.mk.injEq, true_and, and_true] at sent
    rw [sent]
    exact (boundByPosition_iff request params).mp places
  · intro all
    exact ⟨_, rfl, (boundByPosition_iff request _).mpr all⟩

end Query

def sumRoot : List Setting :=
  [("queries".toList, .group [("sum".toList, .string "SELECT $1::int + $2::int;".toList)])]

def sumTable : Table :=
  ((init_config none (fun _ => some sumRoot) .initial).map Prod.snd).getD .initial

theorem sumTable_loaded : Loaded sumRoot sumTable := by
  refine ⟨none, fun _ => some sumRoot, rfl, ?_, ?_, rfl⟩
  · refine .group _ (by decide) ?_
    intro s hs
    rw [List.mem_singleton.mp hs]
    refine .group _ (by decide) ?_
    intro m hm
    rw [List.mem_singleton.mp hm]
    exact .string _
  · intro s hs members h
    rw [List.mem_singleton.mp hs] at h
    cases h
    decide

def oneNumber : List (ConnectReply × ExecReply) :=
  [(.CONNECTION_OK, .PGRES_TUPLES_OK ⟨["?column?".toList], [[some "245".toList]], by decide⟩)]

def queryRequest (params : List CStr) : AGENT_REQUEST :=
  ⟨"pg.query.integer".toList, [] :: [] :: params⟩

theorem oneNumber_reached (params : List CStr) :
    ¬ Refused scripted oneNumber (queryRequest params) := fun h => h rfl

theorem queryKey_listed : ⟨"pg.query.integer".toList, .PG_QUERY⟩ ∈ keys :=
  List.mem_of_getElem? (i := 11) rfl

theorem query_binds_by_position_sum :
    (∃ params, commands (lastState (call (S := scripted) { defaults with queries := sumTable }
          (queryRequest ["sum".toList, "45".toList, "200".toList]) .PG_QUERY
          (World.start oneNumber))).trace =
        [((configured sumRoot "sum".toList).getD "sum".toList, params)] ∧
      BoundByPosition (queryRequest ["sum".toList, "45".toList, "200".toList]) params) ↔
    ∀ p ∈ ["45".toList, "200".toList], p ≠ [] := by
  have reached := oneNumber_reached ["sum".toList, "45".toList, "200".toList]
  exact query_binds_by_position_iff (g := { defaults with queries := sumTable }) sumTable_loaded
    queryKey_listed rfl rfl rfl (by decide) reached

theorem initial_loaded : Loaded [] Table.initial :=
  ⟨none, fun _ => some [], rfl, .group [] List.nodup_nil (by simp), by simp, rfl⟩

/-- With an empty first parameter, `$1` is the second. -/
theorem query_shifts_parameters :
    ¬ Refused scripted oneNumber
        (queryRequest ["SELECT $1::text || $2::text".toList, [], "b".toList]) ∧
      ¬ ∃ params, commands (lastState (call (S := scripted) defaults
            (queryRequest ["SELECT $1::text || $2::text".toList, [], "b".toList]) .PG_QUERY
            (World.start oneNumber))).trace =
          [("SELECT $1::text || $2::text".toList, params)] ∧
        BoundByPosition (queryRequest ["SELECT $1::text || $2::text".toList, [], "b".toList])
          params := by
  refine ⟨oneNumber_reached _, ?_⟩
  rintro ⟨params, sent, count, -⟩
  have reached := oneNumber_reached ["SELECT $1::text || $2::text".toList, [], "b".toList]
  have shifted := query_sent (g := defaults) initial_loaded queryKey_listed rfl rfl rfl
    (by decide) reached
  rw [sent] at shifted
  simp only [List.cons.injEq, Prod.mk.injEq, and_true] at shifted
  rw [shifted.2] at count
  exact absurd count (by decide)

end LibZbxPgsql.QueryBinding
