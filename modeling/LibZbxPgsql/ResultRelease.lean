import LibZbxPgsql.Conclusions

set_option autoImplicit false

namespace LibZbxPgsql.ResultRelease
open StateFaultWp HandleLedger CStrings PrintfFormat AgentModel Connections Drivers Discovery
open DatabaseKeys TableKeys ItemKeys Dialogues WorldView Sessions DialogueRefinement
open DriverDialogues HandlerPlans KeyPlans HandleDiscipline Conclusions

section Conditions
variable (S : Server) (request : AGENT_REQUEST) (query : CStr)

def SearchFails (connstring : Option CStr) : S.State → List CStr → Prop
  | _, [] => False
  | s, db :: dbs =>
    match session S s (.query (build_connstring connstring (some db)) query []) with
    | (.answered _, s') => SearchFails connstring s' dbs
    | _ => True

/-- The databases are listed, and the search of one of them fails. -/
def DeepSearchFails (s : S.State) : Prop :=
  match session S s (.query (requestConnstring request) PGSQL_CONNECTABLE_DATABASES []) with
  | (.answered tuples, s') => ∃ names, firstColumn tuples = some names ∧
      SearchFails S query (get_rparam request PARAM_CONN_STRING) s' (visited names)
  | _ => False

def Deep : Prop :=
  strisnull (get_rparam request PARAM_FIRST) ∨ get_rparam request PARAM_FIRST = some "deep".toList

/-- The handlers that return with a JSON buffer not released. -/
def LeavesBuffers (s : S.State) : Handler → Prop
  | .PG_NAMESPACE_DISCOVERY =>
    Deep request ∧ DeepSearchFails S request PGSQL_DISCOVER_NAMESPACES s
  | .PG_TABLE_DISCOVERY => Deep request ∧ DeepSearchFails S request PGSQL_DISCOVER_TABLES s
  | .PG_INDEX_DISCOVERY => Deep request ∧ ∃ query, indexDiscoveryQuery request = some query ∧
      DeepSearchFails S request query s
  | _ => False

end Conditions

/-- The outcome leaves a result or a buffer live exactly where `C` holds. -/
def LeavesIff (C : Prop) (o : Outcome) : Prop :=
  (.result ∉ o.leaked ∧ .json ∉ o.leaked) ↔ ¬ C

section Outcomes
variable {S : Server} {s : S.State} {request : AGENT_REQUEST}

theorem leavesIff_true {o : Outcome} (h : .json ∈ o.leaked) : LeavesIff True o := by
  simp [LeavesIff, h]

theorem leavesIff_false {o : Outcome} (h : .result ∉ o.leaked ∧ .json ∉ o.leaked) :
    LeavesIff False o := by
  simp [LeavesIff, h]

theorem clean_leaves {d : Asks Outcome} (h : AllOutcomes (fun o => o.leaked = []) d) :
    Concludes S (LeavesIff False) d s := by
  intro o result
  have clean := concludes_all h o result
  exact leavesIff_false (by simp [clean])

theorem steps_leave (steps : Steps) (params : List CStr) :
    Concludes S (LeavesIff False) (steps.dialogue request params) s := by
  intro o result
  have only := concludes_all (steps_onlyParams request steps params) o result
  refine leavesIff_false ⟨fun h => ?_, fun h => ?_⟩ <;> cases only _ h

theorem wideAsk_leaves (connstring : Option CStr) (query : CStr) (dbs : List CStr)
    (data : List Json) (s : S.State) :
    Concludes S (LeavesIff (SearchFails S query connstring s dbs))
      (wideAsk connstring query dbs data) s := by
  induction dbs generalizing data s with
  | nil => exact concludes_done (leavesIff_false ⟨List.not_mem_nil, List.not_mem_nil⟩)
  | cons db dbs ih =>
    refine concludes_ask Prod.mk.eta.symm ?_
    rw [SearchFails]
    generalize session S s (.query (build_connstring connstring (some db)) query []) = x
    obtain ⟨reply, s'⟩ := x
    cases reply with
    | refused m => exact concludes_done (leavesIff_true (by simp))
    | noResult => exact concludes_done (leavesIff_true (by simp))
    | failed m => exact concludes_done (leavesIff_true (by simp))
    | answered tuples => exact ih _ s'

theorem discoveryWide_leaves (query : CStr) :
    Concludes S (LeavesIff (DeepSearchFails S request query s))
      (discoveryWideAsk request query) s := by
  have clean : ∀ m, LeavesIff False ⟨.error m, []⟩ := fun m =>
    leavesIff_false ⟨List.not_mem_nil, List.not_mem_nil⟩
  refine concludes_ask Prod.mk.eta.symm ?_
  rw [DeepSearchFails]
  generalize session S s (.query (requestConnstring request) PGSQL_CONNECTABLE_DATABASES []) = x
  obtain ⟨reply, s'⟩ := x
  cases reply with
  | refused m => exact concludes_done (clean _)
  | noResult => exact concludes_done (clean _)
  | failed m => exact concludes_done (clean _)
  | answered tuples =>
    simp only [databasesEnd]
    by_cases hrows : tuples.rows = []
    · have none_listed : firstColumn tuples = some [] := by rw [firstColumn, hrows]; rfl
      rw [if_pos hrows]
      simp only [none_listed]
      refine concludes_done ?_
      simp [LeavesIff, visited, multiString, walkStrings, SearchFails]
    · rw [if_neg hrows]
      cases hf : firstColumn tuples with
      | none => exact concludes_fault _
      | some names =>
        simp only [Option.some.injEq, exists_eq_left']
        exact wideAsk_leaves _ query (visited names) [] s'

theorem mode_leaves (query : CStr) :
    Concludes S (LeavesIff (Deep request ∧ DeepSearchFails S request query s))
      ((modePlan request query).dialogue request) s := by
  unfold modePlan
  dsimp only
  split
  · rename_i deep
    have same : (Deep request ∧ DeepSearchFails S request query s) =
        DeepSearchFails S request query s := propext (and_iff_right deep)
    rw [same]
    exact discoveryWide_leaves query
  · rename_i shallow
    have never : (Deep request ∧ DeepSearchFails S request query s) = False := by
      simp [show ¬ Deep request from shallow]
    rw [never]
    split <;> exact steps_leave _ []

theorem indexDiscovery_leaves (g : Globals) :
    Concludes S (LeavesIff (LeavesBuffers S request s .PG_INDEX_DISCOVERY))
      ((plan g request .PG_INDEX_DISCOVERY).dialogue request) s := by
  simp only [plan, indexDiscoveryPlan, LeavesBuffers]
  cases indexDiscoveryQuery request with
  | none => exact concludes_fault _
  | some query =>
    simp only [Option.some.injEq, exists_eq_left']
    exact mode_leaves query

end Outcomes

section Handlers
variable {S : Server} {g : Globals} {request : AGENT_REQUEST} {f : Handler} {server : S.State}
  {ret : Ret} {w : World S}

theorem plan_leaves :
    Concludes S (LeavesIff (LeavesBuffers S request server f))
      ((plan g request f).dialogue request) server := by
  cases f with
  | PG_NAMESPACE_DISCOVERY | PG_TABLE_DISCOVERY => exact mode_leaves _
  | PG_INDEX_DISCOVERY => exact indexDiscovery_leaves g
  | MODVER => exact clean_leaves (allOutcomes_done rfl)
  | PG_CONNECT => exact clean_leaves (pingAsk_clean request)
  | PG_STAT_ALL_INDEXES => exact clean_leaves (indexStatAsk_clean request _ _)
  | PG_SETTING =>
    simp only [plan, settingPlan]
    split
    · exact steps_leave _ []
    · exact clean_leaves (settingAsk_clean request _)
  | PG_STAT_BGWRITER =>
    simp only [plan, bgwriterPlan]
    split
    · exact steps_leave _ []
    · split <;> exact steps_leave _ []
  | PG_BG_TIME_RATIO =>
    simp only [plan, timeRatioPlan]
    split <;> exact steps_leave _ []
  | PG_STAT_DATABASE =>
    simp only [plan, statDatabasePlan]
    split
    · split <;> exact steps_leave _ []
    · split <;> exact steps_leave _ []
  | PG_STAT_ALL_TABLES =>
    simp only [plan, statAllTablesPlan]
    split
    · split <;> exact steps_leave _ []
    · exact steps_leave _ []
  | _ => exact steps_leave _ []

/-- Every result is cleared and every buffer freed exactly once, except where a deep
    discovery fails on one of the databases it listed. -/
theorem results_released_iff
    (run : call g request f (World.start server) = .ok ret w) :
    (ReleasedOnce Handle.isResult (acts w.trace) ∧ ReleasedOnce Handle.isJson (acts w.trace)) ↔
      ¬ LeavesBuffers S request server f := by
  obtain ⟨o, v, result, shows, -, -, kinds⟩ := call_returned run
  rw [isResult_ofKind, isJson_ofKind, releasedOnce_ofKind .result shows kinds,
    releasedOnce_ofKind .json shows kinds]
  exact plan_leaves o result

end Handlers

def queryFails : List (ConnectReply × ExecReply) :=
  let listing : Tuples := ⟨["datname".toList], [[some "a".toList]], by decide⟩
  [(.CONNECTION_OK, .PGRES_TUPLES_OK listing),
   (.CONNECTION_OK, .notTuples "permission denied".toList)]

theorem results_released_iff_queryFails :
    (ReleasedOnce Handle.isResult (acts (deepEnd queryFails).trace) ∧
        ReleasedOnce Handle.isJson (acts (deepEnd queryFails).trace)) ↔
      ¬ LeavesBuffers scripted ⟨"pg.namespace.discovery".toList, []⟩ queryFails
        .PG_NAMESPACE_DISCOVERY := by
  have run : call (S := scripted) defaults ⟨"pg.namespace.discovery".toList, []⟩
      .PG_NAMESPACE_DISCOVERY (World.start queryFails) =
        .ok .SYSINFO_RET_FAIL (deepEnd queryFails) := rfl
  exact results_released_iff run

/-- Neither the result of the query that failed nor the buffer is released. -/
theorem result_kept_when_query_fails :
    ¬ (ReleasedOnce Handle.isResult (acts (deepEnd queryFails).trace) ∧
      ReleasedOnce Handle.isJson (acts (deepEnd queryFails).trace)) := by
  rintro ⟨once, -⟩
  have received : Act.acquire (.result 4) ∈ acts (deepEnd queryFails).trace := by decide
  have released := once (.result 4) rfl received
  revert released
  decide

end LibZbxPgsql.ResultRelease
