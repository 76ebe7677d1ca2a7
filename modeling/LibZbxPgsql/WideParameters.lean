import LibZbxPgsql.DeepDiscovery

set_option autoImplicit false

namespace LibZbxPgsql.WideParameters
open StateFaultWp HandleLedger CStrings AgentModel Connections Drivers Discovery JsonBuilder
open WorldView Sessions DriverDialogues DeepDiscovery

def paramActs (trace : List Event) : List (Act Handle) :=
  (acts trace).filter fun a => a.target.isParams

theorem paramActs_append (t u : List Event) : paramActs (t ++ u) = paramActs t ++ paramActs u := by
  rw [paramActs, acts, List.flatMap_append, List.filter_append]
  rfl

theorem commands_append (t u : List Event) : commands (t ++ u) = commands t ++ commands u :=
  List.flatMap_append

/-- What one execution does with its array: its length is taken, it is sent, and freed. -/
def execution (params : PGparams) : List (Act Handle) :=
  match params with
  | none => []
  | some array => [.use (.params array.id), .use (.params array.id), .release (.params array.id)]

section Seen
variable {S : Server}

/-- Since the trace was `t₀`, these were the acts on arrays and the commands sent. -/
def Seen (t₀ : List Event) (w : World S) (s : S.State) (ps : List (Act Handle))
    (sent : List (CStr × List CStr)) : Prop :=
  w.server = s ∧ ∃ t, w.trace = t₀ ++ t ∧ paramActs t = ps ∧ commands t = sent

variable {t₀ : List Event} {w w' : World S} {s : S.State} {ps : List (Act Handle)}
  {sent : List (CStr × List CStr)}

theorem seen_start (w : World S) : Seen w.trace w w.server [] [] :=
  ⟨rfl, [], (List.append_nil _).symm, rfl, rfl⟩

theorem seen_event (h : Seen t₀ w s ps sent) (e : Event) (server : w'.server = w.server)
    (trace : w'.trace = w.trace ++ [e]) :
    Seen t₀ w' s (ps ++ paramActs [e]) (sent ++ e.command) := by
  obtain ⟨rfl, t, ht, rfl, rfl⟩ := h
  refine ⟨server, t ++ [e], by rw [trace, ht, List.append_assoc], paramActs_append _ _, ?_⟩
  rw [commands_append]
  simp [commands]

theorem seen_quiet (h : Seen t₀ w s ps sent) {e : Event} (server : w'.server = w.server)
    (trace : w'.trace = w.trace ++ [e]) (quiet : paramActs [e] = []) (silent : e.command = []) :
    Seen t₀ w' s ps sent := by
  have seen := seen_event h e server trace
  rwa [quiet, silent, List.append_nil, List.append_nil] at seen

theorem emit_acts (h : Seen t₀ w s ps sent) {e : Event} (silent : e.command = []) :
    wp (emit e) (fun _ w' => Seen t₀ w' s (ps ++ paramActs [e]) sent) (fun _ _ => False) w := by
  have seen : Seen t₀ { w with trace := w.trace ++ [e] } s _ _ := seen_event h e rfl rfl
  rwa [silent, List.append_nil] at seen

theorem emit_seen (h : Seen t₀ w s ps sent) {e : Event} (quiet : paramActs [e] = [])
    (silent : e.command = []) :
    wp (emit e) (fun _ w' => Seen t₀ w' s ps sent) (fun _ _ => False) w :=
  seen_quiet h rfl rfl quiet silent

theorem acquire_seen (h : Seen t₀ w s ps sent) {e : ℕ → Event}
    (quiet : ∀ id, paramActs [e id] = []) (silent : ∀ id, (e id).command = []) :
    wp (acquire e) (fun _ w' => Seen t₀ w' s ps sent) (fun _ _ => False) w :=
  seen_quiet h rfl rfl (quiet w.fresh) (silent w.fresh)

def Stands (connstring : CStr) : ConnectReply → Option PGconn → Prop
  | .outOfMemory, conn => conn = none
  | .CONNECTION_BAD message, conn =>
    ∃ id, conn = some ⟨id, connstring, .CONNECTION_BAD, message⟩
  | .CONNECTION_OK, conn => ∃ id, conn = some ⟨id, connstring, .CONNECTION_OK, []⟩

theorem connectdb_seen (h : Seen t₀ w s ps sent) (connstring : CStr) :
    wp (PQconnectdb connstring) (fun conn w' =>
        Seen t₀ w' (S.connect s connstring).2 ps sent ∧
        Stands connstring (S.connect s connstring).1 conn) (fun _ _ => False) w := by
  have attempt : wp (connectServer connstring) (fun reply w' =>
      reply = (S.connect s connstring).1 ∧ Seen t₀ w' (S.connect s connstring).2 ps sent)
      (fun _ _ => False) w := by
    obtain ⟨rfl, rest⟩ := h
    exact ⟨rfl, rfl, rest⟩
  refine wp_seq attempt ?_
  rintro reply w₁ ⟨rfl, h₁⟩
  cases (S.connect s connstring).1 with
  | outOfMemory => exact wp_seq (emit_seen h₁ rfl rfl) fun _ _ h₂ => ⟨h₂, rfl⟩
  | CONNECTION_BAD message =>
    exact wp_seq (acquire_seen h₁ (fun _ => rfl) fun _ => rfl) fun id _ h₂ => ⟨h₂, id, rfl⟩
  | CONNECTION_OK =>
    exact wp_seq (acquire_seen h₁ (fun _ => rfl) fun _ => rfl) fun id _ h₂ => ⟨h₂, id, rfl⟩

theorem finish_seen (h : Seen t₀ w s ps sent) (conn : PGconn) :
    wp (PQfinish (some conn)) (fun _ w' => Seen t₀ w' (S.finish s) ps sent)
      (fun _ _ => False) w := by
  refine wp_seq (emit_seen h rfl rfl) ?_
  rintro _ w₁ ⟨rfl, rest⟩
  exact ⟨rfl, rest⟩

theorem clear_seen (h : Seen t₀ w s ps sent) (res : Option PGresult) :
    wp (PQclear res) (fun _ w' => Seen t₀ w' s ps sent) (fun _ _ => False) w := by
  cases res with
  | none => exact h
  | some res => exact emit_seen h rfl rfl

theorem error_seen (h : Seen t₀ w s ps sent) (r : ResultArg) (format : CStr)
    (args : List PrintfFormat.Arg) :
    wp (set_err_result r format args) (fun _ w' => Seen t₀ w' s ps sent)
      (fun _ _ => False) w := by
  refine wp_seq (emit_seen h rfl rfl) ?_
  intro _ w₁ h₁
  cases r with
  | NULL => exact h₁
  | given => exact h₁

theorem status_seen (h : Seen t₀ w s ps sent) (conn : PGconn) :
    wp (PQstatus (some conn)) (fun status w' => status = conn.status ∧ Seen t₀ w' s ps sent)
      (fun _ _ => False) w :=
  wp_seq (emit_seen h rfl rfl) fun _ _ h' => ⟨rfl, h'⟩

def Opened (connstring : CStr) (refused : Option CStr) (conn : Option PGconn) : Prop :=
  match refused with
  | some _ => conn = none
  | none => ∃ c, conn = some c ∧ c.connstring = connstring

theorem connect_seen (h : Seen t₀ w s ps sent) (connstring : CStr) (r : ResultArg) :
    wp (pg_connect connstring r) (fun conn w' =>
        Seen t₀ w' (refusal S s connstring).2 ps sent ∧
        Opened connstring (refusal S s connstring).1 conn)
      (fun _ _ => False) w := by
  refine wp_seq (connectdb_seen h connstring) ?_
  intro conn w₁ stands
  rw [refusal]
  revert stands
  generalize S.connect s connstring = x
  obtain ⟨reply, s₁⟩ := x
  cases reply with
  | outOfMemory =>
    rintro ⟨h₁, rfl⟩
    rw [wp_bind, PQstatus, wp_pure, if_pos (by decide), wp_bind, PQerrorMessage, wp_pure]
    exact wp_seq (error_seen h₁ r _ _) fun _ _ h₂ => ⟨h₂, rfl⟩
  | CONNECTION_BAD message =>
    rintro ⟨h₁, id, rfl⟩
    refine wp_seq (status_seen h₁ _) ?_
    rintro _ w₂ ⟨rfl, h₂⟩
    rw [if_pos (by simp)]
    have asked : wp (PQerrorMessage (some ⟨id, connstring, .CONNECTION_BAD, message⟩))
        (fun _ w' => Seen t₀ w' s₁ ps sent) (fun _ _ => False) w₂ :=
      wp_seq (emit_seen h₂ rfl rfl) fun _ _ h₃ => h₃
    refine wp_seq asked ?_
    intro _ w₃ h₃
    refine wp_seq (error_seen h₃ r _ _) ?_
    intro _ w₄ h₄
    exact wp_seq (finish_seen h₄ _) fun _ _ h₅ => ⟨h₅, rfl⟩
  | CONNECTION_OK =>
    rintro ⟨h₁, id, rfl⟩
    refine wp_seq (status_seen h₁ _) ?_
    rintro _ w₂ ⟨rfl, h₂⟩
    rw [if_neg (by simp)]
    exact ⟨h₂, _, rfl, rfl⟩

/-- What an execution does first: the length of its array is taken. -/
theorem len_seen (h : Seen t₀ w s ps sent) (params : PGparams) :
    wp (param_len params) (fun _ w' => Seen t₀ w' s (ps ++ (paramsHandle params).map .use) sent)
      (fun _ _ => False) w := by
  cases params with
  | none => simpa [param_len, paramsHandle] using h
  | some array =>
    have read : wp (emit (.param_read array.id)) (fun _ w' =>
        Seen t₀ w' s (ps ++ [.use (.params array.id)]) sent) (fun _ _ => False) w :=
      emit_acts h rfl
    exact wp_seq read fun _ _ h' => h'

theorem free_seen (h : Seen t₀ w s ps sent) (params : PGparams) :
    wp (param_free params)
      (fun _ w' => Seen t₀ w' s (ps ++ (paramsHandle params).map .release) sent)
      (fun _ _ => False) w := by
  cases params with
  | none => simpa [param_free, paramsHandle] using h
  | some array => exact emit_acts h rfl

theorem sent_seen (h : Seen t₀ w s ps sent) (conn : PGconn) (command : CStr)
    (params : PGparams) :
    wp (PQexecParams conn command params) (fun res w' =>
        Seen t₀ w' (S.exec s conn.connstring command (cells params)).2
          (ps ++ (paramsHandle params).map .use) (sent ++ [(command, cells params)]) ∧
        Received (replyOf (S.exec s conn.connstring command (cells params)).1) res)
      (fun _ _ => False) w := by
  have answer : wp (execServer conn command (cells params)) (fun reply w' =>
      reply = (S.exec s conn.connstring command (cells params)).1 ∧
      Seen t₀ w' (S.exec s conn.connstring command (cells params)).2 ps sent)
      (fun _ _ => False) w := by
    obtain ⟨rfl, rest⟩ := h
    exact ⟨rfl, rfl, rest⟩
  refine wp_seq answer ?_
  rintro reply w₁ ⟨rfl, h₁⟩
  have touched : ∀ id, paramActs [.PQexecParams conn.id command params id] =
      (paramsHandle params).map .use := by
    intro id
    cases id <;> cases params <;> rfl
  have recorded : ∀ (w₂ : World S) id, w₂.server = w₁.server →
      w₂.trace = w₁.trace ++ [.PQexecParams conn.id command params id] →
      Seen t₀ w₂ (S.exec s conn.connstring command (cells params)).2
        (ps ++ (paramsHandle params).map .use) (sent ++ [(command, cells params)]) := by
    intro w₂ id server trace
    have seen := seen_event h₁ (.PQexecParams conn.id command params id) server trace
    rwa [touched] at seen
  cases (S.exec s conn.connstring command (cells params)).1 with
  | outOfMemory => exact ⟨recorded _ none rfl rfl, rfl⟩
  | notTuples message => exact ⟨recorded _ (some w₁.fresh) rfl rfl, w₁.fresh, rfl⟩
  | PGRES_TUPLES_OK tuples => exact ⟨recorded _ (some w₁.fresh) rfl rfl, w₁.fresh, rfl⟩

/-- Every execution takes the length of its array, sends it, and frees it. -/
theorem exec_seen (h : Seen t₀ w s ps sent) (conn : PGconn) (command : CStr)
    (params : PGparams) :
    wp (pg_exec conn command params) (fun res w' =>
        Seen t₀ w' (S.exec s conn.connstring command (cells params)).2 (ps ++ execution params)
          (sent ++ [(command, cells params)]) ∧
        Received (replyOf (S.exec s conn.connstring command (cells params)).1) res)
      (fun _ _ => False) w := by
  refine wp_seq (len_seen h params) ?_
  intro _ w₁ h₁
  refine wp_seq (sent_seen h₁ conn command params) ?_
  rintro res w₂ ⟨h₂, received⟩
  refine wp_seq (free_seen h₂ params) ?_
  intro _ w₃ h₃
  have whole : ps ++ (paramsHandle params).map .use ++ (paramsHandle params).map .use ++
      (paramsHandle params).map .release = ps ++ execution params := by
    cases params <;> simp [paramsHandle, execution]
  rw [whole] at h₃
  exact ⟨h₃, received⟩

def executions (S : Server) (connstring : Option CStr) (query : CStr) (params : List CStr) :
    List CStr → S.State → ℕ
  | [], _ => 0
  | db :: dbs, s =>
    match session S s (.query (build_connstring connstring (some db)) query params) with
    | (.refused _, _) => 0
    | (.answered _, s') => executions S connstring query params dbs s' + 1
    | _ => 1

def repeated {α : Type} (n : ℕ) (l : List α) : List α := (List.replicate n l).flatten

theorem repeated_one {α : Type} (l : List α) : repeated 1 l = l := by simp [repeated]

theorem repeated_succ {α : Type} (n : ℕ) (l : List α) : repeated (n + 1) l = l ++ repeated n l := by
  rw [repeated, List.replicate_succ, List.flatten_cons]
  rfl

theorem wideLoop_seen (connstring : Option CStr) (query : CStr) (params : PGparams)
    (dbs : List CStr) (j : zbx_json) (h : Seen t₀ w s ps sent) :
    wp (wideLoop connstring query params dbs j) (fun _ w' => ∃ s', Seen t₀ w' s'
        (ps ++ repeated (executions S connstring query (cells params) dbs s) (execution params))
        (sent ++ repeated (executions S connstring query (cells params) dbs s)
          [(query, cells params)]))
      (fun _ _ => False) w := by
  induction dbs generalizing j w s ps sent with
  | nil =>
    refine ⟨s, ?_⟩
    simpa [executions, repeated] using h
  | cons db dbs ih =>
    refine wp_seq (connect_seen h _ _) ?_
    intro conn w₁ opened
    rw [executions]
    revert opened
    cases hr : refusal S s (build_connstring connstring (some db)) with
    | mk refused s₁ =>
      rintro ⟨h₁, opened⟩
      cases refused with
      | some message =>
        rw [DialogueRefinement.session_refused hr]
        cases opened
        refine ⟨s₁, ?_⟩
        simpa [repeated] using h₁
      | none =>
        rw [DialogueRefinement.session_opened hr]
        obtain ⟨c, rfl, hc⟩ := opened
        refine wp_seq (exec_seen h₁ c query params) ?_
        rintro res w₂ ⟨h₂, received⟩
        rw [hc] at h₂ received
        have failed : resultTuples res = none →
            wp (do
              let _ ← set_err_result .given "PostgreSQL query error: %s".toList
                [.string (PQresultErrorMessage res)]
              return .error (some c) : Agent S (Except (Option PGconn) zbx_json))
              (fun _ w' => ∃ s', Seen t₀ w' s' (ps ++ repeated 1 (execution params))
                (sent ++ repeated 1 [(query, cells params)])) (fun _ _ => False) w₂ := by
          intro _
          refine wp_seq (error_seen h₂ _ _ _) ?_
          intro _ w₃ h₃
          rw [repeated_one, repeated_one]
          exact ⟨_, h₃⟩
        dsimp only
        revert received
        cases hx : (S.exec s₁ (build_connstring connstring (some db)) query (cells params)).1 with
        | outOfMemory =>
          rintro rfl
          exact failed rfl
        | notTuples message =>
          rintro ⟨id, rfl⟩
          exact failed rfl
        | PGRES_TUPLES_OK tuples =>
          rintro ⟨id, rfl⟩
          refine wp_seq (clear_seen h₂ _) ?_
          intro _ w₃ h₃
          refine wp_seq (finish_seen h₃ c) ?_
          intro _ w₄ h₄
          have rest := ih (addRows j tuples) h₄
          simpa only [replyOf, repeated_succ, List.append_assoc] using rest

/-- What stands behind a session that was answered. -/
theorem session_answered {connstring command : CStr} {params : List CStr} {tuples : Tuples}
    {s₁ : S.State}
    (h : session S s (.query connstring command params) = (.answered tuples, s₁)) :
    ∃ s₀, refusal S s connstring = (none, s₀) ∧
      (S.exec s₀ connstring command params).1 = .PGRES_TUPLES_OK tuples ∧
      s₁ = S.finish (S.exec s₀ connstring command params).2 := by
  cases hr : refusal S s connstring with
  | mk refused s₀ =>
    cases refused with
    | some message =>
      rw [DialogueRefinement.session_refused hr] at h
      cases h
    | none =>
      rw [DialogueRefinement.session_opened hr] at h
      refine ⟨s₀, rfl, ?_, (Prod.ext_iff.mp h).2.symm⟩
      have reply := (Prod.ext_iff.mp h).1
      revert reply
      cases (S.exec s₀ connstring command params).1 with
      | outOfMemory | notTuples _ =>
        intro reply
        cases reply
      | PGRES_TUPLES_OK tuples' =>
        intro reply
        cases reply
        rfl

variable {request : AGENT_REQUEST} {tuples : Tuples} {s₁ : S.State} {db : CStr}
  {dbs : List CStr}

structure Lists (request : AGENT_REQUEST) (s : S.State) (db : CStr) (dbs : List CStr)
    (s₁ : S.State) : Prop where
  listed : ∃ tuples, session S s
      (.query (requestConnstring request) PGSQL_CONNECTABLE_DATABASES []) =
        (.answered tuples, s₁) ∧ firstColumn tuples = some (db :: dbs)
  named : ∀ name ∈ db :: dbs, IsName name

theorem databases_seen (h : Seen t₀ w s ps sent) (lists : Lists request s db dbs s₁) :
    wp (pg_get_databases request) (fun out w' => out = some (multiString (db :: dbs)) ∧
        Seen t₀ w' s₁ ps (sent ++ [(PGSQL_CONNECTABLE_DATABASES, [])]))
      (fun _ _ => False) w := by
  obtain ⟨tuples, answered, names⟩ := lists.listed
  obtain ⟨s₀, accepted, reply, rfl⟩ := session_answered answered
  refine wp_seq (connect_seen h (requestConnstring request) .given) ?_
  rintro conn w₁ ⟨h₁, opened⟩
  rw [accepted] at h₁ opened
  obtain ⟨c, rfl, hc⟩ := opened
  refine wp_seq (exec_seen h₁ c PGSQL_CONNECTABLE_DATABASES none) ?_
  rintro res w₂ ⟨h₂, received⟩
  rw [hc] at h₂ received
  have cells : cells none = [] := rfl
  rw [cells, reply] at received
  obtain ⟨id, rfl⟩ := received
  have rows : 0 ≠ tuples.rows.length := by
    intro none_listed
    rw [firstColumn, List.eq_nil_of_length_eq_zero none_listed.symm] at names
    cases names
  have read := readNames_run id tuples [] tuples.rows.length w₂ (Nat.le_refl _)
  rw [List.take_length, ← firstColumn, names] at read
  rw [PQntuples_tuples, if_neg rows]
  have reading : wp (readNames (some ⟨id, some tuples, []⟩) tuples.rows.length)
      (fun found w' => found = db :: dbs ∧ w' = w₂) (fun _ _ => False) w₂ := by
    unfold wp
    rw [read]
    exact ⟨rfl, rfl⟩
  refine wp_seq reading ?_
  rintro _ _ ⟨rfl, rfl⟩
  refine wp_seq (wp_seq (clear_seen h₂ _) fun _ _ h₃ => finish_seen h₃ c) ?_
  intro _ w₄ h₄
  rw [execution, List.append_nil] at h₄
  exact ⟨rfl, h₄⟩

/-- How often the query is executed, where the databases are these. -/
def executed (request : AGENT_REQUEST) (query : CStr) (params : PGparams) (db : CStr)
    (dbs : List CStr) (s₁ : S.State) : ℕ :=
  executions S (get_rparam request PARAM_CONN_STRING) query (cells params) (db :: dbs) s₁

theorem wide_seen (h : Seen t₀ w s ps sent) (lists : Lists request s db dbs s₁) (query : CStr)
    (params : PGparams) :
    wp (pg_get_discovery_wide request query params) (fun _ w' => ∃ s', Seen t₀ w' s'
        (ps ++ repeated (executed request query params db dbs s₁) (execution params))
        (sent ++ [(PGSQL_CONNECTABLE_DATABASES, [])] ++
          repeated (executed request query params db dbs s₁) [(query, cells params)]))
      (fun _ _ => False) w := by
  refine wp_seq (databases_seen h lists) ?_
  rintro out w₁ ⟨rfl, h₁⟩
  dsimp only
  have created : wp zbx_json_init (fun _ w' =>
      Seen t₀ w' s₁ ps (sent ++ [(PGSQL_CONNECTABLE_DATABASES, [])])) (fun _ _ => False) w₁ :=
    wp_seq (acquire_seen h₁ (fun _ => rfl) fun _ => rfl) fun _ _ h₂ => h₂
  refine wp_seq created ?_
  intro j w₂ h₂
  have walk : walkStrings (multiString (db :: dbs)).length (multiString (db :: dbs)) = db :: dbs :=
    visited_names lists.named
  rw [walk]
  refine wp_seq (wideLoop_seen _ query params (db :: dbs) _ h₂) ?_
  rintro done w₃ ⟨s', h₃⟩
  cases done with
  | error conn =>
    cases conn with
    | none => exact ⟨s', h₃⟩
    | some conn => exact wp_seq (finish_seen h₃ conn) fun _ _ h₄ => ⟨_, h₄⟩
  | ok j =>
    have stored : wp (SET_STR_RESULT (.json (buffer (zbx_json_close j)))) (fun _ w' =>
        Seen t₀ w' s' _ _) (fun _ _ => False) w₃ := h₃
    refine wp_seq stored ?_
    intro _ w₄ h₄
    exact wp_seq (emit_seen h₄ rfl rfl) fun _ _ h₅ => ⟨s', h₅⟩

end Seen

section Counted
variable {S : Server}

theorem release_count (array : ParamArray) (n : ℕ) :
    (repeated n (execution (some array))).count (.release (.params array.id)) = n := by
  induction n with
  | zero => rfl
  | succ n ih =>
    rw [repeated_succ, List.count_append, ih]
    simp [execution]
    omega

theorem count_paramActs (array : ParamArray) (t : List Event) :
    (paramActs t).count (.release (.params array.id)) =
      (acts t).count (.release (.params array.id)) :=
  List.count_filter rfl

/-- The release is the last act of an execution. -/
theorem execution_last {params : PGparams} {i : Handle} {before after : List (Act Handle)}
    (h : execution params = before ++ .release i :: after) : after = [] := by
  cases params with
  | none => simp [execution] at h
  | some array => match before with
    | [] => simp [execution] at h
    | [_] => simp [execution] at h
    | [_, _] => simpa [execution, eq_comm] using (congrArg (List.drop 3) h).symm
    | _ :: _ :: _ :: before =>
      have length := congrArg List.length h
      simp only [execution, List.length_append, List.length_cons, List.length_nil] at length
      omega

/-- An array that is executed with once is not touched after its release. -/
theorem untouched_once {params : PGparams} {t : List Event}
    (h : paramActs t = execution params) : UntouchedAfterRelease Handle.isParams (acts t) := by
  intro i before after hi split a ha same
  have released : Handle.isParams (Act.target (.release i)) = true := hi
  have kept : execution params = (before.filter fun a => a.target.isParams) ++
      .release i :: (after.filter fun a => a.target.isParams) := by
    rw [← h, paramActs, split, List.filter_append, List.filter_cons, if_pos released]
  have later : a ∈ after.filter fun a => a.target.isParams := by
    rw [List.mem_filter, same]
    exact ⟨ha, hi⟩
  rw [execution_last kept] at later
  cases later

end Counted

section Main
variable {S : Server}

/-- The events of a run that executes the query on the databases listed: each execution
    sends the values of the array, and the array is released once, and then left alone. -/
def RunsParameterised (query : CStr) (params : PGparams) (t : List Event) : Prop :=
  (∃ executed, commands t = (PGSQL_CONNECTABLE_DATABASES, []) :: executed ∧
    ∀ sent ∈ executed, sent = (query, cells params)) ∧
  ∀ array, params = some array →
    (acts t).count (.release (.params array.id)) = 1 ∧
      UntouchedAfterRelease Handle.isParams (acts t)

def WideRunsParameterised (request : AGENT_REQUEST) (query : CStr) (params : PGparams)
    (w : World S) : Prop :=
  ∃ ret w' t, pg_get_discovery_wide request query params w = .ok ret w' ∧
    w'.trace = w.trace ++ t ∧ RunsParameterised query params t

/-- The first database accepts the connection, and where it answers the query with tuples
    there is no second one, or that refuses it. -/
def OneAccepts (S : Server) (connstring : Option CStr) (query : CStr) (params : List CStr)
    (s : S.State) (db : CStr) (dbs : List CStr) : Prop :=
  (refusal S s (build_connstring connstring (some db))).1 = none ∧
  ∀ tuples s' next rest,
    session S s (.query (build_connstring connstring (some db)) query params) =
      (.answered tuples, s') →
    dbs = next :: rest → (refusal S s' (build_connstring connstring (some next))).1 ≠ none

section Executions
variable {connstring : Option CStr} {query : CStr} {params : List CStr} {s : S.State}
  {db : CStr} {dbs : List CStr}

theorem executions_zero_iff :
    executions S connstring query params (db :: dbs) s = 0 ↔
      (refusal S s (build_connstring connstring (some db))).1 ≠ none := by
  rw [executions]
  cases hr : refusal S s (build_connstring connstring (some db)) with
  | mk refused s' =>
    cases refused with
    | some message => simp [DialogueRefinement.session_refused hr]
    | none =>
      rw [DialogueRefinement.session_opened hr]
      cases (S.exec s' (build_connstring connstring (some db)) query params).1 <;> simp [replyOf]

theorem executions_one_iff :
    executions S connstring query params (db :: dbs) s = 1 ↔
      OneAccepts S connstring query params s db dbs := by
  unfold OneAccepts
  rw [executions]
  cases hs : session S s (.query (build_connstring connstring (some db)) query params) with
  | mk reply s' =>
    have refused : (refusal S s (build_connstring connstring (some db))).1 = none ↔
        ∀ message, reply ≠ .refused message := by
      cases hr : refusal S s (build_connstring connstring (some db)) with
      | mk refused s₀ =>
        cases refused with
        | some message =>
          rw [DialogueRefinement.session_refused hr] at hs
          cases hs
          simp
        | none =>
          rw [DialogueRefinement.session_opened hr] at hs
          cases hs
          cases (S.exec s₀ (build_connstring connstring (some db)) query params).1 <;>
            simp [replyOf]
    rw [refused]
    cases reply with
    | refused message => simp
    | noResult | failed message => simp
    | answered tuples =>
      cases dbs with
      | nil => simp [executions]
      | cons next rest =>
        simp only [Nat.add_eq_right, executions_zero_iff]
        constructor
        · intro refuses
          refine ⟨fun _ => by simp, ?_⟩
          intro tuples' s'' next' rest' same split
          cases same
          cases split
          exact refuses
        · rintro ⟨-, second⟩
          exact second tuples s' next rest rfl rfl

end Executions

theorem wide_runs (w : World S) {request : AGENT_REQUEST} {db : CStr} {dbs : List CStr}
    {s₁ : S.State} (lists : Lists request w.server db dbs s₁) (query : CStr)
    (params : PGparams) :
    ∃ ret w' t, pg_get_discovery_wide request query params w = .ok ret w' ∧
      w'.trace = w.trace ++ t ∧
      paramActs t = repeated (executed request query params db dbs s₁) (execution params) ∧
      commands t = (PGSQL_CONNECTABLE_DATABASES, []) ::
        repeated (executed request query params db dbs s₁) [(query, cells params)] := by
  obtain ⟨ret, w', run, s', -, t, trace, touched, sent⟩ :=
    wp_returns (wide_seen (seen_start w) lists query params)
  exact ⟨ret, w', t, run, trace, touched, sent⟩

/-- The array is released as often as the query is executed. -/
theorem executed_once {w : World S} {request : AGENT_REQUEST} {db : CStr} {dbs : List CStr}
    {s₁ : S.State} (lists : Lists request w.server db dbs s₁) {query : CStr}
    {array : ParamArray} (h : WideRunsParameterised request query (some array) w) :
    executed request query (some array) db dbs s₁ = 1 := by
  obtain ⟨ret, w', t, run, trace, -, arrays⟩ := h
  obtain ⟨ret', w'', t', run', trace', touched, -⟩ := wide_runs w lists query (some array)
  rw [run] at run'
  cases run'
  rw [trace, List.append_cancel_left_eq] at trace'
  subst trace'
  have once := (arrays array rfl).1
  rwa [← count_paramActs, touched, release_count] at once

/-- The executions of a deep discovery share their array as they should exactly where there
    is no array, or only one execution. -/
theorem wide_runs_parameterised_iff (w : World S) {request : AGENT_REQUEST} {db : CStr}
    {dbs : List CStr} {s₁ : S.State} (lists : Lists request w.server db dbs s₁) (query : CStr)
    (params : PGparams) :
    WideRunsParameterised request query params w ↔
      params = none ∨ OneAccepts S (get_rparam request PARAM_CONN_STRING) query (cells params)
        s₁ db dbs := by
  constructor
  · intro shared
    cases params with
    | none => exact .inl rfl
    | some array => exact .inr (executions_one_iff.mp (executed_once lists shared))
  · intro fine
    obtain ⟨ret, w', t, run, trace, touched, sent⟩ := wide_runs w lists query params
    refine ⟨ret, w', t, run, trace, ⟨_, sent, ?_⟩, ?_⟩
    · intro x hx
      obtain ⟨l, hl, hx⟩ := List.mem_flatten.mp hx
      rw [List.eq_of_mem_replicate hl] at hx
      exact List.mem_singleton.mp hx
    · rintro array rfl
      have once : executed request query (some array) db dbs s₁ = 1 :=
        executions_one_iff.mpr (fine.resolve_left (by simp))
      rw [once, repeated_one] at touched
      refine ⟨?_, untouched_once touched⟩
      rw [← count_paramActs, touched]
      exact (repeated_one (execution (some array))) ▸ release_count array 1

def answering (names : List CStr) : scripted.State :=
  let answer := .PGRES_TUPLES_OK
    ⟨["datname".toList], names.map fun name => [some name], by simp⟩
  (List.replicate (names.length + 1) (.CONNECTION_OK, answer) : List (ConnectReply × ExecReply))

def afterAlloc (names : List CStr) : World scripted :=
  ⟨answering names, 1, .empty, [.param_alloc 0]⟩

def oneCell : PGparams := some ⟨0, ["public".toList]⟩

def deepRequest : AGENT_REQUEST := ⟨"pg.table.discovery".toList, []⟩

def schemaQuery : CStr :=
  "SELECT relname FROM pg_class WHERE relnamespace = $1::regnamespace".toList

theorem lists_one : Lists deepRequest (answering ["postgres".toList]) "postgres".toList []
    (answering ["postgres".toList]).tail where
  listed := ⟨_, rfl, rfl⟩
  named name hn := by
    cases List.mem_singleton.mp hn
    exact ⟨by decide, by decide⟩

theorem wide_runs_parameterised_iff_one :
    WideRunsParameterised deepRequest schemaQuery oneCell (afterAlloc ["postgres".toList]) ↔
      oneCell = none ∨ OneAccepts scripted (get_rparam deepRequest PARAM_CONN_STRING)
        schemaQuery (cells oneCell) (answering ["postgres".toList]).tail "postgres".toList [] :=
  wide_runs_parameterised_iff (afterAlloc ["postgres".toList]) lists_one schemaQuery oneCell

theorem lists_two : Lists deepRequest (answering ["postgres".toList, "orders".toList])
    "postgres".toList ["orders".toList]
    (answering ["postgres".toList, "orders".toList]).tail where
  listed := ⟨_, rfl, rfl⟩
  named name hn := by
    simp only [List.mem_cons, List.not_mem_nil, or_false] at hn
    rcases hn with rfl | rfl
    · exact ⟨by decide, by decide⟩
    · exact ⟨by decide, by decide⟩

/-- The array is freed on the first database, and read and freed again on the second. -/
theorem array_freed_twice : ¬ WideRunsParameterised deepRequest schemaQuery oneCell
    (afterAlloc ["postgres".toList, "orders".toList]) := by
  intro shared
  have once := executed_once lists_two shared
  have twice : executed deepRequest schemaQuery oneCell "postgres".toList ["orders".toList]
      (S := scripted) (answering ["postgres".toList, "orders".toList]).tail = 2 := rfl
  rw [oneCell] at twice
  rw [twice] at once
  cases once

end Main

end LibZbxPgsql.WideParameters
