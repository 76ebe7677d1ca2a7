import LibZbxPgsql.DialogueRefinement
import LibZbxPgsql.Discovery

set_option autoImplicit false

/-! What each driver asks of the server, what it reports in the end and which handles it
leaves live, as a dialogue: the drivers' code is shown to play it. -/
namespace LibZbxPgsql.DriverDialogues
open StateFaultWp CStrings PrintfFormat AgentModel Connections Drivers JsonBuilder Discovery
open Dialogues WorldView Sessions DialogueRefinement

@[simp] theorem PQresultStatus_tuples (id : ℕ) (tuples : Tuples) (m : CStr) :
    PQresultStatus (some ⟨id, some tuples, m⟩) = .PGRES_TUPLES_OK := rfl

@[simp] theorem PQntuples_tuples (id : ℕ) (tuples : Tuples) (m : CStr) :
    PQntuples (some ⟨id, some tuples, m⟩) = tuples.rows.length := rfl

@[simp] theorem PQgetvalue_tuples (id : ℕ) (tuples : Tuples) (m : CStr) (row column : ℕ) :
    PQgetvalue (some ⟨id, some tuples, m⟩) row column =
      (tuples.rows[row]?).bind fun fields => (fields[column]?).map fieldText := rfl

theorem deref_some {S : Server} (s : CStr) (w : World S) :
    wp (deref (some s)) (fun a w' => a = s ∧ w' = w) (fun _ _ => False) w := ⟨rfl, rfl⟩

def errorText : Reply → CStr
  | .failed message => message
  | _ => []

inductive ScalarEnd where
  | refused (message : Message)
  | failed (message : Message)
  | value (text : CStr)

/-- Where `pg_scalar` ends for each reply. -/
def scalarEnd (query : CStr) (bufferlen : ℕ) : Reply → Except Fault ScalarEnd
  | .refused message => .ok (.refused (vsnprintf MAX_STRING_LEN message []))
  | .answered tuples =>
    match tuples.rows with
    | [] => .ok (.failed (vsnprintf MAX_STRING_LEN "No results returned for query \"%s\"".toList
        [.string query]))
    | [] :: _ => .error .nullPointer
    | (value :: _) :: _ => .ok (.value (zbx_strlcpy (fieldText value) bufferlen))
  | reply => .ok (.failed (vsnprintf MAX_STRING_LEN
      "PostgreSQL error for query \"%s\": %s".toList
      [.string query, .string (errorText reply)]))

def scalarAsk (request : AGENT_REQUEST) (query : CStr) (params : List CStr) (bufferlen : ℕ) :
    Asks ScalarEnd :=
  .ask (.query (requestConnstring request) query params) fun reply =>
    .done (scalarEnd query bufferlen reply)

section Scalar
variable {S : Server} {w : World S} {v : View S} {L : List Handle}

/-- What `pg_scalar` returns and leaves behind: the array survives a refusal. -/
def ScalarDone (v : View S) (params : PGparams) (L : List Handle) :
    ScalarEnd → Ret × CStr → View S → Prop
  | .refused message, out, v' => out = (.SYSINFO_RET_FAIL, []) ∧
      v'.result = { v.result with msg := some message } ∧ v'.live = paramsHandle params ++ L
  | .failed message, out, v' => out = (.SYSINFO_RET_FAIL, []) ∧
      v'.result = { v.result with msg := some message } ∧ v'.live = L
  | .value text, out, v' => out = (.SYSINFO_RET_OK, text) ∧ v'.result = v.result ∧ v'.live = L

theorem pg_scalar_realises (params : PGparams) (h : Shows w v)
    (hv : v.live = paramsHandle params ++ L) (hL : noConn L) (request : AGENT_REQUEST)
    (query : CStr) (bufferlen : ℕ) :
    Realises (pg_scalar request query params bufferlen)
      (scalarAsk request query (cells params) bufferlen) v.server v.sent
      (ScalarDone v params L) w := by
  refine realises_fetch params (fun _ => rfl) h hv hL ?_ ?_
  · intro message s' w' h'
    apply realises_done
    exact ⟨_, h', rfl, rfl, rfl, rfl, hv⟩
  · intro reply s' id res w' received h'
    have failing : ∀ format args, Realises (do
          let _ ← set_err_result .given format args
          clearAndFinish res (some ⟨id, requestConnstring request, .CONNECTION_OK, []⟩)
          return (.SYSINFO_RET_FAIL, []))
        (.done (.ok (.failed (vsnprintf MAX_STRING_LEN format args)))) (S.finish s')
        (v.sent ++ [(query, cells params)]) (ScalarDone v params L) w' := by
      intro format args
      apply realises_done
      refine wp_seq (set_err_result_spec h' .given format args) ?_
      intro _ w₁ h₁
      refine wp_seq (clearAndFinish_spec h₁ rfl) ?_
      intro _ w₂ h₂
      exact ⟨_, h₂, rfl, rfl, rfl, rfl, rfl⟩
    cases reply with
    | refused message => cases received
    | noResult =>
      cases received
      exact failing _ _
    | failed message =>
      obtain ⟨rid, rfl⟩ := received
      exact failing _ _
    | answered tuples =>
      obtain ⟨rid, rfl⟩ := received
      rw [if_neg (by simp)]
      cases hrows : tuples.rows with
      | nil =>
        rw [if_pos (by simp [hrows]), scalarEnd, hrows]
        exact failing _ _
      | cons row rows =>
        rw [if_neg (by simp [hrows])]
        cases row with
        | nil =>
          simp only [scalarEnd, hrows, PQgetvalue_tuples]
          exact realises_fault h'
        | cons value row =>
          simp only [scalarEnd, hrows, PQgetvalue_tuples]
          apply realises_done
          refine wp_seq (deref_some (fieldText value) w') ?_
          rintro _ _ ⟨rfl, rfl⟩
          refine wp_seq (clearAndFinish_spec h' rfl) ?_
          intro _ w₁ h₁
          exact ⟨_, h₁, rfl, rfl, rfl, rfl, rfl⟩

end Scalar

inductive Kind where
  | conn
  | result
  | json
  | params
  deriving DecidableEq

def kindOf : Handle → Kind
  | .conn _ => .conn
  | .result _ => .result
  | .json _ => .json
  | .params _ => .params

inductive Value where
  | ui64 (n : ℕ)
  | dbl (text : CStr)
  | str (s : StrValue)

/-- `silent` is a failure without a message. -/
inductive Report where
  | value (value : Value)
  | error (message : Message)
  | silent

def Report.ret : Report → Ret
  | .value _ => .SYSINFO_RET_OK
  | .error _ => .SYSINFO_RET_FAIL
  | .silent => .SYSINFO_RET_FAIL

def Value.on (result : AGENT_RESULT) : Value → AGENT_RESULT
  | .ui64 n => { result with ui64 := some n }
  | .dbl text => { result with dbl := some text }
  | .str s => { result with str := some s }

def Report.on (result : AGENT_RESULT) : Report → AGENT_RESULT
  | .value x => x.on result
  | .error message => { result with msg := some message }
  | .silent => result

structure Outcome where
  report : Report
  leaked : List Kind

def held : List CStr → List Kind
  | [] => []
  | _ :: _ => [.params]

theorem paramsHandle_kinds {params : PGparams} (packed : Packed params) :
    (paramsHandle params).map kindOf = held (cells params) := by
  cases params with
  | none => rfl
  | some array =>
    cases hc : array.cells with
    | nil => cases packed hc
    | cons c cs => simp [paramsHandle, kindOf, cells, hc, held]

section Outcomes
variable {S : Server} {w : World S} {v : View S} {L : List Handle}

def Delivered (v : View S) (L : List Handle) (o : Outcome) (ret : Ret) (v' : View S) : Prop :=
  ret = o.report.ret ∧ v'.result = o.report.on v.result ∧
    ∃ new, v'.live = new ++ L ∧ new.map kindOf = o.leaked

def resultReport (text : CStr) : ResultType → Report
  | .AR_STRING => .value (.str (.text text))
  | .AR_UINT64 => .value (.ui64 (readUInt64 text))
  | .AR_DOUBLE => .value (.dbl text)
  | .unsupported type => .error (vsnprintf MAX_STRING_LEN
      "Unsupported result type: 0x%0X in %s".toList
      [.int type, .string "pg_get_result".toList])

def resultOutcome (type : ResultType) (params : List CStr) : ScalarEnd → Outcome
  | .refused message => ⟨.error message, held params⟩
  | .failed message => ⟨.error message, []⟩
  | .value text => ⟨resultReport text type, []⟩

def resultAsk (request : AGENT_REQUEST) (type : ResultType) (query : CStr)
    (params : List CStr) : Asks Outcome :=
  andThen (scalarAsk request query params MAX_STRING_LEN) fun e =>
    .done (.ok (resultOutcome type params e))

theorem set_result_realises (value : Value) {m : Agent S Unit} (h : Shows w v)
    (hv : v.live = L) (set : ∀ w : World S, m w = .ok () { w with result := value.on w.result }) :
    Realises (do m; return .SYSINFO_RET_OK) (.done (.ok ⟨.value value, []⟩))
      v.server v.sent (Delivered v L) w := by
  apply realises_done
  have done : wp m (fun _ w' => w' = { w with result := value.on w.result })
      (fun _ _ => False) w := by
    rw [wp, set]
  refine wp_seq done ?_
  rintro _ _ rfl
  rw [h.result]
  exact ⟨_, shows_result h _, rfl, rfl, rfl, rfl, [], hv, rfl⟩

theorem pg_get_result_realises (params : PGparams) (h : Shows w v)
    (hv : v.live = paramsHandle params ++ L) (hL : noConn L) (packed : Packed params)
    (request : AGENT_REQUEST) (type : ResultType) (query : CStr) :
    Realises (pg_get_result request type query params)
      (resultAsk request type query (cells params)) v.server v.sent (Delivered v L) w := by
  refine realises_bind (pg_scalar_realises params h hv hL request query MAX_STRING_LEN) ?_
  rintro e ⟨code, text⟩ v' w' done h'
  cases e with
  | refused message =>
    obtain ⟨out, result, live⟩ := done
    cases out
    apply realises_done
    exact ⟨v', h', rfl, rfl, rfl, result, paramsHandle params, live, paramsHandle_kinds packed⟩
  | failed message =>
    obtain ⟨out, result, live⟩ := done
    cases out
    apply realises_done
    exact ⟨v', h', rfl, rfl, rfl, result, [], live, rfl⟩
  | value text =>
    obtain ⟨out, result, live⟩ := done
    cases out
    have post : ∀ o ret v'', Delivered v' L o ret v'' → Delivered v L o ret v'' := by
      rintro o ret v'' ⟨hret, hres, hlive⟩
      exact ⟨hret, result ▸ hres, hlive⟩
    refine realises_post ?_ post
    cases type with
    | AR_STRING => exact set_result_realises (.str (.text text)) h' live fun _ => rfl
    | AR_UINT64 => exact set_result_realises (.ui64 (readUInt64 text)) h' live fun _ => rfl
    | AR_DOUBLE => exact set_result_realises (.dbl text) h' live fun _ => rfl
    | unsupported type =>
      apply realises_done
      refine wp_seq (set_err_result_spec h' .given _ _) ?_
      intro _ w₁ h₁
      exact ⟨_, h₁, rfl, rfl, rfl, rfl, [], live, rfl⟩

def rowObject (fields : List CStr) (row : List (Option CStr)) : Json :=
  .object ((fields.zip row).map fun (field, value) =>
    (macroName field, .string (fieldText value)))

theorem macroName_fits {name : CStr} (h : name.length + 3 < MAX_STRING_LEN) :
    macroName name = '{' :: '#' :: (name.map toupper ++ ['}']) := by
  have fits : ('{' :: '#' :: name ++ ['}']).length ≤ MAX_STRING_LEN - 1 := by
    simp only [List.length_append, List.length_cons, List.length_nil]
    omega
  rw [macroName, zbx_snprintf, List.take_of_length_le fits, List.map_append, List.map_cons,
    List.map_cons]
  rfl

def tuplesData (tuples : Tuples) : List Json := tuples.rows.map (rowObject tuples.fields)

def discoveryDocument (data : List Json) : Json := .object [(ZBX_PROTO_TAG_DATA, .array data)]

def dataFrames (data : List Json) : List Frame :=
  [⟨ZBX_PROTO_TAG_DATA, .array data⟩, ⟨[], .object []⟩]

theorem addstrings_frames (cells : List (CStr × Option CStr)) (j : zbx_json) (name : CStr)
    (members : List (CStr × Json)) (fs : List Frame)
    (hj : j.frames = ⟨name, .object members⟩ :: fs) :
    cells.foldl (fun j (field, value) =>
        zbx_json_addstring j (macroName field) (fieldText value)) j =
      ⟨j.id, ⟨name, .object (members ++ cells.map fun (field, value) =>
        (macroName field, .string (fieldText value)))⟩ :: fs⟩ := by
  induction cells generalizing j members with
  | nil =>
    rw [List.map_nil, List.append_nil, ← hj]
    rfl
  | cons cell cells ih =>
    rw [List.foldl_cons, ih _ (members ++ [(macroName cell.1, .string (fieldText cell.2))])]
    · simp [zbx_json_addstring, hj]
    · simp [zbx_json_addstring, hj, attach]

theorem addRow_frames (fields : List CStr) (j : zbx_json) (row : List (Option CStr))
    (data : List Json) (hj : j.frames = dataFrames data) :
    addRow fields j row = ⟨j.id, dataFrames (data ++ [rowObject fields row])⟩ := by
  rw [addRow, addstrings_frames _ (zbx_json_addobject j) [] [] (dataFrames data)]
  · simp [zbx_json_close, closeFrames, dataFrames, attach, rowObject, zbx_json_addobject]
  · simp [zbx_json_addobject, hj]

theorem addRows_frames (tuples : Tuples) (j : zbx_json) (data : List Json)
    (hj : j.frames = dataFrames data) :
    addRows j tuples = ⟨j.id, dataFrames (data ++ tuplesData tuples)⟩ := by
  rw [addRows, tuplesData]
  generalize tuples.rows = rows
  induction rows generalizing j data with
  | nil =>
    rw [List.map_nil, List.append_nil, ← hj]
    rfl
  | cons row rows ih =>
    rw [List.foldl_cons, addRow_frames _ _ _ _ hj, ih _ (data ++ [rowObject tuples.fields row]) rfl]
    simp

theorem buffer_dataFrames (id : ℕ) (data : List Json) :
    buffer (zbx_json_close ⟨id, dataFrames data⟩) = discoveryDocument data := rfl

theorem set_json_spec (h : Shows w v) (document : Json) :
    wp (SET_STR_RESULT (.json document)) (fun _ w' =>
        Shows w' { v with result := Value.on v.result (.str (.json document)) })
      (fun _ _ => False) w := by
  change Shows { w with result := Value.on w.result (.str (.json document)) } _
  rw [h.result]
  exact shows_result h _

def discoveryError (reply : Reply) : Message :=
  vsnprintf MAX_STRING_LEN "PostgreSQL query error: %s".toList [.string (errorText reply)]

def discoveryEnd (params : List CStr) : Reply → Outcome
  | .refused message => ⟨.error (vsnprintf MAX_STRING_LEN message []), held params⟩
  | .answered tuples =>
    ⟨.value (.str (.json (discoveryDocument (tuplesData tuples)))), []⟩
  | reply => ⟨.error (discoveryError reply), []⟩

def discoveryAsk (request : AGENT_REQUEST) (query : CStr) (params : List CStr) : Asks Outcome :=
  .ask (.query (requestConnstring request) query params) fun reply =>
    .done (.ok (discoveryEnd params reply))

theorem pg_get_discovery_realises (params : PGparams) (h : Shows w v)
    (hv : v.live = paramsHandle params ++ L) (hL : noConn L) (packed : Packed params)
    (request : AGENT_REQUEST) (query : CStr) :
    Realises (pg_get_discovery request query params)
      (discoveryAsk request query (cells params)) v.server v.sent (Delivered v L) w := by
  refine realises_fetch params (fun _ => rfl) h hv hL ?_ ?_
  · intro message s' w' h'
    apply realises_done
    exact ⟨_, h', rfl, rfl, rfl, rfl, paramsHandle params, hv, paramsHandle_kinds packed⟩
  · intro reply s' id res w' received h'
    have failing : ∀ args, Realises (do
          let _ ← set_err_result .given "PostgreSQL query error: %s".toList args
          clearAndFinish res (some ⟨id, requestConnstring request, .CONNECTION_OK, []⟩)
          return .SYSINFO_RET_FAIL)
        (.done (.ok ⟨.error (vsnprintf MAX_STRING_LEN "PostgreSQL query error: %s".toList args),
          []⟩))
        (S.finish s') (v.sent ++ [(query, cells params)]) (Delivered v L) w' := by
      intro args
      apply realises_done
      refine wp_seq (set_err_result_spec h' .given _ args) ?_
      intro _ w₁ h₁
      refine wp_seq (clearAndFinish_spec h₁ rfl) ?_
      intro _ w₂ h₂
      exact ⟨_, h₂, rfl, rfl, rfl, rfl, [], rfl, rfl⟩
    cases reply with
    | refused message => cases received
    | noResult =>
      cases received
      exact failing _
    | failed message =>
      obtain ⟨rid, rfl⟩ := received
      exact failing _
    | answered tuples =>
      obtain ⟨rid, rfl⟩ := received
      apply realises_done
      refine wp_seq (zbx_json_init_spec h') ?_
      rintro j w₁ ⟨frames, h₁⟩
      have rows := addRows_frames tuples (zbx_json_addarray j ZBX_PROTO_TAG_DATA) []
        (by simp [zbx_json_addarray, frames, dataFrames])
      simp only [rows, buffer_dataFrames, List.nil_append]
      refine wp_seq (set_json_spec h₁ _) ?_
      intro _ w₂ h₂
      refine wp_seq (zbx_json_free_spec (K := []) h₂ rfl (fun hm => by cases hm)) ?_
      intro _ w₃ h₃
      refine wp_seq (clearAndFinish_spec h₃ rfl) ?_
      intro _ w₄ h₄
      exact ⟨_, h₄, rfl, rfl, rfl, rfl, [], rfl, rfl⟩

def enumerationFailed : Message :=
  vsnprintf MAX_STRING_LEN "Failed to enumerate connectable PostgreSQL databases".toList []

/-- The first column of each row, `none` where there is no such column. -/
def firstColumn (tuples : Tuples) : Option (List CStr) :=
  tuples.rows.mapM fun row => (row.head?).map fieldText

/-- Where `pg_get_databases` ends for each reply: with the names, or a message. -/
def databasesEnd : Reply → Except Fault (Except Message (List CStr))
  | .refused message => .ok (.error (vsnprintf MAX_STRING_LEN message []))
  | .answered tuples =>
    if tuples.rows = [] then .ok (.error enumerationFailed)
    else
      match firstColumn tuples with
      | none => .error .nullPointer
      | some names => .ok (.ok names)
  | _ => .ok (.error enumerationFailed)

def databasesAsk (request : AGENT_REQUEST) : Asks (Except Message (List CStr)) :=
  .ask (.query (requestConnstring request) PGSQL_CONNECTABLE_DATABASES []) fun reply =>
    .done (databasesEnd reply)

def DatabasesDone (v : View S) : Except Message (List CStr) → Option CStr → View S → Prop
  | .error message, out, v' => out = none ∧
      v'.result = { v.result with msg := some message } ∧ v'.live = v.live
  | .ok names, out, v' => out = some (multiString names) ∧ v'.result = v.result ∧
      v'.live = v.live

theorem readNames_run (id : ℕ) (tuples : Tuples) (m : CStr) (n : ℕ) (w : World S)
    (hn : n ≤ tuples.rows.length) :
    readNames (some ⟨id, some tuples, m⟩) n w =
      match (tuples.rows.take n).mapM fun row => (row.head?).map fieldText with
      | none => .error .nullPointer w
      | some names => .ok names w := by
  induction n with
  | zero => rfl
  | succ n ih =>
    have hrow : tuples.rows[n]? = some (tuples.rows.get ⟨n, hn⟩) := by
      simp [List.getElem?_eq_getElem (Nat.lt_of_succ_le hn)]
    have step : readNames (some ⟨id, some tuples, m⟩) (n + 1) w =
        EStateM.bind (readNames (some ⟨id, some tuples, m⟩) n)
          (fun names => EStateM.bind (deref (PQgetvalue (some ⟨id, some tuples, m⟩) n 0))
            (fun name => EStateM.pure (names ++ [name]))) w := rfl
    rw [step, EStateM.bind, ih (Nat.le_of_succ_le hn), List.take_add_one, hrow, List.mapM_append]
    cases (tuples.rows.take n).mapM fun row => (row.head?).map fieldText with
    | none => rfl
    | some names =>
      rw [PQgetvalue_tuples, hrow]
      cases tuples.rows.get ⟨n, hn⟩ with
      | nil => rfl
      | cons value row => rfl

theorem pg_get_databases_realises (h : Shows w v) (hL : noConn v.live)
    (request : AGENT_REQUEST) :
    Realises (pg_get_databases request) (databasesAsk request) v.server v.sent
      (DatabasesDone v) w := by
  refine realises_fetch none (fun _ => rfl) h rfl hL ?_ ?_
  · intro message s' w' h'
    apply realises_done
    exact ⟨_, h', rfl, rfl, rfl, rfl, rfl⟩
  · intro reply s' id res w' received h'
    have failing : Realises (do
          let _ ← set_err_result .given
            "Failed to enumerate connectable PostgreSQL databases".toList []
          clearAndFinish res (some ⟨id, requestConnstring request, .CONNECTION_OK, []⟩)
          return none)
        (.done (.ok (.error enumerationFailed))) (S.finish s')
        (v.sent ++ [(PGSQL_CONNECTABLE_DATABASES, [])]) (DatabasesDone v) w' := by
      apply realises_done
      refine wp_seq (set_err_result_spec h' .given _ []) ?_
      intro _ w₁ h₁
      refine wp_seq (clearAndFinish_spec h₁ rfl) ?_
      intro _ w₂ h₂
      exact ⟨_, h₂, rfl, rfl, rfl, rfl, rfl⟩
    cases reply with
    | refused message => cases received
    | noResult =>
      cases received
      exact failing
    | failed message =>
      obtain ⟨rid, rfl⟩ := received
      exact failing
    | answered tuples =>
      obtain ⟨rid, rfl⟩ := received
      rw [databasesEnd]
      by_cases hrows : tuples.rows = []
      · rw [if_pos (by simp [hrows]), if_pos hrows]
        exact failing
      · have some_rows : ¬ 0 = PQntuples (some ⟨rid, some tuples, []⟩) := by
          rw [PQntuples_tuples]
          exact fun e => hrows (List.eq_nil_of_length_eq_zero e.symm)
        rw [if_neg some_rows, if_neg hrows]
        have read := readNames_run rid tuples [] tuples.rows.length w' (Nat.le_refl _)
        rw [List.take_length] at read
        change readNames _ _ _ = match firstColumn tuples with
          | none => _
          | some names => _ at read
        cases hf : firstColumn tuples with
        | none =>
          rw [hf] at read
          unfold Realises
          rw [wp_bind, wp, PQntuples_tuples, read]
          exact ⟨rfl, by simp [sentOf, h'.sent]⟩
        | some names =>
          rw [hf] at read
          apply realises_done
          rw [wp_bind, wp, PQntuples_tuples, read]
          refine wp_seq (clearAndFinish_spec h' rfl) ?_
          intro _ w₁ h₁
          exact ⟨_, h₁, rfl, rfl, rfl, rfl, rfl⟩

/-- The result that the wide loop leaves behind with a reply it cannot use. -/
def uncleared : Reply → List Kind
  | .failed _ => [.result]
  | _ => []

def wideAsk (connstring : Option CStr) (query : CStr) : List CStr → List Json → Asks Outcome
  | [], data => .done (.ok ⟨.value (.str (.json (discoveryDocument data))), []⟩)
  | db :: dbs, data =>
    .ask (.query (build_connstring connstring (some db)) query []) fun
      | .refused message => .done (.ok ⟨.error (vsnprintf MAX_STRING_LEN message []), [.json]⟩)
      | .answered tuples => wideAsk connstring query dbs (data ++ tuplesData tuples)
      | reply => .done (.ok ⟨.error (discoveryError reply), uncleared reply ++ [.json]⟩)

def visited (names : List CStr) : List CStr :=
  walkStrings (multiString names).length (multiString names)

def discoveryWideAsk (request : AGENT_REQUEST) (query : CStr) : Asks Outcome :=
  andThen (databasesAsk request) fun
    | .error message => .done (.ok ⟨.error message, []⟩)
    | .ok names => wideAsk (get_rparam request PARAM_CONN_STRING) query (visited names) []

def wideFinish (done : Except (Option PGconn) zbx_json) : Agent S Ret :=
  match done with
  | .error conn => wideOut conn .SYSINFO_RET_FAIL
  | .ok j => do
    SET_STR_RESULT (.json (buffer (zbx_json_close j)))
    zbx_json_free (zbx_json_close j)
    wideOut none .SYSINFO_RET_OK

theorem wideLoop_realises (connstring : Option CStr) (query : CStr) (dbs : List CStr)
    {j : zbx_json} {data : List Json} (h : Shows w v) (hv : v.live = .json j.id :: L)
    (hL : noConn L) (hj : j.frames = dataFrames data) :
    Realises (wideLoop connstring query none dbs j >>= wideFinish)
      (wideAsk connstring query dbs data) v.server v.sent (Delivered v L) w := by
  induction dbs generalizing w v j data with
  | nil =>
    apply realises_done
    obtain ⟨id, frames⟩ := j
    cases hj
    rw [wideLoop, pure_bind]
    refine wp_seq (set_json_spec h _) ?_
    intro _ w₁ h₁
    refine wp_seq (zbx_json_free_spec (K := []) h₁ hv (fun hm => by cases hm)) ?_
    intro _ w₂ h₂
    exact ⟨_, h₂, rfl, rfl, rfl, rfl, [], rfl, rfl⟩
  | cons db dbs ih =>
    have noConn_live : noConn v.live := by
      rw [hv]
      exact List.forall_mem_cons.mpr ⟨rfl, hL⟩
    rw [wideLoop, wideAsk, bind_assoc]
    refine realises_fetch none (L := v.live) (fun _ => bind_assoc _ _ _) h rfl
      noConn_live ?_ ?_
    · intro message s' w' h'
      apply realises_done
      exact ⟨_, h', rfl, rfl, rfl, rfl, [.json j.id], hv, rfl⟩
    · intro reply s' id res w' received h'
      have failing : ∀ args, Realises ((do
            let _ ← set_err_result .given "PostgreSQL query error: %s".toList args
            return .error
              (some ⟨id, build_connstring connstring (some db), .CONNECTION_OK, []⟩)) >>=
              wideFinish)
          (.done (.ok ⟨.error (vsnprintf MAX_STRING_LEN "PostgreSQL query error: %s".toList args),
            (resultHandle res).map kindOf ++ [.json]⟩))
          (S.finish s') (v.sent ++ [(query, [])]) (Delivered v L) w' := by
        intro args
        apply realises_done
        rw [bind_assoc]
        refine wp_seq (set_err_result_spec h' .given _ args) ?_
        intro _ w₁ h₁
        rw [pure_bind]
        refine wp_seq (PQfinish_spec (K := resultHandle res) h₁ rfl ?_) ?_
        · cases res <;> simp [resultHandle]
        · intro _ w₂ h₂
          refine ⟨_, h₂, rfl, rfl, rfl, rfl, resultHandle res ++ [.json j.id], ?_, ?_⟩
          · simp [hv]
          · simp [kindOf]
      cases reply with
      | refused message => cases received
      | noResult =>
        cases received
        exact failing _
      | failed message =>
        obtain ⟨rid, rfl⟩ := received
        exact failing _
      | answered tuples =>
        obtain ⟨rid, rfl⟩ := received
        have rows := addRows_frames tuples j data hj
        change Realises ((do
          PQclear (some ⟨rid, some tuples, []⟩)
          PQfinish (some ⟨id, build_connstring connstring (some db), .CONNECTION_OK, []⟩)
          wideLoop connstring query none dbs (addRows j tuples)) >>= wideFinish) _ _ _ _ _
        rw [bind_assoc]
        refine realises_silent (PQclear_spec h' rfl) ?_
        intro _ w₁ h₁
        rw [bind_assoc]
        refine realises_silent (PQfinish_spec (K := []) h₁ rfl (fun hm => by cases hm)) ?_
        intro _ w₂ h₂
        rw [rows]
        exact ih h₂ hv rfl

theorem pg_get_discovery_wide_realises (h : Shows w v) (hv : v.live = L) (hL : noConn L)
    (request : AGENT_REQUEST) (query : CStr) :
    Realises (pg_get_discovery_wide request query none) (discoveryWideAsk request query)
      v.server v.sent (Delivered v L) w := by
  refine realises_bind (pg_get_databases_realises h (hv ▸ hL) request) ?_
  rintro e out v' w' done h'
  cases e with
  | error message =>
    obtain ⟨rfl, result, live⟩ := done
    apply realises_done
    exact ⟨v', h', rfl, rfl, rfl, result, [], live.trans hv, rfl⟩
  | ok names =>
    obtain ⟨rfl, result, live⟩ := done
    refine realises_silent (zbx_json_init_spec h') ?_
    rintro j w₁ ⟨frames, h₁⟩
    have opened : (zbx_json_addarray j ZBX_PROTO_TAG_DATA).frames = dataFrames [] := by
      simp [zbx_json_addarray, frames, dataFrames]
    have held : .json j.id :: v'.live = .json (zbx_json_addarray j ZBX_PROTO_TAG_DATA).id :: L :=
      congrArg _ (live.trans hv)
    have loop := wideLoop_realises (get_rparam request PARAM_CONN_STRING) query (visited names)
      h₁ held hL opened
    refine realises_post loop ?_
    rintro o ret v'' ⟨hret, hres, hlive⟩
    exact ⟨hret, result ▸ hres, hlive⟩

end Outcomes

end LibZbxPgsql.DriverDialogues
