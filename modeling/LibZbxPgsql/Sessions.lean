import LibZbxPgsql.WorldView
import LibZbxPgsql.Drivers
import LibZbxPgsql.JsonBuilder
import LibZbxPgsql.Dialogues

set_option autoImplicit false

/-! A connection attempt and, where it succeeds, one command: the question a driver asks, and
what it can get for a reply. Below, what each call of libpq and of the helpers over it does to
the view of a run. -/
namespace LibZbxPgsql.Sessions
open StateFaultWp HandleLedger CStrings PrintfFormat AgentModel Connections Drivers JsonBuilder
open WorldView

inductive Question where
  | ping (connstring : CStr)
  | query (connstring command : CStr) (params : List CStr)

/-- `noResult` where the command had no result, or none was sent. -/
inductive Reply where
  | refused (message : CStr)
  | noResult
  | failed (message : CStr)
  | answered (tuples : Tuples)

def sentBy : Question × Reply → Option (CStr × List CStr)
  | (.ping _, _) => none
  | (.query _ _ _, .refused _) => none
  | (.query _ command params, _) => some (command, params)

def refusal (S : Server) (s : S.State) (connstring : CStr) : Option CStr × S.State :=
  match S.connect s connstring with
  | (.outOfMemory, s) => (some "connection pointer is NULL\n".toList, s)
  | (.CONNECTION_BAD message, s) => (some message, S.finish s)
  | (.CONNECTION_OK, s) => (none, s)

def replyOf : ExecReply → Reply
  | .outOfMemory => .noResult
  | .notTuples message => .failed message
  | .PGRES_TUPLES_OK tuples => .answered tuples

def session (S : Server) (s : S.State) : Question → Reply × S.State
  | .ping connstring =>
    match refusal S s connstring with
    | (some message, s) => (.refused message, s)
    | (none, s) => (.noResult, S.finish s)
  | .query connstring command params =>
    match refusal S s connstring with
    | (some message, s) => (.refused message, s)
    | (none, s) =>
      (replyOf (S.exec s connstring command params).1,
       S.finish (S.exec s connstring command params).2)

/-- A server whose next session is the first of its state: how it ends the attempt, and
    what it answers to the commands of the session. -/
def scripted : Server where
  State := List (ConnectReply × ExecReply)
  connect
    | [], _ => (.outOfMemory, [])
    | (reply, answer) :: sessions, _ => (reply, (reply, answer) :: sessions)
  exec
    | [], _, _, _ => (.outOfMemory, [])
    | (reply, answer) :: sessions, _, _, _ => (answer, (reply, answer) :: sessions)
  finish sessions := sessions.tail

def noConn (l : List Handle) : Prop := ∀ x ∈ l, x.isConn = false

def resultHandle : Option PGresult → List Handle
  | none => []
  | some res => [.result res.id]

/-- The result that stands for a reply. -/
def Received : Reply → Option PGresult → Prop
  | .refused _, _ => False
  | .noResult, res => res = none
  | .failed message, res => ∃ id, res = some ⟨id, none, message⟩
  | .answered tuples, res => ∃ id, res = some ⟨id, some tuples, []⟩

def reportOn (r : ResultArg) (message : Message) (result : AGENT_RESULT) : AGENT_RESULT :=
  match r with
  | .NULL => result
  | .given => { result with msg := some message }

section Calls
variable {S : Server} {w : World S} {v : View S} {L : List Handle} {β : Type}

theorem emit_uses (h : Shows w v) {e : Event} {l : List Handle}
    (he : e.acts = l.map .use) (hl : ∀ x ∈ l, x ∈ v.live) :
    wp (emit e) (fun _ w' => Shows w' { v with sent := v.sent ++ e.command })
      (fun _ _ => False) w :=
  shows_uses h he hl

theorem emit_release (h : Shows w v) {e : Event} {i : Handle} (he : e.acts = [.release i])
    (hi : i ∈ v.live) :
    wp (emit e) (fun _ w' =>
        Shows w' { v with sent := v.sent ++ e.command, live := v.live.erase i })
      (fun _ _ => False) w :=
  shows_release h he hi

theorem acquire_fresh (h : Shows w v) {e : ℕ → Event} {l : List Handle} (mk : ℕ → Handle)
    (he : ∀ id, (e id).acts = l.map .use ++ [.acquire (mk id)]) (hl : ∀ x ∈ l, x ∈ v.live)
    (hi : ∀ id, (mk id).id = id) (admitted : ∀ id, oneConnection v.live (mk id) = true) :
    wp (acquire e) (fun id w' =>
        Shows w' { v with sent := v.sent ++ (e id).command, live := mk id :: v.live })
      (fun _ _ => False) w :=
  shows_acquire h (he w.fresh) hl (hi w.fresh) (admitted w.fresh)

theorem oneConnection_other {live : List Handle} {h : Handle} (hh : h.isConn = false) :
    oneConnection live h = true := by
  simp [oneConnection, hh]

theorem oneConnection_none {live : List Handle} (h : noConn live) (id : ℕ) :
    oneConnection live (.conn id) = true := by
  rw [oneConnection, Bool.or_eq_true, List.all_eq_true]
  exact .inr fun x hx => by rw [h x hx, Bool.not_false]

theorem set_err_result_spec (h : Shows w v) (r : ResultArg) (format : CStr) (args : List Arg) :
    wp (set_err_result r format args) (fun _ w' =>
        Shows w' { v with
          result := reportOn r (vsnprintf MAX_STRING_LEN format args) v.result })
      (fun _ _ => False) w := by
  refine wp_seq (emit_uses (l := []) h rfl (fun _ hx => by cases hx)) ?_
  intro _ w₁ h₁
  simp only [Event.command, List.append_nil] at h₁
  cases r with
  | NULL => exact h₁
  | given =>
    change Shows { w₁ with result := { w₁.result with msg := _ } } _
    rw [h₁.result]
    exact shows_result h₁ _

theorem PQfinish_spec {c : PGconn} {K : List Handle} (h : Shows w v)
    (hv : v.live = K ++ .conn c.id :: L) (hK : .conn c.id ∉ K) :
    wp (PQfinish (some c)) (fun _ w' =>
        Shows w' { v with server := S.finish v.server, live := K ++ L })
      (fun _ _ => False) w := by
  refine wp_seq (emit_release (i := .conn c.id) h rfl ?_) ?_
  · rw [hv]
    exact List.mem_append_right _ List.mem_cons_self
  · intro _ w' h'
    simp only [Event.command, List.append_nil, hv, List.erase_append_right _ hK,
      List.erase_cons_head] at h'
    rw [wp_modify, h'.server]
    exact shows_server h' _

theorem PQclear_spec {res : Option PGresult} (h : Shows w v)
    (hv : v.live = resultHandle res ++ L) :
    wp (PQclear res) (fun _ w' => Shows w' { v with live := L }) (fun _ _ => False) w := by
  cases res with
  | none =>
    rw [resultHandle, List.nil_append] at hv
    rw [← hv]
    exact h
  | some res =>
    rw [resultHandle, List.singleton_append] at hv
    refine wp_post (emit_release (i := .result res.id) h rfl (hv ▸ List.mem_cons_self)) ?_
    intro _ w' h'
    simpa only [Event.command, List.append_nil, hv, List.erase_cons_head] using h'

theorem clearAndFinish_spec {res : Option PGresult} {c : PGconn} (h : Shows w v)
    (hv : v.live = resultHandle res ++ .conn c.id :: L) :
    wp (clearAndFinish res (some c))
      (fun _ w' => Shows w' { v with server := S.finish v.server, live := L })
      (fun _ _ => False) w :=
  wp_seq (PQclear_spec h hv) fun _ _ h' =>
    PQfinish_spec (v := { v with live := .conn c.id :: L }) (K := []) h' rfl
      (fun hm => by cases hm)

def Connects (connstring : CStr) (v : View S) (w : World S) :
    ConnectReply → Option PGconn → Prop
  | .outOfMemory, conn => conn = none ∧ Shows w v
  | .CONNECTION_BAD message, conn =>
    ∃ id, conn = some ⟨id, connstring, .CONNECTION_BAD, message⟩ ∧
      Shows w { v with live := .conn id :: v.live }
  | .CONNECTION_OK, conn =>
    ∃ id, conn = some ⟨id, connstring, .CONNECTION_OK, []⟩ ∧
      Shows w { v with live := .conn id :: v.live }

theorem connectServer_spec (h : Shows w v) (connstring : CStr) :
    wp (connectServer connstring) (fun reply w' =>
        reply = (S.connect v.server connstring).1 ∧
        Shows w' { v with server := (S.connect v.server connstring).2 })
      (fun _ _ => False) w := by
  rw [← h.server]
  exact ⟨rfl, shows_server h _⟩

theorem acquire_conn (h : Shows w v) (hl : noConn v.live) (connstring : CStr) :
    wp (acquire fun id => .PQconnectdb connstring (some id)) (fun id w' =>
        Shows w' { v with live := .conn id :: v.live }) (fun _ _ => False) w := by
  have acquired := acquire_fresh (e := fun id => .PQconnectdb connstring (some id)) (l := []) h
    .conn (fun _ => rfl) (fun _ hx => by cases hx) (fun _ => rfl)
    (oneConnection_none hl)
  simpa only [Event.command, List.append_nil] using acquired

theorem PQconnectdb_spec (h : Shows w v) (hl : noConn v.live) (connstring : CStr) :
    wp (PQconnectdb connstring) (fun conn w' =>
        Connects connstring { v with server := (S.connect v.server connstring).2 } w'
          (S.connect v.server connstring).1 conn) (fun _ _ => False) w := by
  refine wp_seq (connectServer_spec h connstring) ?_
  rintro reply w₁ ⟨rfl, h₁⟩
  cases (S.connect v.server connstring).1 with
  | outOfMemory =>
    refine wp_seq (emit_uses (l := []) h₁ rfl (fun _ hx => by cases hx)) ?_
    intro _ w₂ h₂
    simp only [Event.command, List.append_nil] at h₂
    exact ⟨rfl, h₂⟩
  | CONNECTION_BAD message =>
    refine wp_seq (acquire_conn h₁ hl connstring) ?_
    intro id w₂ h₂
    exact ⟨id, rfl, h₂⟩
  | CONNECTION_OK =>
    refine wp_seq (acquire_conn h₁ hl connstring) ?_
    intro id w₂ h₂
    exact ⟨id, rfl, h₂⟩

theorem emit_conn_use {c : ℕ} (h : Shows w v) (hc : .conn c ∈ v.live) {e : Event}
    (he : e.acts = [.use (.conn c)]) (hs : e.command = []) :
    wp (emit e) (fun _ w' => Shows w' v) (fun _ _ => False) w := by
  have used := emit_uses (l := [.conn c]) h he (by simpa using hc)
  simpa only [hs, List.append_nil] using used

theorem PQstatus_spec {c : PGconn} (h : Shows w v) (hc : .conn c.id ∈ v.live) :
    wp (PQstatus (some c)) (fun status w' => status = c.status ∧ Shows w' v)
      (fun _ _ => False) w :=
  wp_seq (emit_conn_use h hc rfl rfl) fun _ _ h' => ⟨rfl, h'⟩

theorem PQerrorMessage_spec {c : PGconn} (h : Shows w v) (hc : .conn c.id ∈ v.live) :
    wp (PQerrorMessage (some c)) (fun message w' => message = c.errorMessage ∧ Shows w' v)
      (fun _ _ => False) w :=
  wp_seq (emit_conn_use h hc rfl rfl) fun _ _ h' => ⟨rfl, h'⟩

/-- The refusal of an attempt is reported, and its connection closed at once. -/
theorem pg_connect_refused {connstring : CStr} {r : ResultArg} {m : CStr} {s : S.State}
    (h : Shows w v) (hl : noConn v.live)
    (hr : refusal S v.server connstring = (some m, s)) :
    wp (pg_connect connstring r) (fun conn w' => conn = none ∧ Shows w' { v with
        server := s
        result := reportOn r (vsnprintf MAX_STRING_LEN m []) v.result })
      (fun _ _ => False) w := by
  refine wp_seq (PQconnectdb_spec h hl connstring) ?_
  intro conn w₁ h₁
  rw [refusal] at hr
  revert h₁ hr
  generalize S.connect v.server connstring = x
  obtain ⟨reply, s₁⟩ := x
  cases reply with
  | outOfMemory =>
    rintro hr ⟨rfl, h₁⟩
    cases hr
    rw [wp_bind, PQstatus, wp_pure, if_pos (by decide), wp_bind, PQerrorMessage, wp_pure]
    refine wp_seq (set_err_result_spec h₁ r _ []) ?_
    intro _ w₂ h₂
    exact ⟨rfl, h₂⟩
  | CONNECTION_BAD message =>
    rintro hr ⟨id, rfl, h₁⟩
    cases hr
    refine wp_seq (PQstatus_spec h₁ List.mem_cons_self) ?_
    rintro _ w₂ ⟨rfl, h₂⟩
    rw [if_pos (by simp)]
    refine wp_seq (PQerrorMessage_spec h₂ List.mem_cons_self) ?_
    rintro _ w₃ ⟨rfl, h₃⟩
    refine wp_seq (set_err_result_spec h₃ r _ []) ?_
    intro _ w₄ h₄
    refine wp_seq (PQfinish_spec (K := []) h₄ rfl (fun hm => by cases hm)) ?_
    intro _ w₅ h₅
    exact ⟨rfl, h₅⟩
  | CONNECTION_OK =>
    intro hr
    cases hr

theorem pg_connect_opened {connstring : CStr} {r : ResultArg} {s : S.State}
    (h : Shows w v) (hl : noConn v.live)
    (hr : refusal S v.server connstring = (none, s)) :
    wp (pg_connect connstring r) (fun conn w' =>
        ∃ id, conn = some ⟨id, connstring, .CONNECTION_OK, []⟩ ∧
          Shows w' { v with server := s, live := .conn id :: v.live })
      (fun _ _ => False) w := by
  refine wp_seq (PQconnectdb_spec h hl connstring) ?_
  intro conn w₁ h₁
  rw [refusal] at hr
  revert h₁ hr
  generalize S.connect v.server connstring = x
  obtain ⟨reply, s₁⟩ := x
  cases reply with
  | outOfMemory | CONNECTION_BAD _ =>
    intro hr
    cases hr
  | CONNECTION_OK =>
    rintro hr ⟨id, rfl, h₁⟩
    cases hr
    refine wp_seq (PQstatus_spec h₁ List.mem_cons_self) ?_
    rintro _ w₂ ⟨rfl, h₂⟩
    rw [if_neg (by simp)]
    exact ⟨id, rfl, h₂⟩

/-- The text a request parameter adds to an array: none where it is null or empty. -/
def bound : Option CStr → List CStr
  | none => []
  | some [] => []
  | some (c :: s) => [c :: s]

/-- An array exists only where it has a cell. -/
def Packed (params : PGparams) : Prop := cells params = [] → params = none

theorem packed_none : Packed none := fun _ => rfl

theorem param_len_spec (params : PGparams) (h : Shows w v)
    (hv : ∀ x ∈ paramsHandle params, x ∈ v.live) :
    wp (param_len params) (fun len w' => len = (cells params).length ∧ Shows w' v)
      (fun _ _ => False) w := by
  cases params with
  | none => exact ⟨rfl, h⟩
  | some array =>
    refine wp_seq (emit_uses (l := [.params array.id]) h rfl hv) ?_
    intro _ w' h'
    simp only [Event.command, List.append_nil] at h'
    exact ⟨rfl, h'⟩

theorem param_append_spec (params : PGparams) (h : Shows w v)
    (hv : v.live = paramsHandle params ++ L) (packed : Packed params) (s : Option CStr) :
    wp (param_append params s) (fun params' w' =>
        cells params' = cells params ++ bound s ∧ Packed params' ∧
        Shows w' { v with live := paramsHandle params' ++ L }) (fun _ _ => False) w := by
  have kept : Shows w { v with live := paramsHandle params ++ L } := by rwa [← hv]
  match s with
  | none => exact ⟨(List.append_nil _).symm, packed, kept⟩
  | some [] => exact ⟨(List.append_nil _).symm, packed, kept⟩
  | some (c :: s) =>
    cases params with
    | none =>
      refine wp_seq (acquire_fresh (l := []) kept .params (fun _ => rfl)
        (fun _ hx => by cases hx) (fun _ => rfl) (fun _ => oneConnection_other rfl)) ?_
      intro id w' h'
      simp only [Event.command, List.append_nil] at h'
      exact ⟨rfl, fun e => by simp [cells] at e, h'⟩
    | some array =>
      refine wp_seq (param_len_spec (some array) kept
        (fun x hx => List.mem_append_left _ hx)) ?_
      rintro len w' ⟨rfl, h'⟩
      exact ⟨by simp [cells, bound], fun e => by simp [cells] at e, h'⟩

theorem param_free_spec {params : PGparams} {K : List Handle} (h : Shows w v)
    (hv : v.live = K ++ (paramsHandle params ++ L)) (hK : ∀ x ∈ paramsHandle params, x ∉ K) :
    wp (param_free params) (fun _ w' => Shows w' { v with live := K ++ L })
      (fun _ _ => False) w := by
  cases params with
  | none =>
    have same : v = { v with live := K ++ L } := by rw [← show v.live = K ++ L from hv]
    exact same ▸ h
  | some array =>
    refine wp_post (emit_release (i := .params array.id) h rfl ?_) ?_
    · rw [hv]
      simp [paramsHandle]
    · intro _ w' h'
      rw [hv, List.erase_append_right _ (hK _ List.mem_cons_self)] at h'
      simpa [Event.command, paramsHandle] using h'

theorem execServer_spec (h : Shows w v) (c : PGconn) (command : CStr) (params : List CStr) :
    wp (execServer c command params) (fun reply w' =>
        reply = (S.exec v.server c.connstring command params).1 ∧
        Shows w' { v with server := (S.exec v.server c.connstring command params).2 })
      (fun _ _ => False) w := by
  rw [← h.server]
  exact ⟨rfl, shows_server h _⟩

theorem PQexecParams_spec {c : PGconn} {params : PGparams} (h : Shows w v)
    (hc : .conn c.id ∈ v.live) (hp : ∀ x ∈ paramsHandle params, x ∈ v.live) (command : CStr) :
    wp (PQexecParams c command params) (fun res w' =>
        Received (replyOf (S.exec v.server c.connstring command (cells params)).1) res ∧
        Shows w' { v with
          server := (S.exec v.server c.connstring command (cells params)).2
          sent := v.sent ++ [(command, cells params)]
          live := resultHandle res ++ v.live }) (fun _ _ => False) w := by
  have uses : ∀ x ∈ (.conn c.id) :: paramsHandle params, x ∈ v.live :=
    List.forall_mem_cons.mpr ⟨hc, hp⟩
  refine wp_seq (execServer_spec h c command (cells params)) ?_
  rintro reply w₁ ⟨rfl, h₁⟩
  have got : wp (acquire fun id => .PQexecParams c.id command params (some id)) (fun id w' =>
      Shows w' { v with
        server := (S.exec v.server c.connstring command (cells params)).2
        sent := v.sent ++ [(command, cells params)]
        live := .result id :: v.live }) (fun _ _ => False) w₁ :=
    acquire_fresh h₁ .result (fun _ => rfl) uses (fun _ => rfl)
      (fun _ => oneConnection_other rfl)
  cases (S.exec v.server c.connstring command (cells params)).1 with
  | outOfMemory =>
    refine wp_seq (emit_uses h₁ (l := (.conn c.id) :: paramsHandle params) rfl uses) ?_
    intro _ w₂ h₂
    exact ⟨rfl, h₂⟩
  | notTuples message =>
    refine wp_seq got ?_
    intro id w₂ h₂
    exact ⟨⟨id, rfl⟩, h₂⟩
  | PGRES_TUPLES_OK tuples =>
    refine wp_seq got ?_
    intro id w₂ h₂
    exact ⟨⟨id, rfl⟩, h₂⟩

theorem params_not_result (params : PGparams) (res : Option PGresult) :
    ∀ x ∈ paramsHandle params, x ∉ resultHandle res := by
  intro x hx
  cases params with
  | none => cases hx
  | some array =>
    cases List.mem_singleton.mp hx
    cases res <;> simp [resultHandle]

/-- `pg_exec` sends the command with the cells of the array, and releases the array. -/
theorem pg_exec_spec {c : PGconn} {params : PGparams} {K : List Handle} (h : Shows w v)
    (hv : v.live = K ++ (paramsHandle params ++ L)) (hc : .conn c.id ∈ v.live)
    (hK : ∀ x ∈ paramsHandle params, x ∉ K) (command : CStr) :
    wp (pg_exec c command params) (fun res w' =>
        Received (replyOf (S.exec v.server c.connstring command (cells params)).1) res ∧
        Shows w' { v with
          server := (S.exec v.server c.connstring command (cells params)).2
          sent := v.sent ++ [(command, cells params)]
          live := resultHandle res ++ (K ++ L) }) (fun _ _ => False) w := by
  have hp : ∀ x ∈ paramsHandle params, x ∈ v.live := by
    intro x hx
    rw [hv]
    exact List.mem_append_right _ (List.mem_append_left _ hx)
  refine wp_seq (param_len_spec params h hp) ?_
  rintro _ w₁ ⟨-, h₁⟩
  refine wp_seq (PQexecParams_spec h₁ hc hp command) ?_
  rintro res w₂ ⟨hr, h₂⟩
  refine wp_seq (param_free_spec (K := resultHandle res ++ K) (L := L) h₂ ?_ ?_) ?_
  · rw [hv, List.append_assoc]
  · intro x hx hm
    rcases List.mem_append.mp hm with hm | hm
    · exact params_not_result params res x hx hm
    · exact hK x hx hm
  · intro _ w₃ h₃
    rw [List.append_assoc] at h₃
    exact ⟨hr, h₃⟩

theorem zbx_json_init_spec (h : Shows w v) :
    wp zbx_json_init (fun j w' => j.frames = [⟨[], .object []⟩] ∧
        Shows w' { v with live := .json j.id :: v.live }) (fun _ _ => False) w := by
  refine wp_seq (acquire_fresh (l := []) h .json (fun _ => rfl)
    (fun _ hx => by cases hx) (fun _ => rfl) (fun _ => oneConnection_other rfl)) ?_
  intro id w' h'
  simp only [Event.command, List.append_nil] at h'
  exact ⟨rfl, h'⟩

theorem zbx_json_free_spec {j : zbx_json} {K : List Handle} (h : Shows w v)
    (hv : v.live = K ++ .json j.id :: L) (hK : .json j.id ∉ K) :
    wp (zbx_json_free j) (fun _ w' => Shows w' { v with live := K ++ L })
      (fun _ _ => False) w := by
  refine wp_post (emit_release (i := .json j.id) h rfl ?_) ?_
  · rw [hv]
    exact List.mem_append_right _ List.mem_cons_self
  · intro _ w' h'
    simpa only [Event.command, List.append_nil, hv, List.erase_append_right _ hK,
      List.erase_cons_head] using h'

end Calls

end LibZbxPgsql.Sessions
