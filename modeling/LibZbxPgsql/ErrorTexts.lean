import LibZbxPgsql.ResultDiscipline

set_option autoImplicit false

namespace LibZbxPgsql.ErrorTexts
open StateFaultWp CStrings PrintfFormat AgentModel Connections Drivers Discovery JsonBuilder
open ServerKeys QueryKeys TableKeys IndexKeys ItemKeys NamedQueries
open Sessions HandlerPlans KeyPlans HandleDiscipline ResultDiscipline

structure ErrorCall where
  result : ResultArg
  format : CStr
  args : List Arg

def callOf : Event → Option ErrorCall
  | .set_err_result result format args => some ⟨result, format, args⟩
  | _ => none

def connectErrorOf : Event → Option CStr
  | .PQerrorMessage _ message => some message
  | _ => none

def errorCalls (trace : List Event) : List ErrorCall := trace.filterMap callOf

/-- The texts with which libpq failed the connections of a run. -/
def connectErrors (trace : List Event) : List CStr := trace.filterMap connectErrorOf

def ErrorCall.message (call : ErrorCall) : Message :=
  vsnprintf MAX_STRING_LEN call.format call.args

def ErrorCall.stores (call : ErrorCall) : Bool :=
  match call.result with
  | .NULL => false
  | .given => true

def reported (trace : List Event) : Option Message :=
  (((errorCalls trace).filter ErrorCall.stores).getLast?).map ErrorCall.message

/-- The formats that the source spells out, each with its conversions. -/
def formats : List (CStr × List Conversion) :=
  [("PostgreSQL error for query \"%s\": %s".toList, [.string, .string]),
   ("No results returned for query \"%s\"".toList, [.string]),
   ("Unsupported result type: 0x%0X in %s".toList, [.int, .string]),
   ("Unsupported parameter value: \"%s\" in %s".toList, [.string, .string]),
   ("Invalid action parameter: %s".toList, [.string]),
   ("No database specified".toList, []),
   ("Failed to enumerate connectable PostgreSQL databases".toList, []),
   ("PostgreSQL query error: %s".toList, [.string]),
   ("Invalid search mode parameter: %s".toList, [.string]),
   ("No results returned for query: %s".toList, [.string]),
   ("No schema name specified".toList, []),
   ("No query or query-key specified".toList, []),
   ("No setting name specified".toList, []),
   ("No table name specified".toList, []),
   (tableNameMissing, []),
   ("No tablespace specified".toList, [])]

/-- The call is defined, and stores as much as the array holds of a text in which each
    string argument stands: the text that a format of the source comes to with exactly these
    arguments, or the text given in the place of a format. -/
def Verbatim (call : ErrorCall) : Prop :=
  ∃ text, call.message = some (text.take (MAX_STRING_LEN - 1)) ∧
    (∀ s, .string s ∈ call.args → s <:+: text) ∧
    (call.format ∈ formats.map Prod.fst ∧ consume call.format call.args = some (text, []) ∨
      call.args = [] ∧ text = call.format)

/-- The text with each `%%` written as one percent sign, `none` where a percent sign begins
    another conversion. -/
def singled : CStr → Option CStr
  | [] => some []
  | '%' :: '%' :: text => (singled text).map ('%' :: ·)
  | c :: text => if c = '%' then none else (singled text).map (c :: ·)

/-- Reading each `%%` as one percent sign leaves what the array holds of the text as it is. -/
def Unchanged (message : CStr) : Prop :=
  ∃ text, singled message = some text ∧
    text.take (MAX_STRING_LEN - 1) = message.take (MAX_STRING_LEN - 1)

/-- In a run that ends in this world, every call passes its texts on as they are, the last
    one that stores a message has set the result's, and a call stores each text with
    which a connection failed. -/
def ErrorsAreData {S : Server} (w : World S) : Prop :=
  (∀ call ∈ errorCalls w.trace, Verbatim call) ∧ w.result.msg = reported w.trace ∧
    ∀ message ∈ connectErrors w.trace, ∃ call ∈ errorCalls w.trace,
      call.message = some (message.take (MAX_STRING_LEN - 1))

section Calls
variable {call : ErrorCall} {message : CStr}

def Spelled (format : CStr) (args : List Arg) : Prop :=
  (format, args.map Arg.conversion) ∈ formats

theorem spelled_at {format : CStr} {args : List Arg} (i : ℕ)
    (h : formats[i]? = some (format, args.map Arg.conversion)) : Spelled format args :=
  List.mem_of_getElem? h

theorem formats_conversions : ∀ f ∈ formats, conversions f.1 = some f.2 := by
  unfold formats tableNameMissing
  repeat rw [String.toList_ofList]
  decide

theorem message_plain (plain : '%' ∉ call.format) :
    call.message = some (call.format.take (MAX_STRING_LEN - 1)) := by
  rw [ErrorCall.message, vsnprintf, consume_plain plain, Option.map_some]

theorem formats_take : ∀ f ∈ formats, '%' ∈ f.1 → (consume f.1 []).isNone = true := by
  unfold formats tableNameMissing
  repeat rw [String.toList_ofList]
  decide

theorem verbatim_spelled (h : Spelled call.format call.args) : Verbatim call := by
  obtain ⟨text, all, strings⟩ := exact_of_conversions (formats_conversions _ h)
  refine ⟨text, ?_, strings, .inl ⟨List.mem_map_of_mem h, all⟩⟩
  rw [ErrorCall.message, vsnprintf, all, Option.map_some]

theorem consume_singled (message : CStr) :
    consume message [] = (singled message).map fun text => (text, []) := by
  induction message using singled.induct with
  | case1 => rfl
  | case2 message ih => rw [consume, singled, ih, Option.map_map, Option.map_map]; rfl
  | case3 message pair =>
    rw [consume, singled, if_pos rfl, if_pos rfl, Option.map_none]
    all_goals simp_all
  | case4 c message pair other ih =>
    rw [consume_other other, ih, singled, if_neg other, Option.map_map, Option.map_map]
    · rfl
    · exact pair

theorem singled_plain (plain : '%' ∉ message) : singled message = some message := by
  have whole : consume message [] = some (message, []) := consume_plain plain
  rw [consume_singled] at whole
  cases h : singled message with
  | none =>
    rw [h] at whole
    cases whole
  | some text =>
    rw [h] at whole
    cases whole
    rfl

theorem unchanged_plain (plain : '%' ∉ message) : Unchanged message :=
  ⟨message, singled_plain plain, rfl⟩

/-- A text that the array holds is left as it is only where it has no percent sign. -/
theorem unchanged_iff_plain (fits : message.length ≤ MAX_STRING_LEN - 1) :
    Unchanged message ↔ '%' ∉ message := by
  refine ⟨?_, unchanged_plain⟩
  rintro ⟨text, single, same⟩
  have all : consume message [] = some (text, []) := by
    rw [consume_singled, single, Option.map_some]
  have counted := consume_length all
  rw [List.take_of_length_le fits, List.take_of_length_le (by omega)] at same
  rw [same] at all
  exact plain_of_consume all

/-- A text in the place of the format is stored as it is exactly where it is unchanged. -/
theorem verbatim_message_iff (hf : call.format = message) (ha : call.args = []) :
    Verbatim call ↔ Unchanged message := by
  subst hf
  have stored : call.message =
      (singled call.format).map fun text => text.take (MAX_STRING_LEN - 1) := by
    rw [ErrorCall.message, vsnprintf, ha, consume_singled, Option.map_map]
    rfl
  constructor
  · rintro ⟨text, message, -, own⟩
    rcases own with ⟨own, all⟩ | ⟨-, rfl⟩
    · obtain ⟨f, hm, he⟩ := List.mem_map.mp own
      refine unchanged_plain fun percent => ?_
      have missing := formats_take f hm (he ▸ percent)
      rw [he, ← ha, all] at missing
      cases missing
    · rw [stored] at message
      obtain ⟨text, single, same⟩ := Option.map_eq_some_iff.mp message
      exact ⟨text, single, same⟩
  · rintro ⟨text, single, same⟩
    refine ⟨call.format, ?_, ?_, .inr ⟨ha, rfl⟩⟩
    · rw [stored, single, Option.map_some, same]
    · intro s hs
      rw [ha] at hs
      cases hs

end Calls

/-- Each call is one that the source spells out or passes on the error of a connection,
    and each such error is one of `T` and is passed on. -/
structure Sound (T : CStr → Prop) (trace : List Event) : Prop where
  calls : ∀ call ∈ errorCalls trace,
    Spelled call.format call.args ∨ '%' ∉ call.format ∧ call.args = [] ∨
      call.format ∈ connectErrors trace ∧ call.args = []
  passed : ∀ message ∈ connectErrors trace,
    ∃ call ∈ errorCalls trace, call.format = message ∧ call.args = []
  refused : ∀ message ∈ connectErrors trace, T message

section Traces
variable {T : CStr → Prop} {t u : List Event}

theorem errorCalls_append : errorCalls (t ++ u) = errorCalls t ++ errorCalls u :=
  List.filterMap_append

theorem connectErrors_append : connectErrors (t ++ u) = connectErrors t ++ connectErrors u :=
  List.filterMap_append

theorem reported_append : reported (t ++ u) = (reported u).or (reported t) := by
  simp only [reported, errorCalls_append, List.filter_append, List.getLast?_append,
    Option.map_or]

theorem sound_nil : Sound T [] where
  calls _ h := by cases h
  passed _ h := by cases h
  refused _ h := by cases h

theorem sound_append (ht : Sound T t) (hu : Sound T u) : Sound T (t ++ u) := by
  refine ⟨?_, ?_, ?_⟩
  · intro call hc
    rw [errorCalls_append, List.mem_append] at hc
    rw [connectErrors_append, List.mem_append]
    rcases hc with hc | hc
    · rcases ht.calls call hc with spelled | plain | ⟨error, args⟩
      · exact .inl spelled
      · exact .inr (.inl plain)
      · exact .inr (.inr ⟨.inl error, args⟩)
    · rcases hu.calls call hc with spelled | plain | ⟨error, args⟩
      · exact .inl spelled
      · exact .inr (.inl plain)
      · exact .inr (.inr ⟨.inr error, args⟩)
  · intro message hm
    rw [connectErrors_append, List.mem_append] at hm
    rw [errorCalls_append]
    rcases hm with hm | hm
    · obtain ⟨call, hc, same⟩ := ht.passed message hm
      exact ⟨call, List.mem_append_left _ hc, same⟩
    · obtain ⟨call, hc, same⟩ := hu.passed message hm
      exact ⟨call, List.mem_append_right _ hc, same⟩
  · intro message hm
    rw [connectErrors_append, List.mem_append] at hm
    exact hm.elim (ht.refused message) (hu.refused message)

/-- A call is undefined only where a text of `T` stands in the place of a format. -/
theorem undefined_refused (h : Sound T t) {call : ErrorCall} (hc : call ∈ errorCalls t)
    (undefined : call.message = none) : T call.format ∧ singled call.format = none := by
  rcases h.calls call hc with spelled | ⟨plain, -⟩ | ⟨error, args⟩
  · obtain ⟨text, message, -⟩ := verbatim_spelled spelled
    rw [message] at undefined
    cases undefined
  · rw [message_plain plain] at undefined
    cases undefined
  · refine ⟨h.refused _ error, ?_⟩
    rw [ErrorCall.message, vsnprintf, args, consume_singled] at undefined
    simpa using undefined

end Traces

/-- What a program adds to the trace is sound, and accounts for the message it leaves. -/
def Told {S : Server} (T : CStr → Prop) (w w' : World S) : Prop :=
  ∃ t, w'.trace = w.trace ++ t ∧ Sound T t ∧ w'.result.msg = (reported t).or w.result.msg

instance {S : Server} {T : CStr → Prop} : Std.Refl (Told (S := S) T) where
  refl _ := ⟨[], (List.append_nil _).symm, sound_nil, rfl⟩

instance {S : Server} {T : CStr → Prop} : IsTrans (World S) (Told T) where
  trans := by
    rintro a b c ⟨t, ht, sound, msg⟩ ⟨u, hu, sound', msg'⟩
    refine ⟨t ++ u, by rw [hu, ht, List.append_assoc], sound_append sound sound', ?_⟩
    rw [msg', msg, reported_append, Option.or_assoc]

section Programs
variable {S : Server} {T : CStr → Prop} {α β : Type}

abbrev Tells (T : CStr → Prop) (m : Agent S α) : Prop := Moves (Told T) m

/-- Asked for this connection, the server refuses it with a text of `T` if at all. -/
def RefusesAt (S : Server) (T : CStr → Prop) (s : S.State) (connstring : CStr) : Prop :=
  ∀ message, (S.connect s connstring).1 = .CONNECTION_BAD message → T message

def Refuses (S : Server) (T : CStr → Prop) : Prop := ∀ s connstring, RefusesAt S T s connstring

theorem told_quiet {w w' : World S} {e : Event} (trace : w'.trace = w.trace ++ [e])
    (msg : w'.result.msg = w.result.msg) (call : callOf e = none)
    (error : connectErrorOf e = none) : Told T w w' := by
  have no_call : errorCalls [e] = [] := by simp [errorCalls, call]
  have no_error : connectErrors [e] = [] := by simp [connectErrors, error]
  refine ⟨[e], trace, ⟨?_, ?_, ?_⟩, ?_⟩
  · rw [no_call]
    exact fun _ h => by cases h
  · rw [no_error]
    exact fun _ h => by cases h
  · rw [no_error]
    exact fun _ h => by cases h
  · rw [reported, no_call, msg]
    rfl

theorem told_same {w w' : World S} (trace : w'.trace = w.trace)
    (msg : w'.result.msg = w.result.msg) : Told T w w' :=
  ⟨[], by rw [trace, List.append_nil], sound_nil, msg⟩

theorem tells_emit {e : Event} (call : callOf e = none) (error : connectErrorOf e = none) :
    Tells T (emit e : Agent S Unit) :=
  fun _ => told_quiet rfl rfl call error

theorem tells_acquire {e : ℕ → Event} (call : ∀ id, callOf (e id) = none)
    (error : ∀ id, connectErrorOf (e id) = none) : Tells T (acquire e : Agent S ℕ) :=
  fun w => told_quiet rfl rfl (call w.fresh) (error w.fresh)

theorem told_call (w : World S) (r : ResultArg) {format : CStr} {args : List Arg}
    (h : Spelled format args ∨ '%' ∉ format ∧ args = []) :
    Told T w (lastState (set_err_result r format args w)) := by
  refine ⟨[.set_err_result r format args], ?_, ⟨?_, ?_, ?_⟩, ?_⟩
  · cases r <;> rfl
  · intro call hc
    cases List.mem_singleton.mp hc
    rcases h with h | h
    · exact .inl h
    · exact .inr (.inl h)
  · exact fun _ h => by cases h
  · exact fun _ h => by cases h
  · cases r <;> rfl

theorem tells_call (r : ResultArg) {format : CStr} {args : List Arg}
    (h : Spelled format args) : Tells T (set_err_result r format args : Agent S Ret) :=
  fun w => told_call w r (.inl h)

theorem tells_connectdb (connstring : CStr) :
    Tells T (PQconnectdb connstring : Agent S (Option PGconn)) := by
  refine moves_bind (fun w => told_same rfl rfl) ?_
  intro reply
  cases reply with
  | outOfMemory => exact moves_bind (tells_emit rfl rfl) fun _ => moves_pure _
  | CONNECTION_BAD message =>
    exact moves_bind (tells_acquire (fun _ => rfl) fun _ => rfl) fun _ => moves_pure _
  | CONNECTION_OK =>
    exact moves_bind (tells_acquire (fun _ => rfl) fun _ => rfl) fun _ => moves_pure _

theorem tells_status (conn : Option PGconn) :
    Tells T (PQstatus conn : Agent S ConnStatusType) := by
  cases conn with
  | none => exact moves_pure _
  | some conn => exact moves_bind (tells_emit rfl rfl) fun _ => moves_pure _

theorem tells_finish (conn : Option PGconn) : Tells T (PQfinish conn : Agent S Unit) := by
  cases conn with
  | none => exact moves_pure _
  | some conn => exact moves_bind (tells_emit rfl rfl) fun _ w => told_same rfl rfl

theorem tells_clear (res : Option PGresult) : Tells T (PQclear res : Agent S Unit) := by
  cases res with
  | none => exact moves_pure _
  | some res => exact tells_emit rfl rfl

theorem tells_clearAndFinish (res : Option PGresult) (conn : Option PGconn) :
    Tells T (clearAndFinish res conn : Agent S Unit) :=
  moves_bind (tells_clear res) fun _ => tells_finish conn

/-- The error of a connection is passed on at once, in the place of a format. -/
theorem tells_connectError (conn : Option PGconn) (r : ResultArg)
    (error : ∀ c, conn = some c → T c.errorMessage) :
    Tells T (PQerrorMessage conn >>= fun message => set_err_result r message [] :
      Agent S Ret) := by
  intro w
  cases conn with
  | none => exact told_call w r (.inr ⟨by decide, rfl⟩)
  | some conn =>
    refine ⟨[.PQerrorMessage conn.id conn.errorMessage,
      .set_err_result r conn.errorMessage []], ?_, ⟨?_, ?_, ?_⟩, ?_⟩
    · cases r <;> exact List.append_assoc _ _ _
    · intro call hc
      cases List.mem_singleton.mp hc
      exact .inr (.inr ⟨List.mem_singleton_self _, rfl⟩)
    · intro message hm
      cases List.mem_singleton.mp hm
      exact ⟨_, List.mem_singleton_self _, rfl, rfl⟩
    · intro message hm
      cases List.mem_singleton.mp hm
      exact error conn rfl
    · cases r <;> rfl

/-- What follows an attempt: its error is passed on where it failed. -/
theorem tells_checked (conn : Option PGconn) (r : ResultArg)
    (error : ∀ c, conn = some c → c.status ≠ .CONNECTION_OK → T c.errorMessage) :
    Tells T (do
      let status ← PQstatus conn
      if status ≠ .CONNECTION_OK then
        let message ← PQerrorMessage conn
        let _ ← set_err_result r message []
        PQfinish conn
        return none
      else
        return conn : Agent S (Option PGconn)) := by
  have passed : (∀ c, conn = some c → T c.errorMessage) →
      Tells T ((PQerrorMessage conn >>= fun message => set_err_result r message []) >>=
        fun _ => (do PQfinish conn; return none) : Agent S (Option PGconn)) := fun h =>
    moves_bind (tells_connectError conn r h) fun _ => moves_bind (tells_finish conn) fun _ =>
      moves_pure _
  simp only [bind_assoc] at passed
  cases conn with
  | none => exact passed fun c hc => by cases hc
  | some conn =>
    rw [PQstatus, bind_assoc]
    refine moves_bind (tells_emit rfl rfl) ?_
    intro _
    rw [pure_bind]
    split
    · next failed =>
      refine passed ?_
      rintro c hc
      cases hc
      exact error conn rfl failed
    · exact moves_pure _

/-- The texts of `T` are all that the attempt at this point can fail with. -/
theorem told_connect (w : World S) (connstring : CStr) (r : ResultArg)
    (refused : RefusesAt S T w.server connstring) :
    Told T w (lastState (pg_connect connstring r w)) := by
  have attempted : ∃ conn w', PQconnectdb connstring w = .ok conn w' ∧
      ∀ c, conn = some c → c.status ≠ .CONNECTION_OK → T c.errorMessage := by
    rw [PQconnectdb]
    change ∃ conn w', EStateM.bind (connectServer connstring) _ w = _ ∧ _
    rw [EStateM.bind, connectServer]
    cases hc : S.connect w.server connstring with
    | mk reply s =>
      rw [RefusesAt, hc] at refused
      cases reply with
      | outOfMemory => exact ⟨_, _, rfl, fun c h => by cases h⟩
      | CONNECTION_BAD message =>
        refine ⟨_, _, rfl, ?_⟩
        rintro c h -
        cases h
        exact refused message rfl
      | CONNECTION_OK =>
        refine ⟨_, _, rfl, ?_⟩
        rintro c h failed
        cases h
        exact absurd rfl failed
  obtain ⟨conn, w', run, error⟩ := attempted
  have first : Told T w (lastState (PQconnectdb connstring w)) := tells_connectdb connstring w
  rw [run] at first
  exact moves_after run first (tells_checked conn r error w')

theorem tells_connect (h : Refuses S T) (connstring : CStr) (r : ResultArg) :
    Tells T (pg_connect connstring r : Agent S (Option PGconn)) :=
  fun w => told_connect w connstring r (h w.server connstring)

theorem tells_append (params : PGparams) (s : Option CStr) :
    Tells T (param_append params s : Agent S PGparams) := by
  match s, params with
  | none, params => exact moves_pure _
  | some [], params => exact moves_pure _
  | some (c :: s), none =>
    exact moves_bind (tells_acquire (fun _ => rfl) fun _ => rfl) fun _ => moves_pure _
  | some (c :: s), some array =>
    exact moves_bind (moves_bind (tells_emit rfl rfl) fun _ => moves_pure _) fun _ =>
      moves_pure _

theorem tells_exec (conn : PGconn) (command : CStr) (params : PGparams) :
    Tells T (pg_exec conn command params : Agent S (Option PGresult)) := by
  have read : Tells T (param_len params : Agent S ℕ) := by
    cases params with
    | none => exact moves_pure _
    | some array => exact moves_bind (tells_emit rfl rfl) fun _ => moves_pure _
  have freed : Tells T (param_free params : Agent S Unit) := by
    cases params with
    | none => exact moves_pure _
    | some array => exact tells_emit rfl rfl
  have sent : Tells T (PQexecParams conn command params : Agent S (Option PGresult)) := by
    refine moves_bind (fun w => told_same rfl rfl) ?_
    intro reply
    cases reply with
    | outOfMemory => exact moves_bind (tells_emit rfl rfl) fun _ => moves_pure _
    | notTuples message =>
      exact moves_bind (tells_acquire (fun _ => rfl) fun _ => rfl) fun _ => moves_pure _
    | PGRES_TUPLES_OK tuples =>
      exact moves_bind (tells_acquire (fun _ => rfl) fun _ => rfl) fun _ => moves_pure _
  exact moves_bind read fun _ => moves_bind sent fun _ => moves_bind freed fun _ =>
    moves_pure _

theorem tells_deref (pointer : Option CStr) : Tells T (deref pointer : Agent S CStr) := by
  cases pointer with
  | none => exact moves_throw _
  | some s => exact moves_pure _

/-- What is called on the way out of a function that failed. -/
theorem tells_failure {format : CStr} {args : List Arg} (h : Spelled format args)
    (res : Option PGresult) (conn : Option PGconn) (a : α) :
    Tells T (do
      let _ ← set_err_result .given format args
      clearAndFinish res conn
      return a : Agent S α) :=
  moves_bind (tells_call .given h) fun _ => moves_bind (tells_clearAndFinish res conn) fun _ =>
    moves_pure a

section Queries
variable {request : AGENT_REQUEST} {w : World S}

theorem told_scalar (refused : RefusesAt S T w.server (requestConnstring request)) (query : CStr)
    (params : PGparams) (bufferlen : ℕ) :
    Told T w (lastState (pg_scalar request query params bufferlen w)) := by
  refine moves_bind_at (told_connect w _ _ refused) ?_
  intro conn
  cases conn with
  | none => exact moves_bind (tells_clearAndFinish _ _) fun _ => moves_pure _
  | some conn =>
    refine moves_bind (tells_exec conn query params) ?_
    intro res
    split
    · exact tells_failure (spelled_at 0 rfl) _ _ _
    · split
      · exact tells_failure (spelled_at 1 rfl) _ _ _
      · exact moves_bind (tells_deref _) fun _ => moves_bind (tells_clearAndFinish _ _) fun _ =>
          moves_pure _

theorem told_result (refused : RefusesAt S T w.server (requestConnstring request))
    (type : ResultType) (query : CStr) (params : PGparams) :
    Told T w (lastState (pg_get_result request type query params w)) := by
  refine moves_bind_at (told_scalar refused query params MAX_STRING_LEN) ?_
  rintro ⟨code, value⟩
  dsimp only
  split
  · exact moves_pure _
  · cases type with
    | AR_STRING | AR_UINT64 | AR_DOUBLE =>
      exact moves_bind (fun w => told_same rfl rfl) fun _ => moves_pure _
    | unsupported type =>
      exact moves_bind (tells_call .given (spelled_at 2 rfl)) fun _ =>
        moves_pure _

theorem tells_jsonInit : Tells T (zbx_json_init : Agent S zbx_json) :=
  moves_bind (tells_acquire (fun _ => rfl) fun _ => rfl) fun _ => moves_pure _

theorem told_discovery (refused : RefusesAt S T w.server (requestConnstring request))
    (query : CStr) (params : PGparams) :
    Told T w (lastState (pg_get_discovery request query params w)) := by
  refine moves_bind_at (told_connect w _ _ refused) ?_
  intro conn
  cases conn with
  | none => exact moves_bind (tells_clearAndFinish _ _) fun _ => moves_pure _
  | some conn =>
    refine moves_bind (tells_exec conn query params) ?_
    intro res
    dsimp only
    cases resultTuples res with
    | none => exact tells_failure (spelled_at 7 rfl) _ _ _
    | some tuples =>
      exact moves_bind tells_jsonInit fun _ => moves_bind (fun w => told_same rfl rfl) fun _ =>
        moves_bind (tells_emit rfl rfl) fun _ => moves_bind (tells_clearAndFinish _ _) fun _ =>
        moves_pure _

end Queries

theorem tells_version (h : Refuses S T) (request : AGENT_REQUEST) :
    Tells T (pg_version request : Agent S ℤ) := by
  refine moves_bind (fun w => told_scalar (h _ _) _ none MAX_STRING_LEN) ?_
  rintro ⟨code, buffer⟩
  dsimp only
  split <;> exact moves_pure _

theorem tells_readNames (res : Option PGresult) (n : ℕ) :
    Tells T (readNames res n : Agent S (List CStr)) := by
  induction n with
  | zero => exact moves_pure _
  | succ n ih => exact moves_bind ih fun _ => moves_bind (tells_deref _) fun _ => moves_pure _

theorem tells_databases (h : Refuses S T) (request : AGENT_REQUEST) :
    Tells T (pg_get_databases request : Agent S (Option CStr)) := by
  refine moves_bind (tells_connect h _ _) ?_
  intro conn
  cases conn with
  | none => exact moves_bind (tells_clearAndFinish _ _) fun _ => moves_pure _
  | some conn =>
    refine moves_bind (tells_exec conn _ none) ?_
    intro res
    split
    · exact tells_failure (spelled_at 6 rfl) _ _ _
    · exact moves_bind (tells_readNames res _) fun _ =>
        moves_bind (tells_clearAndFinish _ _) fun _ => moves_pure _

theorem tells_wideLoop (h : Refuses S T) (connstring : Option CStr) (query : CStr)
    (params : PGparams) (dbs : List CStr) (j : zbx_json) :
    Tells T (wideLoop connstring query params dbs j : Agent S _) := by
  induction dbs generalizing j with
  | nil => exact moves_pure _
  | cons db dbs ih =>
    refine moves_bind (tells_connect h _ _) ?_
    intro conn
    cases conn with
    | none => exact moves_pure _
    | some conn =>
      refine moves_bind (tells_exec conn query params) ?_
      intro res
      dsimp only
      cases resultTuples res with
      | none =>
        exact moves_bind (tells_call .given (spelled_at 7 rfl))
          fun _ => moves_pure _
      | some tuples =>
        exact moves_bind (tells_clear res) fun _ => moves_bind (tells_finish _) fun _ => ih _

theorem tells_wide (h : Refuses S T) (request : AGENT_REQUEST) (query : CStr) (params : PGparams) :
    Tells T (pg_get_discovery_wide request query params : Agent S Ret) := by
  have out : ∀ (conn : Option PGconn) (ret : Ret), Tells T (wideOut conn ret : Agent S Ret) :=
    fun conn _ => moves_bind (tells_finish conn) fun _ => moves_pure _
  refine moves_bind (tells_databases h request) ?_
  intro databases
  cases databases with
  | none => exact out none _
  | some databases =>
    refine moves_bind tells_jsonInit ?_
    intro j
    refine moves_bind (tells_wideLoop h _ query params _ _) ?_
    intro done
    cases done with
    | error conn => exact out conn _
    | ok j =>
      exact moves_bind (fun w => told_same rfl rfl) fun _ =>
        moves_bind (tells_emit rfl rfl) fun _ => out none _

theorem tells_readSetting (h : Refuses S T) (request : AGENT_REQUEST) (setting : Option CStr) :
    Tells T (readSetting request setting : Agent S Ret) := by
  refine moves_bind (tells_connect h _ _) ?_
  intro conn
  cases conn with
  | none => exact moves_bind (tells_clearAndFinish _ _) fun _ => moves_pure _
  | some conn =>
    refine moves_bind (tells_append none setting) ?_
    intro params
    refine moves_bind (tells_exec conn _ params) ?_
    intro res
    split
    · exact tells_failure (spelled_at 7 rfl) _ _ _
    · split
      · exact moves_bind (tells_clearAndFinish _ _) fun _ => moves_pure _
      · refine moves_bind (tells_deref _) fun value => moves_bind (tells_deref _) fun type =>
          moves_bind ?_ fun _ => moves_bind (tells_clearAndFinish _ _) fun _ => moves_pure _
        unfold setSetting
        split
        · exact fun w => told_same rfl rfl
        · split <;> exact fun w => told_same rfl rfl

theorem tells_readIndexStat (h : Refuses S T) (request : AGENT_REQUEST) (query : CStr)
    (index : Option CStr) :
    Tells T (readIndexStat request query index : Agent S Ret) := by
  refine moves_bind (tells_connect h _ _) ?_
  intro conn
  cases conn with
  | none => exact moves_bind (tells_clearAndFinish _ _) fun _ => moves_pure _
  | some conn =>
    refine moves_bind (tells_append none index) ?_
    intro params
    refine moves_bind (tells_exec conn _ params) ?_
    intro res
    split
    · exact tells_failure (spelled_at 7 rfl) _ _ _
    · split
      · exact tells_failure (spelled_at 9 rfl) _ _ _
      · exact moves_bind (tells_deref _) fun _ => moves_bind (fun w => told_same rfl rfl)
          fun _ => moves_bind (tells_clearAndFinish _ _) fun _ => moves_pure _

theorem tells_ping (h : Refuses S T) (request : AGENT_REQUEST) :
    Tells T (PG_CONNECT request : Agent S Ret) := by
  refine moves_bind (tells_connect h _ _) ?_
  intro conn
  cases conn with
  | none => exact moves_bind (fun w => told_same rfl rfl) fun _ => moves_pure _
  | some conn =>
    refine moves_bind (tells_status _) ?_
    intro status
    split
    · exact moves_bind (fun w => told_same rfl rfl) fun _ => moves_bind (tells_finish _) fun _ =>
        moves_pure _
    · exact moves_bind (fun w => told_same rfl rfl) fun _ => moves_pure _

def Rejects : Steps → Prop
  | .reject format args => Spelled format args
  | .fault _ => True
  | .append _ next => Rejects next
  | .version next => ∀ v, Rejects (next v)
  | .scalar _ _ => True
  | .discovery _ => True

def PlanRejects : Plan → Prop
  | .steps steps => Rejects steps
  | _ => True

section Plans
variable {g : Globals} {request : AGENT_REQUEST}

theorem rejects_requireName {message : CStr} {found : Option CStr → Steps}
    (h : Spelled message []) (hf : ∀ name, Rejects (found name)) :
    PlanRejects (requireNamePlan request message found) := by
  unfold requireNamePlan
  dsimp only
  split
  · exact h
  · exact hf _

theorem rejects_mode (query : CStr) : PlanRejects (modePlan request query) := by
  unfold modePlan
  dsimp only
  split
  · trivial
  · split
    · trivial
    · exact spelled_at 8 rfl

theorem rejects_optionalName (type : ResultType) (all one : CStr) :
    PlanRejects (optionalNamePlan request type all one) := by
  unfold optionalNamePlan
  dsimp only
  split <;> trivial

theorem rejects_write (buf formatted : CStr) {next : CStr → Steps}
    (h : ∀ buf, Rejects (next buf)) : Rejects (writeSteps buf formatted next) := by
  unfold writeSteps
  dsimp only
  split
  · trivial
  · exact h _

theorem rejects_filters (inet_pton : AddressFamily → CStr → Bool) {next : CStr → Steps}
    (h : ∀ buf, Rejects (next buf)) (is : List ℕ) (buf clause : CStr) (pgi : ℕ) :
    Rejects (filterSteps inet_pton request is buf clause pgi next) := by
  induction is generalizing buf clause pgi with
  | nil => exact h buf
  | cons i is ih =>
    unfold filterSteps
    rcases get_rparam request (PARAM_FIRST + i) with _ | _ | ⟨d, param⟩
    · exact ih _ _ _
    · exact ih _ _ _
    · dsimp only
      split
      · exact rejects_write _ _ fun _ => ih _ _ _
      · cases waitingText (d :: param) with
        | none => exact spelled_at 3 rfl
        | some condition => exact rejects_write _ _ fun _ => ih _ _ _

theorem rejects_appendAll (params : List (Option CStr)) {next : Steps} (h : Rejects next) :
    Rejects (appendAll params next) := by
  induction params with
  | nil => exact h
  | cons param params ih => exact ih

/-- The types of the keys in the table are all known, so that the call that passes a
    character for a string is never reached. -/
theorem keys_types : ∀ metric ∈ keys, metric.function = .PG_QUERY →
    0 = strncmp (metric.key.drop 9) "string".toList 5 ∨
    0 = strncmp (metric.key.drop 9) "integer".toList 7 ∨
    0 = strncmp (metric.key.drop 9) "double".toList 6 ∨
    0 = strncmp (metric.key.drop 9) "discovery".toList 9 := by decide

theorem rejects_query {metric : ZBX_METRIC} (listed : metric ∈ keys)
    (function : metric.function = .PG_QUERY) (asked : request.key = metric.key)
    (queries : Table) : Rejects (querySteps queries request) := by
  have type := keys_types metric listed function
  unfold querySteps
  match get_rparam request PARAM_FIRST with
  | none => exact spelled_at 11 rfl
  | some [] => exact spelled_at 11 rfl
  | some (c :: queryKey) =>
    dsimp only
    cases get_query_by_name queries (c :: queryKey) with
    | none => exact True.intro
    | some found =>
      refine rejects_appendAll _ ?_
      rw [asked]
      unfold queryTypeSteps
      split
      · exact True.intro
      · split
        · exact True.intro
        · split
          · exact True.intro
          · split
            · exact True.intro
            · tauto

theorem plan_rejects {metric : ZBX_METRIC} (listed : metric ∈ keys)
    (asked : request.key = metric.key) :
    PlanRejects (plan g request metric.function) := by
  have query : metric.function = .PG_QUERY → request.key = metric.key → ∀ queries,
      Rejects (querySteps queries request) := rejects_query listed
  generalize metric.function = f at *
  cases f with
  | PG_QUERY => exact query rfl asked g.queries
  | PG_SETTING =>
    simp only [plan, settingPlan]
    split
    · exact spelled_at 12 rfl
    · trivial
  | PG_BACKENDS_COUNT =>
    intro version
    refine rejects_filters g.inet_pton ?_ _ _ _ _
    exact fun _ => trivial
  | PG_QUERIES_LONGEST =>
    refine rejects_filters g.inet_pton ?_ _ _ _ _
    exact fun _ _ => trivial
  | PG_STAT_BGWRITER =>
    simp only [plan, bgwriterPlan]
    split
    · trivial
    · split <;> trivial
  | PG_BG_TIME_RATIO =>
    simp only [plan, timeRatioPlan]
    split
    · exact spelled_at 4 rfl
    · trivial
  | PG_NAMESPACE_DISCOVERY | PG_TABLE_DISCOVERY => exact rejects_mode _
  | PG_INDEX_DISCOVERY =>
    simp only [plan, indexDiscoveryPlan]
    split
    · trivial
    · exact rejects_mode _
  | PG_TABLE_CHILDREN_DISCOVERY => exact rejects_requireName (spelled_at 13 rfl) fun _ => trivial
  | PG_TABLE_CHILDREN | PG_TABLE_CHILDREN_SIZE | PG_TABLE_CHILDREN_ROWS =>
    exact rejects_requireName (spelled_at 14 rfl) fun _ => trivial
  | PG_TABLESPACE_SIZE => exact rejects_requireName (spelled_at 15 rfl) fun _ => trivial
  | PG_NAMESPACE_SIZE => exact rejects_requireName (spelled_at 10 rfl) fun _ => trivial
  | PG_STAT_DATABASE =>
    simp only [plan, statDatabasePlan]
    split
    · split
      · exact spelled_at 5 rfl
      · trivial
    · split <;> trivial
  | PG_STAT_ALL_TABLES =>
    simp only [plan, statAllTablesPlan]
    split
    · split
      · exact spelled_at 13 rfl
      · trivial
    · trivial
  | PG_PREPARED_XACTS_COUNT | PG_PREPARED_XACTS_AGE | PG_INDEX_SIZE | PG_DB_BLKS_RATIO
  | PG_TABLE_IDX_SCAN_RATIO | PG_TABLE_HEAP_BLKS_RATIO | PG_TABLE_IDX_BLKS_RATIO
  | PG_TABLE_TOAST_BLKS_RATIO | PG_TABLE_TIDX_BLKS_RATIO | PG_INDEX_IDX_BLKS_RATIO =>
    exact rejects_optionalName _ _ _
  | PG_TABLESPACE_DISCOVERY => exact fun _ => trivial
  | PG_BACKENDS_RATIO => exact fun _ => trivial
  | _ => exact True.intro

end Plans

theorem tells_steps (h : Refuses S T) (request : AGENT_REQUEST) {steps : Steps}
    (rejects : Rejects steps) (params : PGparams) :
    Tells T (steps.run request params : Agent S Ret) := by
  induction steps generalizing params with
  | reject format args => exact moves_bind (tells_call .given rejects) fun _ => moves_pure _
  | fault e => exact moves_throw e
  | append param next ih =>
    exact moves_bind (tells_append params param) fun _ => ih rejects _
  | version next ih =>
    refine moves_bind (tells_version h request) ?_
    intro version
    split
    · exact moves_pure _
    · exact ih _ (rejects _) params
  | scalar type query => exact fun w => told_result (h _ _) type query params
  | discovery query => exact fun w => told_discovery (h _ _) query params

theorem append_run (params : PGparams) (s : Option CStr) (w : World S) :
    ∃ params' w', param_append params s w = .ok params' w' ∧ w'.server = w.server := by
  rcases s with _ | _ | ⟨c, s⟩
  · exact ⟨_, _, rfl, rfl⟩
  · exact ⟨_, _, rfl, rfl⟩
  · cases params <;> exact ⟨_, _, rfl, rfl⟩

/-- Without a version query at most one connection is attempted. -/
theorem told_steps {request : AGENT_REQUEST} {steps : Steps} (once : Unversioned steps)
    (rejects : Rejects steps) {w : World S}
    (refused : RefusesAt S T w.server (requestConnstring request)) (params : PGparams) :
    Told T w (lastState (steps.run request params w)) := by
  induction once generalizing w params with
  | reject format args =>
    have told : Tells T ((Steps.reject format args).run request params : Agent S Ret) :=
      moves_bind (tells_call .given rejects) fun _ => moves_pure _
    exact told w
  | fault e => exact moves_throw e w
  | append param rest ih =>
    obtain ⟨params', w', run, server⟩ := append_run params param w
    have first : Told T w (lastState (param_append params param w)) :=
      tells_append params param w
    rw [run] at first
    exact moves_after run first (ih rejects (server ▸ refused) params')
  | scalar type query => exact told_result refused type query params
  | discovery query => exact told_discovery refused query params

theorem tells_plan (h : Refuses S T) (request : AGENT_REQUEST) {plan : Plan}
    (rejects : PlanRejects plan) : Tells T (plan.run request : Agent S Ret) := by
  cases plan with
  | steps steps => exact tells_steps h request rejects none
  | report value => exact moves_bind (fun w => told_same rfl rfl) fun _ => moves_pure _
  | ping => exact tells_ping h request
  | wide query => exact tells_wide h request query none
  | setting name => exact tells_readSetting h request name
  | indexStat query index => exact tells_readIndexStat h request query index

end Programs

section Main
variable {S : Server} {g : Globals} {metric : ZBX_METRIC} {request : AGENT_REQUEST}
  {server : S.State}

theorem call_tells {T : CStr → Prop} (h : Refuses S T) (listed : metric ∈ keys)
    (asked : request.key = metric.key) :
    Tells T (call g request metric.function : Agent S Ret) := by
  rw [call_run]
  exact tells_plan h request (plan_rejects listed asked)

theorem refuses_any : Refuses S fun _ => True := fun _ _ _ _ => trivial

/-- An error of a connection that the format would change is not passed on. -/
theorem changed_not_data (listed : metric ∈ keys) (asked : request.key = metric.key)
    {message : CStr} (failed : message ∈ connectErrors
      (lastState (call g request metric.function (World.start server))).trace)
    (changed : ¬ Unchanged message) :
    ¬ ErrorsAreData (lastState (call g request metric.function (World.start server))) := by
  rintro ⟨calls, -⟩
  obtain ⟨t, trace, sound, -⟩ := call_tells refuses_any listed asked (World.start server)
  have trace : _ = t := trace
  rw [trace] at calls failed
  obtain ⟨call, hc, format, args⟩ := sound.passed message failed
  exact changed ((verbatim_message_iff format args).mp (calls call hc))

/-- In a run of any key of the table, error texts are passed on as data exactly where each
    text with which a connection failed comes through the format unchanged. -/
theorem errors_are_data_iff (g : Globals) (listed : metric ∈ keys)
    (asked : request.key = metric.key) (S : Server) (server : S.State) :
    ErrorsAreData (lastState (call g request metric.function (World.start server))) ↔
      ∀ message ∈ connectErrors
        (lastState (call g request metric.function (World.start server))).trace,
        Unchanged message := by
  constructor
  · intro data message failed
    by_contra changed
    exact changed_not_data listed asked failed changed data
  · intro unchanged
    have told : Told (fun _ => True) (World.start server)
        (lastState (call g request metric.function (World.start server))) :=
      call_tells refuses_any listed asked (World.start server)
    obtain ⟨t, trace, sound, msg⟩ := told
    generalize lastState (call g request metric.function (World.start server)) = w at *
    have trace : w.trace = t := trace
    unfold ErrorsAreData
    rw [trace] at unchanged ⊢
    refine ⟨?_, msg.trans Option.or_none, ?_⟩
    · intro call hc
      rcases sound.calls call hc with spelled | ⟨own, args⟩ | ⟨error, args⟩
      · exact verbatim_spelled spelled
      · exact (verbatim_message_iff rfl args).mpr (unchanged_plain own)
      · exact (verbatim_message_iff rfl args).mpr (unchanged _ error)
    · intro message hm
      obtain ⟨call, hc, rfl, args⟩ := sound.passed message hm
      obtain ⟨text, single, same⟩ := unchanged _ hm
      refine ⟨call, hc, ?_⟩
      rw [ErrorCall.message, vsnprintf, args, consume_singled, single]
      exact congrArg some same

def refusing (message : CStr) : scripted.State :=
  ([(.CONNECTION_BAD message, .outOfMemory)] : List (ConnectReply × ExecReply))

def versionRequest : AGENT_REQUEST := ⟨"pg.version".toList, []⟩

theorem errors_are_data_iff_refused :
    ErrorsAreData (lastState (call defaults versionRequest .PG_VERSION
        (World.start (refusing "no password supplied".toList)))) ↔
      ∀ message ∈ connectErrors (lastState (call defaults versionRequest .PG_VERSION
        (World.start (refusing "no password supplied".toList)))).trace, Unchanged message :=
  errors_are_data_iff defaults
    (List.mem_of_getElem? (i := 2) rfl : ⟨"pg.version".toList, .PG_VERSION⟩ ∈ keys) rfl
    scripted (refusing "no password supplied".toList)

def percentError : CStr := "database \"50%s\" does not exist".toList

/-- The format asks for an argument that is not there. -/
theorem percent_in_database_name :
    (lastState (call defaults versionRequest .PG_VERSION
      (World.start (refusing percentError)))).result.msg = some none ∧
    ¬ ErrorsAreData (lastState (call defaults versionRequest .PG_VERSION
      (World.start (refusing percentError)))) := by
  refine ⟨by decide, ?_⟩
  exact changed_not_data
    (List.mem_of_getElem? (i := 2) rfl : ⟨"pg.version".toList, .PG_VERSION⟩ ∈ keys) rfl
    (List.mem_singleton_self percentError) fun unchanged => by
      rw [unchanged_iff_plain (by decide)] at unchanged
      exact unchanged (by decide)

end Main

end LibZbxPgsql.ErrorTexts
