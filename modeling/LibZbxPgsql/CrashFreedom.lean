import LibZbxPgsql.AgentRuns
import LibZbxPgsql.PlanShapes
import LibZbxPgsql.ErrorTexts

set_option autoImplicit false

/-! A handler reads a fixed number of columns of the first row without looking whether they
are there, and formats the text of a refused connection without arguments. Where the server
returns that many columns and refuses with texts that ask for no argument, the configuration
was loaded and the filters of an index discovery fit their buffer, no request goes through
undefined behaviour. -/
namespace LibZbxPgsql.CrashFreedom
open StateFaultWp CStrings AgentModel Connections Drivers Discovery QueryKeys ItemKeys
open NamedQueries NamedQueryTable Dialogues WorldView Sessions DialogueRefinement
open DriverDialogues HandlerPlans KeyPlans HandleDiscipline ActivityClauses QueryBinding
open PrintfFormat ResultDiscipline PlanShapes AgentRuns
open ErrorTexts hiding refusing

/-- How many columns of the first row are read without looking. -/
def columnsRead (command : CStr) : ℕ := if command = PGSQL_GET_SETTING then 2 else 1

/-- Every table the server returns has as many columns as are read of it. -/
def WideEnough (S : Server) : Prop :=
  ∀ s connstring command params tuples,
    (S.exec s connstring command params).1 = .PGRES_TUPLES_OK tuples →
      columnsRead command ≤ tuples.fields.length

def allowed : Question → Reply → Prop
  | .query _ command _, .answered tuples => columnsRead command ≤ tuples.fields.length
  | _, _ => True

def NoFault {β : Type} : Except Fault β → Prop
  | .ok _ => True
  | .error _ => False

theorem session_allowed {S : Server} (wide : WideEnough S) (s : S.State) (q : Question) :
    allowed q (session S s q).1 := by
  cases q with
  | ping connstring => cases (session S s (.ping connstring)).1 <;> trivial
  | query connstring command params =>
    cases hr : refusal S s connstring with
    | mk message s' =>
      cases message with
      | some m =>
        rw [session_refused hr]
        trivial
      | none =>
        rw [session_opened hr]
        cases he : (S.exec s' connstring command params).1 with
        | outOfMemory | notTuples m => trivial
        | PGRES_TUPLES_OK tuples => exact wide _ _ _ _ _ he

theorem columnsRead_pos (command : CStr) : 0 < columnsRead command := by
  unfold columnsRead
  split <;> decide

/-- The first row of a table that is wide enough has a first cell. -/
theorem first_cell {tuples : Tuples} {command : CStr} {row : List (Option CStr)}
    (wide : columnsRead command ≤ tuples.fields.length) (h : row ∈ tuples.rows) : row ≠ [] := by
  have len := tuples.width row h
  have pos := columnsRead_pos command
  rintro rfl
  rw [List.length_nil] at len
  omega

section Drivers
variable {request : AGENT_REQUEST}

theorem andThen_noFault {β γ : Type} {d : Asks γ} {f : γ → Asks β}
    (h : EndsIf allowed NoFault d) (hf : ∀ b, EndsIf allowed NoFault (f b)) :
    EndsIf allowed NoFault (andThen d f) := by
  refine endsIf_bind ?_
  induction d with
  | done r =>
    cases r with
    | ok b => exact hf b
    | error e => exact h.elim
  | ask q next ih => exact fun a ha => ih a (h a ha)

theorem scalarAsk_noFault (query : CStr) (params : List CStr) (n : ℕ) :
    EndsIf allowed NoFault (scalarAsk request query params n) := by
  intro reply ok
  cases reply with
  | refused m | noResult | failed m => trivial
  | answered tuples =>
    simp only [EndsIf, scalarEnd]
    rcases hrows : tuples.rows with _ | ⟨_ | ⟨x, row⟩, rows⟩
    · trivial
    · exact absurd rfl (first_cell ok (hrows ▸ List.mem_cons_self))
    · trivial

/-- The steps of a handler end in no fault, once every name resolves. -/
theorem shape_noFault {g : Globals} {n : ℕ} {steps : Steps} (h : Shape g request n steps)
    (resolved : ∀ key, get_query_by_name g.queries key ≠ none) (params : List CStr) :
    EndsIf allowed NoFault (steps.dialogue request params) := by
  induction h generalizing params with
  | reject n format args => trivial
  | unresolved n key lost => exact absurd lost (resolved key)
  | append param rest ih => exact ih _
  | version rest ih =>
    refine andThen_noFault (scalarAsk_noFault _ _ _) ?_
    intro e
    cases e with
    | refused m | failed m => trivial
    | value text =>
      simp only [afterVersion]
      split
      · trivial
      · exact ih _ params
  | activity rest ih =>
    rw [activitySteps_dialogue]
    cases activityText g.inet_pton request with
    | none => trivial
    | some clause => exact ih clause _
  | scalar n type query => exact andThen_noFault (scalarAsk_noFault _ _ _) fun _ => trivial
  | discovery n query => exact fun reply _ => trivial

theorem wideAsk_noFault (connstring : Option CStr) (query : CStr) (dbs : List CStr)
    (data : List Json) : EndsIf allowed NoFault (wideAsk connstring query dbs data) := by
  induction dbs generalizing data with
  | nil => trivial
  | cons db dbs ih =>
    intro reply _
    cases reply with
    | refused m | noResult | failed m => trivial
    | answered tuples => exact ih _

theorem firstColumn_wide {tuples : Tuples} (wide : ∀ row ∈ tuples.rows, row ≠ []) :
    firstColumn tuples ≠ none := by
  rw [firstColumn]
  generalize tuples.rows = l at wide
  induction l with
  | nil => simp
  | cons row l ih =>
    rcases row with _ | ⟨x, row⟩
    · exact absurd rfl (wide [] List.mem_cons_self)
    · have rest := ih fun row h => wide row (List.mem_cons_of_mem _ h)
      obtain ⟨names, hn⟩ := Option.ne_none_iff_exists'.mp rest
      simp [List.mapM_cons, hn]

theorem wide_noFault (query : CStr) :
    EndsIf allowed NoFault (discoveryWideAsk request query) := by
  refine andThen_noFault ?_ ?_
  · intro reply ok
    cases reply with
    | refused m | noResult | failed m => trivial
    | answered tuples =>
      simp only [EndsIf, databasesEnd]
      split
      · trivial
      · cases hf : firstColumn tuples with
        | none => exact absurd hf (firstColumn_wide fun row h => first_cell ok h)
        | some names => trivial
  · intro names
    cases names with
    | error m => trivial
    | ok names => exact wideAsk_noFault _ _ _ _

theorem setting_noFault (name : Option CStr) :
    EndsIf allowed NoFault (settingAsk request name) := by
  intro reply ok
  cases reply with
  | refused m | noResult | failed m => trivial
  | answered tuples =>
    have two : 2 ≤ tuples.fields.length := by simpa [allowed, columnsRead] using ok
    simp only [EndsIf, settingEnd]
    rcases hrows : tuples.rows with _ | ⟨_ | ⟨value, _ | ⟨type, row⟩⟩, rows⟩
    · trivial
    · have len := tuples.width [] (hrows ▸ List.mem_cons_self)
      rw [List.length_nil] at len
      omega
    · have len := tuples.width [value] (hrows ▸ List.mem_cons_self)
      rw [List.length_singleton] at len
      omega
    · trivial

theorem indexStat_noFault (query : CStr) (index : Option CStr) :
    EndsIf allowed NoFault (indexStatAsk request query index) := by
  intro reply ok
  cases reply with
  | refused m | noResult | failed m => trivial
  | answered tuples =>
    simp only [EndsIf, indexStatEnd]
    rcases hrows : tuples.rows with _ | ⟨_ | ⟨x, row⟩, rows⟩
    · trivial
    · exact absurd rfl (first_cell ok (hrows ▸ List.mem_cons_self))
    · trivial

/-- A plan ends in a fault only where the filters of an index discovery do not fit. -/
theorem plan_noFault {g : Globals} {f : Handler} {plan : Plan} (shape : PlanShape g request f plan)
    (resolved : ∀ key, get_query_by_name g.queries key ≠ none)
    (fits : f = .PG_INDEX_DISCOVERY → IndexFilters.Fits request) :
    EndsIf allowed NoFault (plan.dialogue request) := by
  cases shape with
  | steps shape => exact shape_noFault shape resolved []
  | overrun index full => exact absurd (fits index) full
  | report value => trivial
  | ping => exact fun reply _ => trivial
  | wide deep query => exact wide_noFault query
  | setting name => exact setting_noFault name
  | indexStat query index => exact indexStat_noFault query index

end Drivers

section Life
variable {S : Server} {g : Globals} {root : List Setting}

theorem handle_returns {item : Item} (wide : WideEnough S)
    (resolved : ∀ key, get_query_by_name g.queries key ≠ none)
    (fits : item.metric.function = .PG_INDEX_DISCOVERY → IndexFilters.Fits item.request)
    (s : S.State) (e : Fault) :
    (played S g item.request item.metric.function s).result ≠ .error e := by
  intro result
  have ended : NoFault (played S g item.request item.metric.function s).result :=
    endsIf_play (session_allowed wide)
      (plan_noFault (plan_shape g item.request item.metric.function) resolved fits) s
  rw [result] at ended
  exact ended

theorem serve_told {T : CStr → Prop} (h : Refuses S T) (items : List Item) (w : World S) :
    ∃ t, (serve g items w).2.trace = w.trace ++ t ∧ Sound T t := by
  induction items generalizing w with
  | nil => exact ⟨[], (List.append_nil _).symm, sound_nil⟩
  | cons item items ih =>
    have told : Told T { w with result := .empty } (lastState (handle g item w)) :=
      call_tells h item.listed item.asked _
    obtain ⟨t, trace, sound, -⟩ := told
    cases run : handle g item w with
    | ok ret w' =>
      rw [run] at trace
      obtain ⟨u, rest, sound'⟩ := ih w'
      simp only [serve, run]
      refine ⟨t ++ u, ?_, sound_append sound sound'⟩
      rw [rest, ← List.append_assoc]
      exact congrArg (· ++ u) trace
    | error e w' =>
      rw [run] at trace
      simp only [serve, run]
      exact ⟨t, trace, sound⟩

/-- Against a server that refuses with texts that ask for no argument, no call is undefined. -/
theorem serve_defined (h : Refuses S fun message => singled message ≠ none) (items : List Item)
    (server : S.State) : ∀ call ∈ errorCalls (serve g items (World.start server)).2.trace,
      call.message ≠ none := by
  obtain ⟨t, trace, sound⟩ := serve_told (g := g) h items (World.start server)
  have trace : _ = t := trace
  rw [trace]
  intro call hc undefined
  obtain ⟨asksNothing, asks⟩ := undefined_refused sound hc undefined
  exact asksNothing asks

theorem serve_survives (loaded : Loaded root g.queries) (wide : WideEnough S)
    (items : List Item) (fits : ∀ item ∈ items, item.metric.function = .PG_INDEX_DISCOVERY →
      IndexFilters.Fits item.request) (server : S.State) :
    Survived (serve g items (World.start server)).1 := by
  have resolved : ∀ key, get_query_by_name g.queries key ≠ none := by
    intro key
    rw [(loaded_resolves loaded key).1]
    exact Option.some_ne_none _
  rw [(requests_alike items (shows_start server) (fun _ hx => by cases hx)).1]
  induction items generalizing server with
  | nil =>
    intro e he
    cases he
  | cons item items ih =>
    have start := shows_start (S := S) server
    rcases handle_cases g item start (fun _ hx => by cases hx) with
      ⟨o, w, v, -, run, -⟩ | ⟨e, w, result, -⟩
    · simp only [alone, run, List.map_cons]
      intro e he
      rcases List.mem_cons.mp he with first | rest
      · cases first
      · exact ih (fun item h => fits item (List.mem_cons_of_mem _ h)) w.server e rest
    · exact absurd result (handle_returns wide resolved (fits item List.mem_cons_self) server e)

end Life

def settled : Server where
  State := Unit
  connect _ connstring :=
    if connstring = "dbname=half%%".toList then
      (.CONNECTION_BAD "database \"half%%\" does not exist".toList, ())
    else (.CONNECTION_OK, ())
  exec _ _ _ _ := (.PGRES_TUPLES_OK ⟨["setting".toList, "vartype".toList],
    [[some "100".toList, some "integer".toList]], by decide⟩, ())
  finish _ := ()

section UserQueries
variable {S : Server} {g : Globals} {root : List Setting} {request : AGENT_REQUEST}
  {metric : ZBX_METRIC}

theorem call_faults_iff (f : Handler) (server : S.State) :
    (∃ e w, call g request f (World.start server) = .error e w) ↔
      ∃ e, (played S g request f server).result = .error e := by
  have realised := call_realises S g request f server
  unfold Realises wp at realised
  cases run : call g request f (World.start server) with
  | ok ret w =>
    rw [run] at realised
    obtain ⟨o, v, result, -⟩ := realised
    rw [played, result]
    simp
  | error e w =>
    rw [run] at realised
    rw [played, realised.1]
    simp

def Bare (reply : Reply) : Prop :=
  ∃ tuples, reply = .answered tuples ∧ tuples.fields = [] ∧ tuples.rows ≠ []

theorem scalar_faults_iff (query : CStr) (params : List CStr) (type : ResultType)
    (s : S.State) :
    (∃ e, (play (session S) (resultAsk request type query params) s).result = .error e) ↔
      Bare (session S s (.query (requestConnstring request) query params)).1 := by
  rw [resultAsk, scalarAsk, andThen, Dialogue.bind, play_ask]
  generalize session S s (.query (requestConnstring request) query params) = x
  obtain ⟨reply, s'⟩ := x
  cases reply with
  | refused m | noResult | failed m => simp [Dialogue.bind, scalarEnd, Bare]
  | answered tuples =>
    rcases hrows : tuples.rows with _ | ⟨_ | ⟨x, row⟩, rows⟩
    · simp [Dialogue.bind, scalarEnd, Bare, hrows]
    · have len := tuples.width [] (hrows ▸ List.mem_cons_self)
      have bare : tuples.fields = [] := List.eq_nil_of_length_eq_zero len.symm
      simp [Dialogue.bind, scalarEnd, Bare, hrows, bare]
    · have len := tuples.width (x :: row) (hrows ▸ List.mem_cons_self)
      have wide : tuples.fields ≠ [] := by
        intro bare
        rw [bare] at len
        cases len
      simp [Dialogue.bind, scalarEnd, Bare, hrows, wide]

/-- The query is sent and answered with rows that have no columns. -/
def AnsweredBare (S : Server) (root : List Setting) (request : AGENT_REQUEST)
    (server : S.State) : Prop :=
  ∃ key, get_rparam request PARAM_FIRST = some key ∧ key ≠ [] ∧
    Bare (session S server (.query (requestConnstring request)
      ((configured root key).getD key) (givenParams request))).1

/-- A user query faults exactly where one value is asked for and the answer has rows but no
    columns. -/
theorem user_query_faults_iff (listed : metric ∈ keys) (hf : metric.function = .PG_QUERY)
    (asked : request.key = metric.key) (loaded : Loaded root g.queries) (server : S.State) :
    (∃ e w, call g request .PG_QUERY (World.start server) = .error e w) ↔
      request.key ≠ "pg.query.discovery".toList ∧ AnsweredBare S root request server := by
  rw [call_faults_iff, played, plan, Plan.dialogue]
  rcases hq : get_rparam request PARAM_FIRST with _ | _ | ⟨c, q⟩
  · simp [querySteps, hq, Steps.dialogue, AnsweredBare]
  · simp [querySteps, hq, Steps.dialogue, AnsweredBare]
  · have bare : AnsweredBare S root request server ↔
        Bare (session S server (.query (requestConnstring request)
          ((configured root (c :: q)).getD (c :: q)) (givenParams request))).1 := by
      simp [AnsweredBare, hq]
    rw [bare, querySteps, hq]
    simp only [(loaded_resolves loaded (c :: q)).1, userQuery_dialogue]
    generalize (configured root (c :: q)).getD (c :: q) = sql
    have scalar : ∀ type, queryTypeSteps (request.key.drop 9) sql = .scalar type sql →
        request.key ≠ "pg.query.discovery".toList →
        ((∃ e, (play (session S) ((queryTypeSteps (request.key.drop 9) sql).dialogue request
            (givenParams request)) server).result = .error e) ↔
          request.key ≠ "pg.query.discovery".toList ∧ Bare (session S server
            (.query (requestConnstring request) sql (givenParams request))).1) := by
      intro type steps other
      rw [steps, and_iff_right other]
      exact scalar_faults_iff sql (givenParams request) type server
    have known := queryKeys_listed listed hf
    rw [← asked] at known
    simp only [List.mem_cons, List.not_mem_nil, or_false] at known
    rcases known with key | key | key | key
    · exact scalar .AR_STRING (by rw [key]; rfl) (by rw [key]; decide)
    · exact scalar .AR_UINT64 (by rw [key]; rfl) (by rw [key]; decide)
    · exact scalar .AR_DOUBLE (by rw [key]; rfl) (by rw [key]; decide)
    · have steps : queryTypeSteps (request.key.drop 9) sql = .discovery sql := by
        rw [key]
        rfl
      rw [steps]
      refine ⟨?_, fun h => absurd key h.1⟩
      rintro ⟨e, he⟩
      cases he

/-- What goes through undefined behaviour: a run that faults, or that formats a message with
    arguments that are not there. -/
def Undefined (run : EStateM.Result Fault (World S) Ret) : Prop :=
  (∃ e w, run = .error e w) ∨ ∃ call ∈ errorCalls (lastState run).trace, call.message = none

/-- A query is given, and the connection it needs is refused with a text that asks for
    arguments. -/
def RefusedAsking (S : Server) (request : AGENT_REQUEST) (server : S.State) : Prop :=
  (∃ key, get_rparam request PARAM_FIRST = some key ∧ key ≠ []) ∧
    ∃ message, (S.connect server (requestConnstring request)).1 = .CONNECTION_BAD message ∧
      singled message = none

/-- A refused connection leaves the message that its text comes to. -/
theorem refused_reports (listed : metric ∈ keys) (hf : metric.function = .PG_QUERY)
    (asked : request.key = metric.key) (loaded : Loaded root g.queries) {server : S.State}
    {c : Char} {q message : CStr} (given : get_rparam request PARAM_FIRST = some (c :: q))
    (refused : (S.connect server (requestConnstring request)).1 = .CONNECTION_BAD message) :
    ∃ leaked, (played S g request .PG_QUERY server).result =
      .ok ⟨.error (vsnprintf MAX_STRING_LEN message []), leaked⟩ := by
  have hr : refusal S server (requestConnstring request) =
      (some message, (refusal S server (requestConnstring request)).2) := by
    unfold refusal
    cases hc : S.connect server (requestConnstring request) with
    | mk reply s =>
      rw [hc] at refused
      cases refused
      rfl
  rw [played, plan, Plan.dialogue, querySteps, given]
  simp only [(loaded_resolves loaded (c :: q)).1, userQuery_dialogue]
  generalize (configured root (c :: q)).getD (c :: q) = sql
  have driver := queryType_driver listed hf sql
  rw [← asked] at driver
  generalize queryTypeSteps (request.key.drop 9) sql = steps at driver ⊢
  cases driver with
  | scalar type query =>
    refine ⟨held (givenParams request), ?_⟩
    rw [Steps.dialogue, resultAsk, scalarAsk, andThen, Dialogue.bind, play_ask,
      session_refused hr]
    rfl
  | discovery query =>
    refine ⟨held (givenParams request), ?_⟩
    rw [Steps.dialogue, discoveryAsk, play_ask, session_refused hr]
    rfl

theorem user_query_undefined_iff (listed : metric ∈ keys) (hf : metric.function = .PG_QUERY)
    (asked : request.key = metric.key) (loaded : Loaded root g.queries) (server : S.State) :
    (∃ failed ∈ errorCalls (lastState (call g request .PG_QUERY (World.start server))).trace,
      failed.message = none) ↔ RefusedAsking S request server := by
  have rejects : Rejects (querySteps g.queries request) := rejects_query listed hf asked g.queries
  constructor
  · rintro ⟨failed, hc, undefined⟩
    rw [call_run] at hc
    by_cases given : ∃ key, get_rparam request PARAM_FIRST = some key ∧ key ≠ []
    · refine ⟨given, ?_⟩
      have told : Told (fun message => (S.connect server (requestConnstring request)).1 =
          .CONNECTION_BAD message) (World.start server)
          (lastState ((querySteps g.queries request).run request none (World.start server))) :=
        told_steps (query_unversioned g.queries) rejects (fun _ h => h) none
      obtain ⟨t, trace, sound, -⟩ := told
      have trace : _ = t := trace
      obtain ⟨refused, asks⟩ := undefined_refused sound (trace ▸ hc) undefined
      exact ⟨failed.format, refused, asks⟩
    · have told : Told (fun _ => False) (World.start server)
          (lastState ((querySteps g.queries request).run request none (World.start server))) := by
        have rejected : ∃ format, querySteps g.queries request = .reject format [] ∧
            Spelled format [] := by
          unfold querySteps
          rcases hq : get_rparam request PARAM_FIRST with _ | _ | ⟨c, q⟩
          · exact ⟨_, rfl, spelled_at 11 rfl⟩
          · exact ⟨_, rfl, spelled_at 11 rfl⟩
          · exact absurd ⟨c :: q, hq, List.cons_ne_nil c q⟩ given
        obtain ⟨format, steps, spelled⟩ := rejected
        rw [steps]
        exact moves_bind (tells_call .given spelled) (fun _ => moves_pure _) _
      obtain ⟨t, trace, sound, -⟩ := told
      have trace : _ = t := trace
      exact (undefined_refused sound (trace ▸ hc) undefined).1.elim
  · rintro ⟨⟨key, given, nonempty⟩, message, refused, asks⟩
    obtain ⟨c, q, rfl⟩ := List.exists_cons_of_ne_nil nonempty
    obtain ⟨leaked, result⟩ := refused_reports listed hf asked loaded given refused
    have told : Told (fun _ => True) (World.start server)
        (lastState (call g request metric.function (World.start server))) :=
      call_tells refuses_any listed asked _
    rw [hf] at told
    obtain ⟨t, trace, -, msg⟩ := told
    have trace : _ = t := trace
    have realised := call_realises S g request .PG_QUERY server
    unfold Realises wp at realised
    cases run : call g request .PG_QUERY (World.start server) with
    | ok ret w =>
      rw [run] at realised trace msg
      obtain ⟨o, v, played, shows, -, -, -, left, -⟩ := realised
      cases result.symm.trans played
      have undefined : vsnprintf MAX_STRING_LEN message [] = none := by
        rw [vsnprintf, consume_singled, asks]
        rfl
      have stored : reported t = some none := by
        have message : w.result.msg = _ := congrArg AGENT_RESULT.msg (shows.result.trans left)
        rw [← Option.or_none (o := reported t)]
        exact (msg.symm.trans message).trans (congrArg some undefined)
      obtain ⟨failed, last, undefined⟩ := Option.map_eq_some_iff.mp stored
      refine ⟨failed, ?_, undefined⟩
      rw [show (lastState (EStateM.Result.ok ret w)).trace = t from trace]
      exact List.mem_of_mem_filter (List.mem_of_getLast? last)
    | error e w =>
      rw [run] at realised
      cases result.symm.trans realised.1

def bareAnswer : List (ConnectReply × ExecReply) :=
  [(.CONNECTION_OK, .PGRES_TUPLES_OK ⟨[], [[]], by decide⟩)]

def bareRequest : AGENT_REQUEST :=
  ⟨"pg.query.string".toList, [[], [], "SELECT FROM pg_class LIMIT 1".toList]⟩

end UserQueries

end LibZbxPgsql.CrashFreedom
