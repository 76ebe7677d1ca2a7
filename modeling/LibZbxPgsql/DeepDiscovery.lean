import LibZbxPgsql.HandleDiscipline

set_option autoImplicit false

/-! `pg_get_discovery_wide` against the runs of `pg_get_discovery` it stands for: one for each
database listed, in order, each from where the one before left the server. -/
namespace LibZbxPgsql.DeepDiscovery
open StateFaultWp CStrings PrintfFormat AgentModel Connections Drivers JsonBuilder Discovery
open ItemKeys Dialogues WorldView Sessions DialogueRefinement DriverDialogues HandleDiscipline

def IsName (name : CStr) : Prop := name ≠ [] ∧ '\x00' ∉ name

theorem takeWhile_name {name : CStr} (h : '\x00' ∉ name) (rest : CStr) :
    (name ++ '\x00' :: rest).takeWhile (· ≠ '\x00') = name := by
  have all : ∀ c ∈ name, decide (c ≠ '\x00') = true := by
    intro c hc
    rw [decide_eq_true_eq]
    rintro rfl
    exact h hc
  rw [List.takeWhile_append_of_pos all]
  simp

theorem walkStrings_multiString {names : List CStr} (h : ∀ name ∈ names, IsName name) {fuel : ℕ}
    (enough : (multiString names).length ≤ fuel) :
    walkStrings fuel (multiString names) = names := by
  induction names generalizing fuel with
  | nil =>
    cases fuel with
    | zero => rfl
    | succ fuel => rfl
  | cons name names ih =>
    obtain ⟨nonempty, free⟩ := h name List.mem_cons_self
    rw [multiString, List.length_append, List.length_cons] at enough
    obtain ⟨fuel, rfl⟩ : ∃ n, fuel = n + 1 := ⟨fuel - 1, by omega⟩
    obtain ⟨c, cs, rfl⟩ := List.exists_cons_of_ne_nil nonempty
    have rest : ((c :: cs) ++ '\x00' :: multiString names).drop ((c :: cs).length + 1) =
        multiString names := by
      rw [List.drop_append, List.drop_of_length_le (by omega)]
      simp
    rw [multiString, walkStrings, takeWhile_name free]
    simp only
    rw [rest, ih (fun n hn => h n (List.mem_cons_of_mem _ hn)) (by omega)]

theorem visited_names {names : List CStr} (h : ∀ name ∈ names, IsName name) :
    visited names = names :=
  walkStrings_multiString h (Nat.le_refl _)

def withDatabase (request : AGENT_REQUEST) (db : CStr) : AGENT_REQUEST :=
  { request with params := request.params.headD [] :: db :: request.params.drop 2 }

theorem requestConnstring_withDatabase (request : AGENT_REQUEST) (db : CStr) :
    requestConnstring (withDatabase request db) =
      build_connstring (get_rparam request PARAM_CONN_STRING) (some db) := by
  obtain ⟨key, params⟩ := request
  cases params <;> rfl

def dataOf : Option StrValue → List Json
  | some (.json (.object [(_, .array data)])) => data
  | _ => []

section Spec
variable (S : Server) (request : AGENT_REQUEST) (query : CStr)

def shallow (s : S.State) (db : CStr) : EStateM.Result Fault (World S) Ret :=
  pg_get_discovery (withDatabase request db) query none (World.start s)

/-- The shallow discoveries one after the other: their data, or the message of the first
    that fails. -/
def discoverEach : S.State → List CStr → Except (Option Message) (List Json)
  | _, [] => .ok []
  | s, db :: dbs =>
    match shallow S request query s db with
    | .ok .SYSINFO_RET_OK w =>
      (discoverEach w.server dbs).map fun rest => dataOf w.result.str ++ rest
    | .ok .SYSINFO_RET_FAIL w => .error w.result.msg
    | .error _ w => .error w.result.msg

/-- What the databases answer, in order: each connection and each query succeeds. -/
inductive EachAnswers : S.State → List CStr → List Tuples → Prop where
  | nil (s : S.State) : EachAnswers s [] []
  | cons {s s' : S.State} {db : CStr} {dbs : List CStr} {tuples : Tuples} {rest : List Tuples}
    (answered : session S s (.query (requestConnstring (withDatabase request db)) query []) =
      (.answered tuples, s'))
    (tail : EachAnswers s' dbs rest) : EachAnswers s (db :: dbs) (tuples :: rest)

def namesIn : Reply → Option (List CStr)
  | .answered tuples => if tuples.rows = [] then none else firstColumn tuples
  | _ => none

/-- The element for a row: the value of each column under `{#NAME}`, in capitals. -/
def macroObject (fields : List CStr) (row : List (Option CStr)) : Json :=
  .object ((fields.zip row).map fun (field, value) =>
    ('{' :: '#' :: (field.map toupper ++ ['}']), .string (fieldText value)))

/-- The listing of the databases has names, in its first column. -/
def ListsNames (s : S.State) : Prop :=
  ∀ tuples s', session S s (.query (requestConnstring request) PGSQL_CONNECTABLE_DATABASES []) =
      (.answered tuples, s') →
    ∀ row ∈ tuples.rows, ∃ name rest, row = some name :: rest ∧ IsName name

/-- What a deep discovery comes to: `listing` is what `pg_get_databases` yields, and `w₁`
    the world it leaves. -/
def IsConcatenation (s : S.State) : Prop :=
  ∃ listing w₁ ret w,
    pg_get_databases request (World.start s) = .ok (listing.map multiString) w₁ ∧
    (listing, w₁.server) = (session S s
      (.query (requestConnstring request) PGSQL_CONNECTABLE_DATABASES [])).map namesIn id ∧
    (∀ names, listing = some names → names ≠ [] ∧ ∀ name ∈ names, IsName name) ∧
    pg_get_discovery_wide request query none (World.start s) = .ok ret w ∧
    (ret = .SYSINFO_RET_OK ↔ ∃ names answers, listing = some names ∧
      EachAnswers S request query w₁.server names answers) ∧
    match listing.map (discoverEach S request query w₁.server) with
    | some (.ok data) => ret = .SYSINFO_RET_OK ∧
        w.result = { AGENT_RESULT.empty with str := some (.json (discoveryDocument data)) } ∧
        ∃ names answers, listing = some names ∧
          EachAnswers S request query w₁.server names answers ∧
          data = answers.flatMap tuplesData ∧
          ((∀ tuples ∈ answers, ∀ field ∈ tuples.fields, field.length + 3 < MAX_STRING_LEN) →
            data = answers.flatMap fun tuples => tuples.rows.map (macroObject tuples.fields))
    | some (.error message) => ret = .SYSINFO_RET_FAIL ∧ message.isSome ∧
        w.result = { AGENT_RESULT.empty with msg := message }
    | none => ret = .SYSINFO_RET_FAIL ∧ w₁.result.msg.isSome ∧
        w.result = { AGENT_RESULT.empty with msg := w₁.result.msg }

end Spec

section Refinement
variable {S : Server} {request : AGENT_REQUEST} {query : CStr}

theorem shallow_run {s s' : S.State} {db : CStr} {reply : Reply}
    (hs : session S s (.query (requestConnstring (withDatabase request db)) query []) =
      (reply, s')) :
    ∃ w, shallow S request query s db = .ok (discoveryEnd [] reply).report.ret w ∧
      w.server = s' ∧ w.result = (discoveryEnd [] reply).report.on .empty := by
  have realised := pg_get_discovery_realises (L := []) none (shows_start s) rfl
    (fun _ hx => by cases hx) packed_none (withDatabase request db) query
  have ends : (play (session S) (discoveryAsk (withDatabase request db) query []) s).result =
        .ok (discoveryEnd [] reply) ∧
      (play (session S) (discoveryAsk (withDatabase request db) query []) s).state = s' := by
    rw [discoveryAsk, play_ask, hs]
    exact ⟨rfl, rfl⟩
  obtain ⟨ret, w, v, run, shows, server, hret, hres, -⟩ := realises_returned realised ends.1
  rw [hret] at run
  exact ⟨w, run, shows.server.trans (server.trans ends.2), shows.result.trans hres⟩

/-- The wide loop ends as the shallow discoveries of its databases do. -/
theorem wideAsk_each (request : AGENT_REQUEST) (query : CStr) (names : List CStr)
    (data : List Json) (s : S.State) :
    ∃ o, (play (session S) (wideAsk (get_rparam request PARAM_CONN_STRING) query names data)
        s).result = .ok o ∧
      match discoverEach S request query s names with
      | .ok rest => o.report = .value (.str (.json (discoveryDocument (data ++ rest))))
      | .error message => ∃ m, message = some m ∧ o.report = .error m := by
  induction names generalizing data s with
  | nil => exact ⟨_, rfl, by simp [discoverEach]⟩
  | cons db names ih =>
    cases hs : session S s (.query (requestConnstring (withDatabase request db)) query []) with
    | mk reply s' =>
      obtain ⟨w, run, server, result⟩ := shallow_run hs
      rw [requestConnstring_withDatabase] at hs
      rw [wideAsk, play_ask, hs, discoverEach, run]
      cases reply with
      | refused m => exact ⟨_, rfl, _, by rw [result]; rfl, rfl⟩
      | noResult => exact ⟨_, rfl, _, by rw [result]; rfl, rfl⟩
      | failed m => exact ⟨_, rfl, _, by rw [result]; rfl, rfl⟩
      | answered tuples =>
        obtain ⟨o, played, ends⟩ := ih (data ++ tuplesData tuples) s'
        refine ⟨o, played, ?_⟩
        have found : dataOf w.result.str = tuplesData tuples := by
          rw [result]
          rfl
        simp only [discoveryEnd, Report.ret, found, server]
        cases he : discoverEach S request query s' names with
        | ok rest =>
          rw [he] at ends
          simpa [Except.map] using ends
        | error message =>
          rw [he] at ends
          exact ends

/-- The shallow discoveries succeed where every database answers, with its rows. -/
theorem discoverEach_ok_iff (request : AGENT_REQUEST) (query : CStr) (names : List CStr)
    (s : S.State) (data : List Json) :
    discoverEach S request query s names = .ok data ↔
      ∃ answers, EachAnswers S request query s names answers ∧
        data = answers.flatMap tuplesData := by
  induction names generalizing s data with
  | nil =>
    rw [discoverEach]
    constructor
    · intro h
      cases h
      exact ⟨[], .nil s, rfl⟩
    · rintro ⟨answers, each, rfl⟩
      cases each
      rfl
  | cons db names ih =>
    cases hs : session S s (.query (requestConnstring (withDatabase request db)) query []) with
    | mk reply s' =>
      obtain ⟨w, run, server, result⟩ := shallow_run hs
      rw [discoverEach, run]
      have stops : ∀ e, (∀ tuples, reply ≠ .answered tuples) →
          ((.error e : Except (Option Message) (List Json)) = .ok data ↔
            ∃ answers, EachAnswers S request query s (db :: names) answers ∧
              data = answers.flatMap tuplesData) := by
        intro e other
        constructor
        · intro h
          cases h
        · rintro ⟨answers, each, -⟩
          cases each with
          | cons answered tail =>
            rw [hs] at answered
            cases answered
            exact absurd rfl (other _)
      cases reply with
      | refused m | noResult | failed m => exact stops _ (by simp)
      | answered tuples =>
        have found : dataOf w.result.str = tuplesData tuples := by
          rw [result]
          rfl
        simp only [discoveryEnd, Report.ret, found, server]
        constructor
        · intro h
          cases hr : discoverEach S request query s' names with
          | error e =>
            rw [hr] at h
            cases h
          | ok rest =>
            rw [hr] at h
            cases h
            obtain ⟨answers, each, rfl⟩ := (ih s' rest).mp hr
            exact ⟨tuples :: answers, .cons hs each, rfl⟩
        · rintro ⟨answers, each, rfl⟩
          cases each with
          | @cons _ s₂ _ _ tuples' rest answered tail =>
            rw [hs] at answered
            cases answered
            rw [(ih s' _).mpr ⟨rest, tail, rfl⟩]
            rfl

theorem rowObject_macros {fields : List CStr}
    (short : ∀ field ∈ fields, field.length + 3 < MAX_STRING_LEN) (row : List (Option CStr)) :
    rowObject fields row = macroObject fields row := by
  rw [rowObject, macroObject]
  congr 1
  apply List.map_congr_left
  rintro ⟨field, value⟩ member
  simp only [macroName_fits (short field (List.of_mem_zip member).1)]

theorem tuplesData_macros {answers : List Tuples}
    (short : ∀ tuples ∈ answers, ∀ field ∈ tuples.fields, field.length + 3 < MAX_STRING_LEN) :
    answers.flatMap tuplesData =
      answers.flatMap fun tuples => tuples.rows.map (macroObject tuples.fields) := by
  refine List.flatMap_congr fun tuples ht => ?_
  exact List.map_congr_left fun row _ => rowObject_macros (short tuples ht) row

theorem firstColumn_names {tuples : Tuples}
    (h : ∀ row ∈ tuples.rows, ∃ name rest, row = some name :: rest ∧ IsName name) :
    ∃ names, firstColumn tuples = some names ∧ (∀ name ∈ names, IsName name) ∧
      names.length = tuples.rows.length := by
  rw [firstColumn]
  generalize tuples.rows = rows at h
  induction rows with
  | nil => exact ⟨[], rfl, by simp, rfl⟩
  | cons row rows ih =>
    obtain ⟨names, read, all, count⟩ := ih fun r hr => h r (List.mem_cons_of_mem _ hr)
    obtain ⟨name, rest, rfl, isName⟩ := h _ List.mem_cons_self
    refine ⟨name :: names, ?_, List.forall_mem_cons.mpr ⟨isName, all⟩, ?_⟩
    · rw [List.mapM_cons, read]
      rfl
    · rw [List.length_cons, List.length_cons, count]

/-- Where the listing ends: in a message, or in names. -/
theorem databasesEnd_names (reply : Reply)
    (h : ∀ tuples, reply = .answered tuples →
      ∀ row ∈ tuples.rows, ∃ name rest, row = some name :: rest ∧ IsName name) :
    (namesIn reply = none ∧ ∃ m, databasesEnd reply = .ok (.error m)) ∨
      ∃ names, namesIn reply = some names ∧ databasesEnd reply = .ok (.ok names) ∧
        names ≠ [] ∧ ∀ n ∈ names, IsName n := by
  cases reply with
  | refused m => exact .inl ⟨rfl, _, rfl⟩
  | noResult => exact .inl ⟨rfl, _, rfl⟩
  | failed m => exact .inl ⟨rfl, _, rfl⟩
  | answered tuples =>
    rw [databasesEnd, namesIn]
    by_cases hrows : tuples.rows = []
    · exact .inl ⟨if_pos hrows, _, if_pos hrows⟩
    · obtain ⟨names, read, all, count⟩ := firstColumn_names (h tuples rfl)
      refine .inr ⟨names, ?_, ?_, ?_, all⟩
      · rw [if_neg hrows, read]
      · rw [if_neg hrows, read]
      · rintro rfl
        exact hrows (List.eq_nil_of_length_eq_zero count.symm)

/-- A deep discovery succeeds where the databases are listed and every one of them
    answers, with the concatenation of the shallow discoveries' data; otherwise it sets no
    string and reports what the first step that failed does. -/
theorem wide_is_concatenation (s : S.State) (lists : ListsNames S request s) :
    IsConcatenation S request query s := by
  have none_live : noConn ([] : List Handle) := fun _ hx => by cases hx
  have listed := pg_get_databases_realises (shows_start s) none_live request
  have wide := pg_get_discovery_wide_realises (shows_start s) rfl none_live request query
  cases hs : session S s (.query (requestConnstring request) PGSQL_CONNECTABLE_DATABASES []) with
  | mk reply s₁ =>
    have listing : (play (session S) (databasesAsk request) s).result = databasesEnd reply ∧
        (play (session S) (databasesAsk request) s).state = s₁ := by
      rw [databasesAsk, play_ask, hs]
      exact ⟨rfl, rfl⟩
    obtain ⟨unread, m, hm⟩ | ⟨names, read, hn, nonempty, all⟩ :=
      databasesEnd_names reply fun tuples ht => lists tuples s₁ (ht ▸ hs)
    · obtain ⟨out, w₁, v₁, run₁, shows₁, server, done⟩ :=
        realises_returned listed (listing.1.trans hm)
      obtain ⟨rfl, result₁, -⟩ := done
      have ends : (play (session S) (discoveryWideAsk request query) s).result =
          .ok ⟨.error m, []⟩ := by
        rw [discoveryWideAsk, andThen, play_bind, listing.1, hm]
        rfl
      obtain ⟨ret, w, v, run, shows, -, hret, hres, -⟩ := realises_returned wide ends
      have message : w₁.result.msg = some m := by rw [shows₁.result, result₁]
      have server₁ : w₁.server = s₁ := shows₁.server.trans (server.trans listing.2)
      refine ⟨none, w₁, ret, w, run₁, ?_, by simp, run, ?_, hret, by simp [message], ?_⟩
      · rw [server₁, hs, Prod.map, unread, id]
      · simp [hret, Report.ret]
      · rw [shows.result, hres, message]
        rfl
    · obtain ⟨out, w₁, v₁, run₁, shows₁, server, done⟩ :=
        realises_returned listed (listing.1.trans hn)
      obtain ⟨rfl, -, -⟩ := done
      have server₁ : w₁.server = s₁ := shows₁.server.trans (server.trans listing.2)
      obtain ⟨o, played, ends⟩ := wideAsk_each request query names [] s₁
      have result : (play (session S) (discoveryWideAsk request query) s).result = .ok o := by
        rw [discoveryWideAsk, andThen, play_bind, listing.1, listing.2, hn]
        simp only [visited_names all]
        exact played
      obtain ⟨ret, w, v, run, shows, -, hret, hres, -⟩ := realises_returned wide result
      have each := discoverEach_ok_iff request query names s₁
      refine ⟨some names, w₁, ret, w, run₁, ?_, ?_, run, ?_⟩
      · rw [server₁, hs, Prod.map, read, id]
      · rintro _ ⟨⟩
        exact ⟨nonempty, all⟩
      rw [server₁, Option.map_some]
      cases he : discoverEach S request query s₁ names with
      | ok data =>
        rw [he] at ends
        obtain ⟨answers, answered, flat⟩ := (each data).mp he
        have ok : ret = .SYSINFO_RET_OK := by rw [hret, ends]; rfl
        refine ⟨?_, ok, ?_, names, answers, rfl, answered, flat, fun short => ?_⟩
        · exact ⟨fun _ => ⟨names, answers, rfl, answered⟩, fun _ => ok⟩
        · rw [shows.result, hres, ends]
          rfl
        · rw [flat, tuplesData_macros short]
      | error message =>
        rw [he] at ends
        obtain ⟨m, rfl, report⟩ := ends
        have fail : ret = .SYSINFO_RET_FAIL := by rw [hret, report]; rfl
        refine ⟨?_, fail, rfl, ?_⟩
        · rw [fail]
          simp only [reduceCtorEq, false_iff]
          rintro ⟨names', answers, same, answered⟩
          cases same
          rw [(each _).mpr ⟨answers, answered, rfl⟩] at he
          cases he
        · rw [shows.result, hres, report]
          rfl

end Refinement

/-- Two databases are listed, and the second refuses the connection. -/
theorem halfReachable_lists (request : AGENT_REQUEST) :
    ListsNames scripted request halfReachable := by
  intro tuples s' h row hrow
  cases h
  simp only [List.mem_cons, List.not_mem_nil, or_false] at hrow
  rcases hrow with rfl | rfl
  · exact ⟨"a".toList, [], rfl, by decide, by decide⟩
  · exact ⟨"b".toList, [], rfl, by decide, by decide⟩

theorem wide_is_concatenation_halfReachable :
    IsConcatenation scripted ⟨"pg.table.discovery".toList, []⟩ "SELECT oid".toList
      halfReachable :=
  wide_is_concatenation (S := scripted) halfReachable (halfReachable_lists _)

end LibZbxPgsql.DeepDiscovery
