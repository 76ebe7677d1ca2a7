import LibZbxPgsql.Conclusions
import LibZbxPgsql.SqlTokens

set_option autoImplicit false

namespace LibZbxPgsql.IndexFilters
open StateFaultWp CStrings AgentModel Connections Drivers Discovery IndexKeys ItemKeys
open Dialogues WorldView Sessions DialogueRefinement DriverDialogues HandlerPlans KeyPlans
open HandleDiscipline SqlTokens

section Built
variable (request : AGENT_REQUEST)

def comparison (column name : CStr) : CStr :=
  " AND ".toList ++ column ++ " = '".toList ++ name ++ "'".toList

def nameFilter (column : CStr) : Option CStr → CStr
  | none => []
  | some [] => []
  | some (c :: name) => comparison column (c :: name)

def schemaName : Option CStr := get_rparam request (PARAM_FIRST + 1)

def tableName : Option CStr := get_rparam request (PARAM_FIRST + 2)

def schemaFilter : CStr := nameFilter "n.nspname".toList (schemaName request)

def tableFilter : CStr := nameFilter "t.relname".toList (tableName request)

def builtQuery : CStr := PGSQL_DISCOVER_INDEXES ++ schemaFilter request ++ tableFilter request

/-- The room a filter takes: nineteen characters and its name. -/
def filterRoom : Option CStr → ℕ
  | none => 0
  | some [] => 0
  | some (c :: name) => 19 + (c :: name).length

/-- The discovery query has 608 characters. -/
def Fits : Prop :=
  608 + filterRoom (schemaName request) + filterRoom (tableName request) < MAX_STRING_LEN

instance : Decidable (Fits request) := inferInstanceAs (Decidable (_ < _))

end Built

section Room
variable {request : AGENT_REQUEST} {query column : CStr} {param : Option CStr}

set_option maxRecDepth 8000 in
theorem discover_length : PGSQL_DISCOVER_INDEXES.length = 608 := by
  unfold PGSQL_DISCOVER_INDEXES
  simp only [literal, List.flatMap_cons, List.flatMap_nil]
  repeat rw [String.toList_ofList]
  decide

theorem comparison_length (hc : column.length = 9) (name : CStr) :
    (comparison column name).length = 19 + name.length := by
  have before : " AND ".toList.length = 5 := by decide
  have between : " = '".toList.length = 4 := by decide
  have after : "'".toList.length = 1 := by decide
  unfold comparison
  simp only [List.length_append, before, between, after, hc]
  omega

theorem nameFilter_length (hc : column.length = 9) :
    (nameFilter column param).length = filterRoom param := by
  match param with
  | none => rfl
  | some [] => rfl
  | some (c :: name) => exact comparison_length hc _

theorem schemaFilter_length : (schemaFilter request).length = filterRoom (schemaName request) :=
  nameFilter_length (by decide)

theorem tableFilter_length : (tableFilter request).length = filterRoom (tableName request) :=
  nameFilter_length (by decide)

variable (query column param) in
/-- A filter that is cut by its array does not fit the query either. -/
theorem filteredQuery_eq (begun : 0 < query.length) (room : query.length < MAX_STRING_LEN) :
    filteredQuery query column param =
      if query.length + (nameFilter column param).length < MAX_STRING_LEN then
        some (query ++ nameFilter column param)
      else none := by
  match param with
  | none => simp [filteredQuery, nameFilter, room]
  | some [] => simp [filteredQuery, nameFilter, room]
  | some (c :: name) =>
    change (if MAX_STRING_LEN < query.length +
        (zbx_snprintf MAX_STRING_LEN (comparison column (c :: name))).length + 1 then none
      else some (query ++ zbx_snprintf MAX_STRING_LEN (comparison column (c :: name)))) = _
    rw [nameFilter]
    generalize comparison column (c :: name) = text
    have kept : (zbx_snprintf MAX_STRING_LEN text).length =
        min (MAX_STRING_LEN - 1) text.length := List.length_take
    by_cases h : query.length + text.length < MAX_STRING_LEN
    · have whole : zbx_snprintf MAX_STRING_LEN text = text := zbx_snprintf_fits (by omega)
      rw [if_pos h, whole, if_neg (by omega)]
    · rw [if_neg h, kept, if_pos (by omega)]

theorem indexDiscoveryQuery_eq :
    indexDiscoveryQuery request = if Fits request then some (builtQuery request) else none := by
  have fixed : zbx_strlcpy PGSQL_DISCOVER_INDEXES MAX_STRING_LEN = PGSQL_DISCOVER_INDEXES :=
    List.take_of_length_le (by rw [discover_length]; decide)
  have first := filteredQuery_eq PGSQL_DISCOVER_INDEXES "n.nspname".toList (schemaName request)
    (by rw [discover_length]; decide) (by rw [discover_length]; decide)
  have length : (PGSQL_DISCOVER_INDEXES ++ schemaFilter request).length =
      608 + filterRoom (schemaName request) := by
    rw [List.length_append, discover_length, schemaFilter_length]
  rw [indexDiscoveryQuery, fixed, ← schemaName, first, ← schemaFilter, discover_length,
    schemaFilter_length, ← tableName]
  by_cases room : 608 + filterRoom (schemaName request) < MAX_STRING_LEN
  · have second := filteredQuery_eq (PGSQL_DISCOVER_INDEXES ++ schemaFilter request)
      "t.relname".toList (tableName request) (by omega) (by omega)
    rw [length, ← tableFilter, tableFilter_length] at second
    rw [if_pos room, Option.bind_some, second]
    rfl
  · have full : ¬ Fits request := by
      unfold Fits
      omega
    rw [if_neg room, if_neg full, Option.bind_none]

end Room

/-- No run of the handler writes past an array. -/
def WritesWithin (g : Globals) (request : AGENT_REQUEST) : Prop :=
  ∀ (S : Server) (server : S.State) (e : Fault) (w : World S),
    call g request .PG_INDEX_DISCOVERY (World.start server) = .error e w → e ≠ .bufferOverrun

/-- The array that a filter is written through holds all of it. -/
def FiltersKept (request : AGENT_REQUEST) : Prop :=
  zbx_snprintf MAX_STRING_LEN (schemaFilter request) = schemaFilter request ∧
    zbx_snprintf MAX_STRING_LEN (tableFilter request) = tableFilter request

section Arrays
variable {g : Globals} {request : AGENT_REQUEST}

def NoOverrun {β : Type} : Except Fault β → Prop
  | .ok _ => True
  | .error e => e ≠ .bufferOverrun

theorem wideAsk_within (connstring : Option CStr) (query : CStr) (dbs : List CStr)
    (data : List Json) : Dialogues.Ends NoOverrun (wideAsk connstring query dbs data) := by
  induction dbs generalizing data with
  | nil => trivial
  | cons db dbs ih =>
    intro reply
    cases reply with
    | refused m => trivial
    | noResult => trivial
    | failed m => trivial
    | answered tuples => exact ih _

theorem databasesEnd_within (reply : Reply) : NoOverrun (databasesEnd reply) := by
  cases reply with
  | refused m | noResult | failed m => trivial
  | answered tuples =>
    simp only [databasesEnd]
    split
    · trivial
    · split
      · exact Fault.noConfusion
      · trivial

theorem modePlan_within (query : CStr) :
    Dialogues.Ends NoOverrun ((modePlan request query).dialogue request) := by
  unfold modePlan
  dsimp only
  split
  · refine ends_bind ?_
    intro reply
    have within := databasesEnd_within reply
    simp only [Dialogues.Ends]
    cases hd : databasesEnd reply with
    | error e =>
      rw [hd] at within
      exact within
    | ok names =>
      cases names with
      | error m => trivial
      | ok names => exact wideAsk_within _ _ _ _
  · split
    · intro reply
      cases reply <;> trivial
    · trivial

theorem index_plan (fits : Fits request) :
    plan g request .PG_INDEX_DISCOVERY = modePlan request (builtQuery request) := by
  rw [plan, indexDiscoveryPlan, indexDiscoveryQuery_eq, if_pos fits]

theorem call_overruns (full : ¬ Fits request) {S : Server} (w : World S) :
    call g request .PG_INDEX_DISCOVERY w = .error .bufferOverrun w := by
  rw [call_run, plan, indexDiscoveryPlan, indexDiscoveryQuery_eq, if_neg full]
  rfl

theorem writes_within (fits : Fits request) : WritesWithin g request := by
  intro S server e w run
  have realised := call_realises S g request .PG_INDEX_DISCOVERY server
  have ended : NoOverrun (play (session S)
      ((modePlan request (builtQuery request)).dialogue request) server).result :=
    ends_play (session S) (modePlan_within (builtQuery request)) server
  rw [index_plan fits] at realised
  unfold Realises wp at realised
  rw [run] at realised
  rw [realised.1] at ended
  exact ended

theorem filters_kept (fits : Fits request) : FiltersKept request := by
  have schema : (schemaFilter request).length = _ := schemaFilter_length
  have table : (tableFilter request).length = _ := tableFilter_length
  unfold Fits at fits
  constructor
  · exact zbx_snprintf_fits (by omega)
  · exact zbx_snprintf_fits (by omega)

/-- The arrays suffice exactly where the query and both filters fit into the last of them. -/
theorem arrays_suffice_iff (g : Globals) (request : AGENT_REQUEST) :
    (WritesWithin g request ∧ FiltersKept request) ↔ Fits request := by
  constructor
  · rintro ⟨within, -⟩
    by_contra full
    exact within scripted [] _ _ (call_overruns full _) rfl
  · intro fits
    exact ⟨writes_within fits, filters_kept fits⟩

def indexesOf (schema table : CStr) : AGENT_REQUEST :=
  ⟨"pg.index.discovery".toList, [[], [], [], schema, table]⟩

theorem filterRoom_given {name : CStr} (given : name ≠ []) :
    filterRoom (some name) = 19 + name.length := by
  match name, given with
  | _ :: _, _ => rfl

/-- A schema name of 1500 characters is written past the end of the query. -/
theorem long_name_overruns :
    ¬ (WritesWithin defaults (indexesOf (List.replicate 1500 'a') []) ∧
      FiltersKept (indexesOf (List.replicate 1500 'a') [])) := by
  rintro ⟨within, -⟩
  refine within scripted [] _ _ (call_overruns ?_ _) rfl
  have given : List.replicate 1500 'a' ≠ [] := by
    apply List.ne_nil_of_length_pos
    rw [List.length_replicate]
    omega
  have room : schemaName (indexesOf (List.replicate 1500 'a') []) =
      some (List.replicate 1500 'a') := rfl
  unfold Fits
  rw [room, filterRoom_given given, List.length_replicate, MAX_STRING_LEN]
  omega

end Arrays

def conjunct (relation column : String) : Option CStr → List Token
  | none => []
  | some [] => []
  | some (c :: name) => [.word "and".toList, .word relation.toList, .symbol ['.'],
      .word column.toList, .symbol ['='], .text (c :: name)]

/-- Every query of every run is the discovery query with one comparison for each name. -/
def FiltersByName (g : Globals) (request : AGENT_REQUEST) : Prop :=
  ∀ (S : Server) (server : S.State),
    ∀ sent ∈ commands (lastState (call g request .PG_INDEX_DISCOVERY (World.start server))).trace,
      sent.1 = PGSQL_CONNECTABLE_DATABASES ∨
        ∃ fixed, tokens PGSQL_DISCOVER_INDEXES = some fixed ∧
          tokens sent.1 = some (fixed ++ conjunct "n" "nspname" (schemaName request) ++
            conjunct "t" "relname" (tableName request))

def Searches (request : AGENT_REQUEST) : Prop :=
  let mode := get_rparam request PARAM_FIRST
  strisnull mode ∨ mode = some "deep".toList ∨ mode = some "shallow".toList

def Unquoted (param : Option CStr) : Prop := ∀ name, param = some name → '\'' ∉ name

section Tokens
variable {g : Globals} {request : AGENT_REQUEST} {a rest : CStr} {ts us : List Token}

set_option maxRecDepth 8000 in
theorem discover_tokens : ∃ fixed, tokens PGSQL_DISCOVER_INDEXES = some fixed := by
  have read : (tokens PGSQL_DISCOVER_INDEXES).isSome := by
    unfold PGSQL_DISCOVER_INDEXES
    simp only [literal, List.flatMap_cons, List.flatMap_nil]
    repeat rw [String.toList_ofList]
    decide
  exact Option.isSome_iff_exists.mp read

def compared (column : CStr) : CStr := ' ' :: ("AND ".toList ++ column ++ " = ".toList)

theorem comparison_eq (column name : CStr) :
    comparison column name = compared column ++ '\'' :: (name ++ ['\'']) := by
  unfold comparison compared
  have begins : " AND ".toList = ' ' :: "AND ".toList := by decide
  have opens : " = '".toList = " = ".toList ++ ['\''] := by decide
  have closes : "'".toList = ['\''] := by decide
  rw [begins, opens, closes]
  simp only [List.cons_append, List.append_assoc, List.nil_append]

/-- A filter by name is read back exactly where the name has no quote in it. -/
theorem nameFilter_tokens {column : CStr} {relation field : String} {param : Option CStr}
    (hc : Ends (compared column) [.word "and".toList, .word relation.toList, .symbol ['.'],
      .word field.toList, .symbol ['=']])
    (ha : tokens a = some ts) (plain : Unquoted param) :
    tokens (a ++ nameFilter column param) = some (ts ++ conjunct relation field param) := by
  match param, plain with
  | none, _ => simpa [nameFilter, conjunct] using ha
  | some [], _ => simpa [nameFilter, conjunct] using ha
  | some (c :: name), plain =>
    have read := tokens_plain (ends_append rfl ha hc) (plain _ rfl)
    rw [nameFilter, comparison_eq, ← List.append_assoc, read]
    simp [conjunct]

theorem unquoted_of_tokens {column : CStr} {relation field : String} {param : Option CStr}
    {more : List Token}
    (hc : Ends (compared column) [.word "and".toList, .word relation.toList, .symbol ['.'],
      .word field.toList, .symbol ['=']])
    (ha : tokens a = some ts) (lone : rest.head? ≠ some '\'')
    (h : tokens (a ++ nameFilter column param ++ rest) =
      some (ts ++ conjunct relation field param ++ more)) : Unquoted param := by
  match param with
  | none =>
    intro name hn
    cases hn
  | some [] =>
    intro name hn
    cases hn
    simp
  | some (c :: name) =>
    intro name' hn
    cases hn
    have whole : a ++ compared column ++ '\'' :: (c :: name ++ '\'' :: rest) =
        a ++ nameFilter column (some (c :: name)) ++ rest := by
      rw [nameFilter, comparison_eq]
      simp only [List.append_assoc, List.cons_append, List.nil_append]
    have read : tokens (a ++ compared column ++ '\'' :: (c :: name ++ '\'' :: rest)) =
        some (ts ++ [.word "and".toList, .word relation.toList, .symbol ['.'],
          .word field.toList, .symbol ['=']] ++ .text (c :: name) :: more) := by
      rw [whole, h]
      simp [conjunct]
    exact plain_of_tokens (ends_append rfl ha hc) lone read

theorem schema_ends : Ends (compared "n.nspname".toList) [.word "and".toList, .word "n".toList,
    .symbol ['.'], .word "nspname".toList, .symbol ['=']] := by
  unfold compared SqlTokens.Ends
  repeat rw [String.toList_ofList]
  decide

theorem table_ends : Ends (compared "t.relname".toList) [.word "and".toList, .word "t".toList,
    .symbol ['.'], .word "relname".toList, .symbol ['=']] := by
  unfold compared SqlTokens.Ends
  repeat rw [String.toList_ofList]
  decide

end Tokens

section Main
variable {g : Globals} {request : AGENT_REQUEST}

/-- Nothing is asked in a search mode that does not exist. -/
theorem not_searches_sends (fits : Fits request) (other : ¬ Searches request) {S : Server}
    (server : S.State) :
    commands (lastState (call g request .PG_INDEX_DISCOVERY (World.start server))).trace = [] := by
  unfold Searches at other
  simp only [not_or] at other
  rw [call_sent, played, index_plan fits, modePlan, if_neg (by tauto), if_neg other.2.2]
  rfl

theorem sent_built (fits : Fits request) {S : Server} (server : S.State) :
    ∀ sent ∈ commands (lastState (call g request .PG_INDEX_DISCOVERY (World.start server))).trace,
      sent.1 = PGSQL_CONNECTABLE_DATABASES ∨ sent.1 = builtQuery request := by
  have asked : Asked (fun q => ∀ connstring text params, q = .query connstring text params →
      text = PGSQL_CONNECTABLE_DATABASES ∨ text = builtQuery request)
      ((plan g request .PG_INDEX_DISCOVERY).dialogue request) := by
    rw [index_plan fits]
    refine asked_mode ?_ ?_
    · intro connstring text params e
      exact .inl (Question.query.inj e).2.1.symm
    · intro connstring' connstring text params e
      exact .inr (Question.query.inj e).2.1.symm
  intro sent hs
  obtain ⟨connstring, known⟩ := call_asked asked sent hs
  exact known _ _ _ rfl

def oneDatabase : scripted.State :=
  let answer := .PGRES_TUPLES_OK ⟨["datname".toList], [[some "postgres".toList]], by simp⟩
  ([(.CONNECTION_OK, answer), (.CONNECTION_OK, answer)] : List (ConnectReply × ExecReply))

theorem built_sent (fits : Fits request) (searches : Searches request) :
    (builtQuery request, []) ∈ commands (lastState (call g request .PG_INDEX_DISCOVERY
      (World.start oneDatabase))).trace := by
  rw [call_sent, played, index_plan fits, modePlan]
  split
  · have deep : sentOf (play (session scripted)
        ((Plan.wide (builtQuery request)).dialogue request) oneDatabase).exchanges =
          [(PGSQL_CONNECTABLE_DATABASES, []), (builtQuery request, [])] := rfl
    rw [deep]
    simp
  · rename_i not_deep
    have shallow : get_rparam request PARAM_FIRST = some "shallow".toList := by
      unfold Searches at searches
      tauto
    rw [if_pos shallow]
    exact List.mem_singleton_self _

set_option maxRecDepth 8000 in
theorem built_not_listing : builtQuery request ≠ PGSQL_CONNECTABLE_DATABASES := by
  have short : PGSQL_CONNECTABLE_DATABASES.length < 608 := by
    unfold PGSQL_CONNECTABLE_DATABASES
    simp only [literal, List.flatMap_cons, List.flatMap_nil]
    repeat rw [String.toList_ofList]
    decide
  intro same
  rw [← same, builtQuery, List.length_append, List.length_append, discover_length] at short
  omega

theorem nameFilter_head (column : CStr) (param : Option CStr) :
    (nameFilter column param).head? ≠ some '\'' := by
  match param with
  | none => simp [nameFilter]
  | some [] => simp [nameFilter]
  | some (c :: name) =>
    rw [nameFilter, comparison_eq, compared]
    simp

variable {fixed : List Token}

theorem built_tokens (read : tokens PGSQL_DISCOVER_INDEXES = some fixed)
    (schema : Unquoted (schemaName request)) (table : Unquoted (tableName request)) :
    tokens (builtQuery request) = some (fixed ++ conjunct "n" "nspname" (schemaName request) ++
      conjunct "t" "relname" (tableName request)) :=
  nameFilter_tokens table_ends (nameFilter_tokens schema_ends read schema) table

theorem unquoted_of_built (read : tokens PGSQL_DISCOVER_INDEXES = some fixed)
    (h : tokens (builtQuery request) = some (fixed ++
      conjunct "n" "nspname" (schemaName request) ++
      conjunct "t" "relname" (tableName request))) :
    Unquoted (schemaName request) ∧ Unquoted (tableName request) := by
  have schema : Unquoted (schemaName request) :=
    unquoted_of_tokens schema_ends read (nameFilter_head _ _) h
  have first := nameFilter_tokens schema_ends read schema
  have whole : tokens (PGSQL_DISCOVER_INDEXES ++ schemaFilter request ++ tableFilter request ++
      []) = some (fixed ++ conjunct "n" "nspname" (schemaName request) ++
        conjunct "t" "relname" (tableName request) ++ []) := by
    rw [List.append_nil, List.append_nil]
    exact h
  exact ⟨schema, unquoted_of_tokens table_ends first (by simp) whole⟩

/-- The query filters by the two names exactly where neither has a single quote in it. -/
theorem filters_by_name_iff (g : Globals) (request : AGENT_REQUEST) (fits : Fits request) :
    FiltersByName g request ↔
      (Searches request → Unquoted (schemaName request) ∧ Unquoted (tableName request)) := by
  obtain ⟨fixed, read⟩ := discover_tokens
  constructor
  · intro filters searches
    rcases filters scripted oneDatabase _ (built_sent fits searches) with listing | found
    · exact absurd listing built_not_listing
    · obtain ⟨fixed', read', h⟩ := found
      rw [read] at read'
      cases read'
      exact unquoted_of_built read h
  · intro plain S server sent hs
    by_cases searches : Searches request
    · obtain ⟨schema, table⟩ := plain searches
      rcases sent_built fits server sent hs with listing | built
      · exact .inl listing
      · exact .inr ⟨fixed, read, built ▸ built_tokens read schema table⟩
    · rw [not_searches_sends fits searches] at hs
      cases hs

theorem filters_by_name_iff_public :
    FiltersByName defaults (indexesOf "public".toList "accounts".toList) ↔
      (Searches (indexesOf "public".toList "accounts".toList) →
        Unquoted (schemaName (indexesOf "public".toList "accounts".toList)) ∧
        Unquoted (tableName (indexesOf "public".toList "accounts".toList))) :=
  filters_by_name_iff defaults _ (by decide)

/-- A schema name that ends its literal and adds a condition of its own. -/
def capturing : CStr := "' OR 'a' = 'a".toList

theorem quoted_name_captures : ¬ FiltersByName defaults (indexesOf capturing []) := by
  intro filters
  have fits : Fits (indexesOf capturing []) := by decide
  obtain ⟨fixed, read⟩ := discover_tokens
  rcases filters scripted oneDatabase _ (built_sent fits (.inl rfl)) with listing | found
  · exact absurd listing built_not_listing
  · obtain ⟨fixed', read', h⟩ := found
    rw [read] at read'
    cases read'
    exact (unquoted_of_built read h).1 _ rfl (by decide)

end Main

end LibZbxPgsql.IndexFilters
