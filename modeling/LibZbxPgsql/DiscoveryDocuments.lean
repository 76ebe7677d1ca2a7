import LibZbxPgsql.PlanShapes

set_option autoImplicit false

namespace LibZbxPgsql.DiscoveryDocuments
open StateFaultWp CStrings PrintfFormat AgentModel Connections Drivers Discovery ItemKeys
open Dialogues WorldView Sessions DialogueRefinement DriverDialogues HandlerPlans KeyPlans
open HandleDiscipline PlanShapes

abbrev Cell := CStr × Option CStr

def stringOf : Json → Option CStr
  | .string s => some s
  | _ => none

def readMacro (name : CStr) : Json → Option CStr
  | .object members => (members.find? fun member => decide (member.1 = name)).bind
      fun member => stringOf member.2
  | _ => none

/-- The object gives every cell of the row back. -/
def Restores (object : Json) (cells : List Cell) : Prop :=
  ∀ cell ∈ cells, readMacro (macroName cell.1) object = some (fieldText cell.2)

/-- Columns that share a macro show the same text. -/
def Consistent (cells : List Cell) : Prop :=
  ∀ a ∈ cells, ∀ b ∈ cells, macroName a.1 = macroName b.1 → fieldText a.2 = fieldText b.2

theorem readMacro_row (name : CStr) (fields : List CStr) (row : List (Option CStr)) :
    readMacro name (rowObject fields row) =
      ((fields.zip row).find? fun cell => decide (macroName cell.1 = name)).map
        fun cell => fieldText cell.2 := by
  rw [rowObject, readMacro]
  induction fields.zip row with
  | nil => rfl
  | cons cell cells ih =>
    rw [List.map_cons, List.find?_cons, List.find?_cons]
    cases decide (macroName cell.1 = name) with
    | true => rfl
    | false => exact ih

/-- A row comes back from its object just where its columns are consistent. -/
theorem row_restored_iff (fields : List CStr) (row : List (Option CStr)) :
    Restores (rowObject fields row) (fields.zip row) ↔ Consistent (fields.zip row) := by
  constructor
  · intro restores a ha b hb same
    have first := restores a ha
    rw [same, restores b hb] at first
    exact (Option.some.inj first).symm
  · intro consistent a ha
    rw [readMacro_row]
    cases found : (fields.zip row).find? fun cell =>
        decide (macroName cell.1 = macroName a.1) with
    | none =>
      have missing := List.find?_eq_none.mp found a ha
      simp at missing
    | some b =>
      have shared : macroName b.1 = macroName a.1 := by
        simpa using List.find?_some found
      rw [Option.map_some, consistent b (List.mem_of_find?_eq_some found) a ha shared]

/-- The longest name that a server of the default build has. -/
def NAMEDATALEN : ℕ := 64

/-- Names of columns as the server has them, that differ in more than case. -/
structure Distinct (fields : List CStr) : Prop where
  short : ∀ name ∈ fields, name.length < NAMEDATALEN
  apart : (fields.map fun name => name.map toupper).Nodup

theorem macroName_short {name : CStr} (h : name.length < NAMEDATALEN) :
    macroName name = '{' :: '#' :: (name.map toupper ++ ['}']) := by
  refine macroName_fits ?_
  rw [NAMEDATALEN] at h
  rw [MAX_STRING_LEN]
  omega

theorem distinct_macros {fields : List CStr} (h : Distinct fields) :
    (fields.map macroName).Nodup := by
  have wrapped : fields.map macroName =
      (fields.map fun name => name.map toupper).map fun name => '{' :: '#' :: (name ++ ['}']) := by
    rw [List.map_map]
    exact List.map_congr_left fun name hn => macroName_short (h.short name hn)
  rw [wrapped]
  refine h.apart.map ?_
  intro a b same
  simpa using same

theorem distinct_consistent {fields : List CStr} (h : Distinct fields)
    {row : List (Option CStr)} (width : row.length = fields.length) :
    Consistent (fields.zip row) := by
  have names : (fields.zip row).map (fun cell => macroName cell.1) = fields.map macroName := by
    rw [← Function.comp_def macroName Prod.fst, ← List.map_map,
      List.map_fst_zip (Nat.le_of_eq width.symm)]
  have apart := distinct_macros h
  rw [← names] at apart
  intro a ha b hb same
  rw [List.inj_on_of_nodup_map apart ha hb same]

def answers (exchanges : List (Question × Reply)) : List Tuples :=
  exchanges.filterMap fun e => match e.2 with
    | .answered tuples => some tuples
    | _ => none

def documentOf : Except Fault Outcome → Option Json
  | .ok ⟨.value (.str (.json document)), _⟩ => some document
  | _ => none

/-- A document shows the last answer, or, of a deep search, all but the first. -/
inductive Displays (request : AGENT_REQUEST) (f : Handler) : List Tuples → List Tuples → Prop where
  | last (other : ¬ SearchesDeep request f) (earlier : List Tuples) (tuples : Tuples) :
    Displays request f (earlier ++ [tuples]) [tuples]
  | deep (search : SearchesDeep request f) (listing : Tuples) (shown : List Tuples) :
    Displays request f (listing :: shown) shown

section Documents
variable {request : AGENT_REQUEST} {f : Handler}

def DocumentOf (request : AGENT_REQUEST) (f : Handler) (exchanges : List (Question × Reply))
    (result : Except Fault Outcome) : Prop :=
  ∀ document, documentOf result = some document → ∃ shown,
    Displays request f (answers exchanges) shown ∧
      document = discoveryDocument (shown.flatMap tuplesData)

theorem answers_append (a b : List (Question × Reply)) :
    answers (a ++ b) = answers a ++ answers b := List.filterMap_append

theorem no_document {exchanges : List (Question × Reply)} {result : Except Fault Outcome}
    (h : documentOf result = none) : DocumentOf request f exchanges result := by
  intro document found
  rw [h] at found
  cases found

theorem discoveryAsk_document (other : ¬ SearchesDeep request f)
    (before : List (Question × Reply)) (query : CStr) (params : List CStr) :
    Relates (discoveryAsk request query params) fun es r =>
      DocumentOf request f (before ++ es) r := by
  intro reply
  cases reply with
  | refused m | noResult | failed m => exact relates_done (no_document rfl)
  | answered tuples =>
    rintro document ⟨⟩
    refine ⟨[tuples], ?_, by rw [List.flatMap_singleton]⟩
    rw [answers_append]
    exact .last other _ tuples

theorem resultAsk_document (before : List (Question × Reply)) (type : ResultType)
    (query : CStr) (params : List CStr) :
    Relates (resultAsk request type query params) fun es r =>
      DocumentOf request f (before ++ es) r := by
  rw [resultAsk, scalarAsk, andThen]
  refine relates_ask fun reply => ?_
  cases scalarEnd query MAX_STRING_LEN reply with
  | error e => exact relates_done (no_document rfl)
  | ok e =>
    cases e with
    | refused m | failed m => exact relates_done (no_document rfl)
    | value text => cases type <;> exact relates_done (no_document rfl)

theorem steps_document (other : ¬ SearchesDeep request f) (steps : Steps) (params : List CStr)
    (before : List (Question × Reply)) :
    Relates (steps.dialogue request params) fun es r =>
      DocumentOf request f (before ++ es) r := by
  induction steps generalizing params before with
  | reject format args => exact relates_done (no_document rfl)
  | fault e => exact relates_done (no_document rfl)
  | append param next ih => exact ih _ _
  | version next ih =>
    rw [Steps.dialogue, scalarAsk, andThen]
    refine relates_ask fun reply => ?_
    cases scalarEnd PGSQL_VERSION_NUM MAX_STRING_LEN reply with
    | error e => exact relates_done (no_document rfl)
    | ok e =>
      cases e with
      | refused m | failed m => exact relates_done (no_document rfl)
      | value text =>
        simp only [afterVersion]
        split
        · exact relates_done (no_document rfl)
        · have rest := ih (versionNumber text) params
            (before ++ [(.query (requestConnstring request) PGSQL_VERSION_NUM [], reply)])
          refine relates_mono rest fun es r h => ?_
          rw [List.append_assoc] at h
          exact h
  | scalar type query => exact resultAsk_document _ _ _ _
  | discovery query => exact discoveryAsk_document other _ _ _

theorem wideAsk_document (connstring : Option CStr) (query : CStr) (dbs : List CStr)
    (search : SearchesDeep request f) (before : List (Question × Reply)) (listing : Tuples)
    (shown : List Tuples) (answered : answers before = listing :: shown) :
    Relates (wideAsk connstring query dbs (shown.flatMap tuplesData)) fun es r =>
      DocumentOf request f (before ++ es) r := by
  induction dbs generalizing before shown with
  | nil =>
    rintro document ⟨⟩
    refine ⟨shown, ?_, rfl⟩
    rw [List.append_nil, answered]
    exact .deep search listing shown
  | cons db dbs ih =>
    intro reply
    cases reply with
    | refused m | noResult | failed m => exact relates_done (no_document rfl)
    | answered tuples =>
      have more : answers (before ++ [(.query (build_connstring connstring (some db)) query [],
          .answered tuples)]) = listing :: (shown ++ [tuples]) := by
        rw [answers_append, answered]
        rfl
      have rest := ih _ _ more
      rw [List.flatMap_append, List.flatMap_singleton] at rest
      refine relates_mono rest fun es r h => ?_
      rw [List.append_assoc] at h
      exact h

theorem wide_document (query : CStr) (search : SearchesDeep request f) :
    Relates (discoveryWideAsk request query) (DocumentOf request f) := by
  rw [discoveryWideAsk, databasesAsk, andThen]
  refine relates_ask fun reply => ?_
  cases ends : databasesEnd reply with
  | error e => exact relates_done (no_document rfl)
  | ok names =>
    cases names with
    | error m => exact relates_done (no_document rfl)
    | ok names =>
      obtain ⟨tuples, rfl⟩ : ∃ tuples, reply = .answered tuples := by
        cases reply with
        | refused m | noResult | failed m => cases ends
        | answered tuples => exact ⟨tuples, rfl⟩
      exact wideAsk_document _ _ _ search [(_, .answered tuples)] tuples [] rfl

theorem shape_document {g : Globals} {plan : Plan} (other : ¬ SearchesDeep request f)
    (shape : PlanShape g request f plan) :
    Relates (plan.dialogue request) (DocumentOf request f) := by
  cases shape with
  | steps shape => exact steps_document other _ _ []
  | overrun index full => exact relates_done (no_document rfl)
  | report value => exact relates_done (no_document rfl)
  | ping =>
    intro reply
    cases reply <;> exact relates_done (no_document rfl)
  | wide search query => exact wide_document query search
  | setting name =>
    intro reply
    refine relates_done (no_document ?_)
    cases reply with
    | refused m | noResult | failed m => rfl
    | answered tuples =>
      rw [settingEnd]
      rcases tuples.rows with _ | ⟨_ | ⟨value, _ | ⟨type, row⟩⟩, rows⟩
      · rfl
      · rfl
      · rfl
      · simp only [settingValue]
        split
        · rfl
        · split <;> rfl
  | indexStat query index =>
    intro reply
    refine relates_done (no_document ?_)
    cases reply with
    | refused m | noResult | failed m => rfl
    | answered tuples =>
      rw [indexStatEnd]
      rcases tuples.rows with _ | ⟨_ | ⟨value, row⟩, rows⟩ <;> rfl

theorem plan_document (g : Globals) (request : AGENT_REQUEST) (f : Handler) :
    Relates ((plan g request f).dialogue request) (DocumentOf request f) := by
  by_cases search : SearchesDeep request f
  · obtain ⟨query, same⟩ | same := deep_plan (g := g) search
    · exact same ▸ wide_document query search
    · exact same ▸ relates_done (no_document rfl)
  · exact shape_document search (plan_shape g request f)

end Documents

section Main
variable {S : Server} {g : Globals} {request : AGENT_REQUEST} {f : Handler}

def rowCells (tuples : Tuples) : List (List Cell) := tuples.rows.map tuples.fields.zip

/-- Whatever document a handler sets holds one object for each row of the answers it
    displays, in order. The row comes back from it just where columns of one macro agree, and
    so where the names of the columns differ in more than case. -/
theorem discovery_restores {server : S.State} {ret : Ret} {w : World S} {document : Json}
    (run : call g request f (World.start server) = .ok ret w)
    (set : w.result.str = some (.json document)) :
    ∃ (shown : List Tuples) (data : List Json), document = discoveryDocument data ∧
      Displays request f (answers (played S g request f server).exchanges) shown ∧
      List.Forall₂ (fun object cells => Restores object cells ↔ Consistent cells) data
        (shown.flatMap rowCells) ∧
      ∀ tuples ∈ shown, Distinct tuples.fields → ∀ cells ∈ rowCells tuples, Consistent cells := by
  obtain ⟨o, v, result, -, -, hres, -⟩ := call_returned run
  have related := relates_play (session S) (plan_document g request f) server
  obtain ⟨report, leaked⟩ := o
  have sets : documentOf (played S g request f server).result = some document := by
    rw [result]
    rw [hres] at set
    cases report with
    | value value =>
      cases value with
      | ui64 n | dbl text => cases set
      | str s =>
        cases set
        rfl
    | error m | silent => cases set
  obtain ⟨shown, displays, rfl⟩ := related document sets
  refine ⟨shown, shown.flatMap tuplesData, rfl, displays, ?_, ?_⟩
  · clear displays sets set
    induction shown with
    | nil => exact .nil
    | cons tuples shown ih =>
      rw [List.flatMap_cons, List.flatMap_cons]
      refine List.rel_append ?_ ih
      rw [tuplesData, rowCells, List.forall₂_map_left_iff, List.forall₂_map_right_iff,
        List.forall₂_same]
      exact fun row _ => row_restored_iff tuples.fields row
  · intro tuples _ distinct cells hc
    obtain ⟨row, hr, rfl⟩ := List.mem_map.mp hc
    exact distinct_consistent distinct (tuples.width row hr)

end Main

def dbRequest : AGENT_REQUEST := ⟨"pg.db.discovery".toList, []⟩

def twoDatabases : Tuples :=
  ⟨["database".toList, "owner".toList],
   [[some "a".toList, some "zabbix".toList], [some "b".toList, none]], by decide⟩

theorem discovery_restores_databases :
    ∃ (shown : List Tuples) (data : List Json),
      discoveryDocument (tuplesData twoDatabases) = discoveryDocument data ∧
      Displays dbRequest .PG_DB_DISCOVERY (answers (played scripted defaults dbRequest
        .PG_DB_DISCOVERY [(.CONNECTION_OK, .PGRES_TUPLES_OK twoDatabases)]).exchanges) shown ∧
      List.Forall₂ (fun object cells => Restores object cells ↔ Consistent cells) data
        (shown.flatMap rowCells) ∧
      ∀ tuples ∈ shown, Distinct tuples.fields → ∀ cells ∈ rowCells tuples, Consistent cells :=
  discovery_restores (S := scripted) (g := defaults) rfl rfl

end LibZbxPgsql.DiscoveryDocuments
