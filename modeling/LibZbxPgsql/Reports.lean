import LibZbxPgsql.Conclusions

set_option autoImplicit false

namespace LibZbxPgsql.Reports
open StateFaultWp CStrings AgentModel Connections Drivers ItemKeys
open Dialogues WorldView Sessions DialogueRefinement DriverDialogues HandlerPlans KeyPlans
open Conclusions

section Answers
variable {S : Server} {s : S.State} {request : AGENT_REQUEST} {query : CStr}
  {params : List CStr} {t : CStr}

variable (S s request query params t) in
/-- The query is answered, and this is the text of its first value. -/
def Answers : Prop :=
  firstText (session S s (.query (requestConnstring request) query params)).1 = some t

/-- The rows behind a first text. -/
theorem firstText_rows {reply : Reply} (h : firstText reply = some t) :
    ∃ tuples value row rows, reply = .answered tuples ∧
      tuples.rows = (value :: row) :: rows ∧ fieldText value = t := by
  cases reply with
  | refused m | noResult | failed m => cases h
  | answered tuples =>
    rw [firstText] at h
    rcases hrows : tuples.rows with _ | ⟨_ | ⟨value, row⟩, rows⟩
    · rw [hrows] at h
      cases h
    · rw [hrows] at h
      cases h
    · rw [hrows] at h
      cases h
      exact ⟨tuples, value, row, rows, rfl, hrows, rfl⟩

theorem scalarEnd_answered {reply : Reply} (h : firstText reply = some t) (bufferlen : ℕ) :
    scalarEnd query bufferlen reply = .ok (.value (zbx_strlcpy t bufferlen)) := by
  obtain ⟨tuples, value, row, rows, rfl, hrows, rfl⟩ := firstText_rows h
  simp only [scalarEnd, hrows]

theorem result_answered (answer : Answers S s request query params t) (type : ResultType) :
    (play (session S) (resultAsk request type query params) s).result =
      .ok ⟨resultReport (zbx_strlcpy t MAX_STRING_LEN) type, []⟩ := by
  rw [resultAsk, andThen, scalarAsk, Dialogue.bind, play_ask]
  simp only [Dialogue.bind, scalarEnd_answered answer, play_done, resultOutcome]

end Answers

structure Ready {S : Server} (w : World S) (v : View S) (params : PGparams) : Prop where
  shows_view : Shows w v
  apart : ∃ L, v.live = paramsHandle params ++ L ∧ noConn L
  packed : Packed params

theorem ready_start {S : Server} (server : S.State) :
    Ready (World.start server) ⟨server, .empty, [], []⟩ none where
  shows_view := shows_start server
  apart := ⟨[], rfl, fun _ hx => by cases hx⟩
  packed := packed_none

section Results
variable {S : Server} {w : World S} {v : View S} {params : PGparams} {request : AGENT_REQUEST}
  {query t : CStr}

theorem pg_get_result_answered (ready : Ready w v params)
    (answer : Answers S v.server request query (cells params) t) (type : ResultType) :
    ∃ w', pg_get_result request type query params w =
        .ok (resultReport (zbx_strlcpy t MAX_STRING_LEN) type).ret w' ∧
      w'.result = (resultReport (zbx_strlcpy t MAX_STRING_LEN) type).on v.result := by
  obtain ⟨L, live, idle⟩ := ready.apart
  have realised := pg_get_result_realises params ready.shows_view live idle ready.packed
    request type query
  obtain ⟨ret, w', v', run, shows', -, rfl, result, -⟩ :=
    realises_returned realised (result_answered answer type)
  exact ⟨w', run, shows'.result.trans result⟩

end Results

section Handlers
variable {S : Server} {g : Globals} {request : AGENT_REQUEST} {f : Handler} {server : S.State}

/-- The run returns, and this is all it reports. -/
def Delivers (S : Server) (g : Globals) (request : AGENT_REQUEST) (f : Handler)
    (server : S.State) (report : Report) : Prop :=
  ∃ w, call g request f (World.start server) = .ok report.ret w ∧ w.result = report.on .empty

theorem delivers_of_played {o : Outcome}
    (result : (played S g request f server).result = .ok o) :
    Delivers S g request f server o.report := by
  obtain ⟨ret, w, v, run, shows_view, -, rfl, reported, -⟩ :=
    realises_returned (call_realises S g request f server) result
  exact ⟨w, run, shows_view.result.trans reported⟩

/-- A run reports one thing. -/
theorem delivers_result {report : Report} {ret : Ret} {w : World S}
    (h : Delivers S g request f server report)
    (run : call g request f (World.start server) = .ok ret w) :
    ret = report.ret ∧ w.result = report.on .empty := by
  obtain ⟨w', run', result⟩ := h
  rw [run'] at run
  cases run
  exact ⟨rfl, result⟩

theorem delivers_unique {report report' : Report} (h : Delivers S g request f server report)
    (h' : Delivers S g request f server report') : report.on .empty = report'.on .empty := by
  obtain ⟨w, run, result⟩ := h
  rw [← result, (delivers_result h' run).2]

/-- A handler that runs one query reports its first value. -/
theorem delivers_answered (type : ResultType) {query t : CStr} {params : List CStr}
    (asks : (plan g request f).dialogue request = resultAsk request type query params)
    (answer : Answers S server request query params t) :
    Delivers S g request f server (resultReport (zbx_strlcpy t MAX_STRING_LEN) type) := by
  have result : (played S g request f server).result =
      .ok ⟨resultReport (zbx_strlcpy t MAX_STRING_LEN) type, []⟩ := by
    rw [played, asks]
    exact result_answered answer type
  exact delivers_of_played result

end Handlers

end LibZbxPgsql.Reports
