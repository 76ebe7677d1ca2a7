import LibZbxPgsql.AgentModel

set_option autoImplicit false

/-! A view of a run: the state of the server, the result so far, the commands sent and the
handles live now. The rest of the trace is only there to be accepted by the ledger. -/
namespace LibZbxPgsql.WorldView
open StateFaultWp HandleLedger CStrings AgentModel

def oneConnection (live : List Handle) (h : Handle) : Bool :=
  !h.isConn || live.all fun l => !l.isConn

structure View (S : Server) where
  server : S.State
  result : AGENT_RESULT
  sent : List (CStr × List CStr)
  live : List Handle

structure Shows {S : Server} (w : World S) (v : View S) : Prop where
  server : w.server = v.server
  result : w.result = v.result
  sent : commands w.trace = v.sent
  live : ∃ seen, replay oneConnection empty (acts w.trace) = some ⟨seen, v.live⟩ ∧
    ∀ h ∈ seen, h.id < w.fresh

section Rules
variable {S : Server} {w : World S} {v : View S}

theorem acts_concat (t : List Event) (e : Event) : acts (t ++ [e]) = acts t ++ e.acts := by
  simp [acts]

theorem commands_concat (t : List Event) (e : Event) :
    commands (t ++ [e]) = commands t ++ e.command := by
  simp [commands]

theorem shows_start (server : S.State) :
    Shows (World.start server) ⟨server, .empty, [], []⟩ :=
  ⟨rfl, rfl, rfl, [], rfl, fun _ h => by cases h⟩

theorem shows_server (h : Shows w v) (server : S.State) :
    Shows { w with server := server } { v with server := server } :=
  ⟨rfl, h.result, h.sent, h.live⟩

theorem shows_result (h : Shows w v) (result : AGENT_RESULT) :
    Shows { w with result := result } { v with result := result } :=
  ⟨h.server, rfl, h.sent, h.live⟩

theorem shows_uses (h : Shows w v) {e : Event} {l : List Handle}
    (he : e.acts = l.map .use) (hl : ∀ x ∈ l, x ∈ v.live) :
    Shows { w with trace := w.trace ++ [e] } { v with sent := v.sent ++ e.command } := by
  obtain ⟨seen, accepted, below⟩ := h.live
  refine ⟨h.server, h.result, ?_, seen, ?_, below⟩
  · rw [commands_concat, h.sent]
  · rw [acts_concat, replay_append, accepted, he]
    exact replay_uses oneConnection hl

/-- An event that uses some handles and acquires one. -/
theorem shows_acquire (h : Shows w v) {e : Event} {l : List Handle} {i : Handle}
    (he : e.acts = l.map .use ++ [.acquire i]) (hl : ∀ x ∈ l, x ∈ v.live)
    (hi : i.id = w.fresh) (admitted : oneConnection v.live i = true) :
    Shows { w with fresh := w.fresh + 1, trace := w.trace ++ [e] }
      { v with sent := v.sent ++ e.command, live := i :: v.live } := by
  obtain ⟨seen, accepted, below⟩ := h.live
  have new : i ∉ seen := fun hm => by
    have := below i hm
    omega
  refine ⟨h.server, h.result, ?_, i :: seen, ?_, ?_⟩
  · rw [commands_concat, h.sent]
  · rw [acts_concat, replay_append, accepted, he, Option.bind_some, replay_append,
      replay_uses oneConnection hl, Option.bind_some]
    simp [replay, step, new, admitted]
  · intro x hx
    change x.id < w.fresh + 1
    rcases List.mem_cons.mp hx with rfl | hx
    · omega
    · have := below x hx
      omega

theorem shows_release (h : Shows w v) {e : Event} {i : Handle} (he : e.acts = [.release i])
    (hi : i ∈ v.live) :
    Shows { w with trace := w.trace ++ [e] }
      { v with sent := v.sent ++ e.command, live := v.live.erase i } := by
  obtain ⟨seen, accepted, below⟩ := h.live
  refine ⟨h.server, h.result, ?_, seen, ?_, below⟩
  · rw [commands_concat, h.sent]
  · rw [acts_concat, replay_append, accepted, he, Option.bind_some]
    simp [replay, step, hi]

/-- What a view says about the trace itself. -/
theorem shows_releasedOnce (h : Shows w v) (p : Handle → Bool) :
    ReleasedOnce p (acts w.trace) ↔ ∀ i ∈ v.live, p i = false := by
  obtain ⟨seen, accepted, -⟩ := h.live
  exact releasedOnce_iff oneConnection p accepted

theorem shows_untouchedAfterRelease (h : Shows w v) (p : Handle → Bool) :
    UntouchedAfterRelease p (acts w.trace) := by
  obtain ⟨seen, accepted, -⟩ := h.live
  exact untouchedAfterRelease oneConnection p accepted

theorem shows_oneAtATime (h : Shows w v) : OneAtATime Handle.isConn (acts w.trace) := by
  obtain ⟨seen, accepted, -⟩ := h.live
  refine oneAtATime oneConnection Handle.isConn ?_ accepted
  intro live i admitted hi
  rw [List.countP_eq_zero]
  simpa [oneConnection, hi] using admitted

end Rules

end LibZbxPgsql.WorldView
