import LibZbxPgsql.Sessions

set_option autoImplicit false

/-! A program of the agent realises a dialogue when its runs are the plays of it against the
server. The rules below follow the code of the drivers: steps that ask nothing, sequencing,
and a connection with the command sent over it. -/
namespace LibZbxPgsql.DialogueRefinement
open StateFaultWp CStrings PrintfFormat AgentModel Connections Drivers
open Dialogues WorldView Sessions

abbrev Asks (β : Type) := Dialogue Question Reply (Except Fault β)

def andThen {β γ : Type} (d : Asks β) (f : β → Asks γ) : Asks γ :=
  d.bind fun
    | .ok b => f b
    | .error e => .done (.error e)

def sentOf (exchanges : List (Question × Reply)) : List (CStr × List CStr) :=
  exchanges.filterMap sentBy

section Realises
variable {S : Server} {α β γ δ : Type} {w : World S} {v : View S} {L : List Handle}

/-- Run from `w`, `m` plays the dialogue from the server state `s`: it returns where the
    dialogue ends in a value, in a world that `post` describes, and faults where it
    ends in a fault. -/
def Realises (m : Agent S α) (d : Asks β) (s : S.State) (sent : List (CStr × List CStr))
    (post : β → α → View S → Prop) (w : World S) : Prop :=
  wp m
    (fun a w' => ∃ b v', (play (session S) d s).result = .ok b ∧ Shows w' v' ∧
      v'.server = (play (session S) d s).state ∧
      v'.sent = sent ++ sentOf (play (session S) d s).exchanges ∧ post b a v')
    (fun e w' => (play (session S) d s).result = .error e ∧
      commands w'.trace = sent ++ sentOf (play (session S) d s).exchanges) w

theorem realises_done {m : Agent S α} {b : β} {s : S.State} {sent : List (CStr × List CStr)}
    {post : β → α → View S → Prop}
    (h : wp m (fun a w' => ∃ v', Shows w' v' ∧ v'.server = s ∧ v'.sent = sent ∧ post b a v')
      (fun _ _ => False) w) :
    Realises m (.done (.ok b)) s sent post w := by
  refine wp_mono h ?_ (fun _ _ he => he.elim)
  rintro a w' ⟨v', shows, server, same, hp⟩
  exact ⟨b, v', rfl, shows, server, by simp [sentOf, same], hp⟩

theorem realises_fault {e : Fault} {s : S.State} {post : β → α → View S → Prop}
    (h : Shows w v) : Realises (throw e : Agent S α) (.done (.error e)) s v.sent post w :=
  ⟨rfl, by simp [sentOf, h.sent]⟩

/-- Steps that ask nothing may come first. -/
theorem realises_silent {m : Agent S γ} {f : γ → Agent S α} {d : Asks β} {s : S.State}
    {sent : List (CStr × List CStr)} {post : β → α → View S → Prop}
    {Q : γ → World S → Prop} (hm : wp m Q (fun _ _ => False) w)
    (hf : ∀ a w', Q a w' → Realises (f a) d s sent post w') :
    Realises (m >>= f) d s sent post w :=
  wp_seq hm hf

theorem realises_bind {m : Agent S γ} {f : γ → Agent S α} {d : Asks δ} {g : δ → Asks β}
    {s : S.State} {sent : List (CStr × List CStr)} {P : δ → γ → View S → Prop}
    {post : β → α → View S → Prop} (hm : Realises m d s sent P w)
    (hf : ∀ b a v' w', P b a v' → Shows w' v' → Realises (f a) (g b) v'.server v'.sent post w') :
    Realises (m >>= f) (andThen d g) s sent post w := by
  unfold Realises at hm ⊢
  rw [wp_bind, andThen, play_bind]
  refine wp_mono hm ?_ ?_
  · rintro a w' ⟨b, v', result, shows, server, hs, hp⟩
    have rest := hf b a v' w' hp shows
    unfold Realises at rest
    rw [server, hs] at rest
    simp only [result, sentOf, List.filterMap_append] at rest ⊢
    simpa only [List.append_assoc] using rest
  · rintro e w' ⟨result, hs⟩
    simp only [result, play_done, List.append_nil]
    exact ⟨trivial, hs⟩

theorem realises_post {m : Agent S α} {d : Asks β} {s : S.State}
    {sent : List (CStr × List CStr)} {P post : β → α → View S → Prop}
    (h : Realises m d s sent P w) (hP : ∀ b a v', P b a v' → post b a v') :
    Realises m d s sent post w := by
  refine wp_post h ?_
  rintro a w' ⟨b, v', result, shows, server, hs, hp⟩
  exact ⟨b, v', result, shows, server, hs, hP b a v' hp⟩

/-- Where the dialogue ends in a value, the code returns. -/
theorem realises_returned {m : Agent S α} {d : Asks β} {s : S.State}
    {sent : List (CStr × List CStr)} {post : β → α → View S → Prop}
    (h : Realises m d s sent post w) {b : β} (result : (play (session S) d s).result = .ok b) :
    ∃ a w' v', m w = .ok a w' ∧ Shows w' v' ∧ v'.server = (play (session S) d s).state ∧
      post b a v' := by
  unfold Realises wp at h
  cases hm : m w with
  | ok a w' =>
    rw [hm] at h
    obtain ⟨b', v', result', shows, server, -, hp⟩ := h
    rw [result] at result'
    cases result'
    exact ⟨a, w', v', rfl, shows, server, hp⟩
  | error e w' =>
    rw [hm, result] at h
    cases h.1

theorem session_refused {s s' : S.State} {connstring m : CStr}
    (hr : refusal S s connstring = (some m, s')) (command : CStr) (params : List CStr) :
    session S s (.query connstring command params) = (.refused m, s') := by
  rw [session, hr]

theorem session_opened {s s' : S.State} {connstring : CStr}
    (hr : refusal S s connstring = (none, s')) (command : CStr) (params : List CStr) :
    session S s (.query connstring command params) =
      (replyOf (S.exec s' connstring command params).1,
       S.finish (S.exec s' connstring command params).2) := by
  rw [session, hr]

theorem realises_ask {m : Agent S α} {q : Question} {next : Reply → Asks β} {s s' : S.State}
    {sent : List (CStr × List CStr)} {post : β → α → View S → Prop} {reply : Reply}
    (hs : session S s q = (reply, s'))
    (h : Realises m (next reply) s' (sent ++ (sentBy (q, reply)).toList) post w) :
    Realises m (.ask q next) s sent post w := by
  unfold Realises at h ⊢
  rw [play_ask, hs]
  have concat : ∀ l, (sent ++ (sentBy (q, reply)).toList) ++ sentOf l =
      sent ++ sentOf ((q, reply) :: l) := by
    intro l
    rw [sentOf, sentOf, List.filterMap_cons]
    cases sentBy (q, reply) <;> simp
  simpa only [concat] using h

theorem noConn_append {l l' : List Handle} (h : noConn l) (h' : noConn l') :
    noConn (l ++ l') := by
  intro x hx
  rcases List.mem_append.mp hx with hx | hx
  · exact h x hx
  · exact h' x hx

theorem noConn_params (params : PGparams) : noConn (paramsHandle params) := by
  intro x hx
  cases params with
  | none => cases hx
  | some array =>
    cases List.mem_singleton.mp hx
    rfl

theorem params_not_conn (params : PGparams) (id : ℕ) :
    ∀ x ∈ paramsHandle params, x ∉ [Handle.conn id] := by
  intro x hx hm
  have other := noConn_params params x hx
  rw [List.mem_singleton.mp hm] at other
  cases other

theorem sentBy_replyOf (connstring command : CStr) (params : List CStr) (reply : ExecReply) :
    (sentBy (.query connstring command params, replyOf reply)).toList = [(command, params)] := by
  cases reply <;> rfl

/-- The rule for a connection attempt whose failure is reported. -/
theorem realises_connect {connstring command : CStr} {r : ResultArg} {params : List CStr}
    {m : Option PGconn → Agent S α} {next : Reply → Asks β} {post : β → α → View S → Prop}
    (h : Shows w v) (hl : noConn v.live)
    (refused : ∀ message s' w',
      Shows w' { v with
        server := s'
        result := reportOn r (vsnprintf MAX_STRING_LEN message []) v.result } →
      Realises (m none) (next (.refused message)) s' v.sent post w')
    (opened : ∀ s' id w', Shows w' { v with server := s', live := .conn id :: v.live } →
      Realises (m (some ⟨id, connstring, .CONNECTION_OK, []⟩))
        (next (replyOf (S.exec s' connstring command params).1))
        (S.finish (S.exec s' connstring command params).2) (v.sent ++ [(command, params)])
        post w') :
    Realises (pg_connect connstring r >>= m)
      (.ask (.query connstring command params) next) v.server v.sent post w := by
  cases hr : refusal S v.server connstring with
  | mk message s' =>
    cases message with
    | some message =>
      refine realises_ask (session_refused hr command params) ?_
      refine realises_silent (pg_connect_refused h hl hr) ?_
      rintro conn w₁ ⟨rfl, h₁⟩
      have rest := refused message s' w₁ h₁
      simpa only [sentBy, Option.toList_none, List.append_nil] using rest
    | none =>
      refine realises_ask (session_opened hr command params) ?_
      refine realises_silent (pg_connect_opened h hl hr) ?_
      rintro conn w₁ ⟨id, rfl, h₁⟩
      rw [sentBy_replyOf]
      exact opened s' id w₁ h₁

/-- The rule for the drivers' common beginning: connect, then execute a command that
    consumes the parameter array. -/
theorem realises_fetch (params : PGparams) {connstring command : CStr} {r : ResultArg}
    {m : Option PGconn → Agent S α} {body : PGconn → Option PGresult → Agent S α}
    {next : Reply → Asks β} {post : β → α → View S → Prop}
    (hm : ∀ c, m (some c) = pg_exec c command params >>= body c)
    (h : Shows w v) (hv : v.live = paramsHandle params ++ L) (hL : noConn L)
    (refused : ∀ message s' w',
      Shows w' { v with
        server := s'
        result := reportOn r (vsnprintf MAX_STRING_LEN message []) v.result } →
      Realises (m none) (next (.refused message)) s' v.sent post w')
    (answered : ∀ reply s' id res w', Received reply res →
      Shows w' ⟨s', v.result, v.sent ++ [(command, cells params)],
        resultHandle res ++ .conn id :: L⟩ →
      Realises (body ⟨id, connstring, .CONNECTION_OK, []⟩ res) (next reply) (S.finish s')
        (v.sent ++ [(command, cells params)]) post w') :
    Realises (pg_connect connstring r >>= m)
      (.ask (.query connstring command (cells params)) next) v.server v.sent post w := by
  have hl : noConn v.live := by
    rw [hv]
    exact noConn_append (noConn_params params) hL
  refine realises_connect h hl refused ?_
  intro s' id w₁ h₁
  rw [hm]
  refine realises_silent (pg_exec_spec (K := [.conn id]) h₁ (congrArg _ hv)
    List.mem_cons_self (params_not_conn params id) command) ?_
  rintro res w₂ ⟨received, h₂⟩
  exact answered _ _ id res w₂ received h₂

/-- The same where the array is made between the two. -/
theorem realises_fetch_new {connstring command : CStr} {r : ResultArg} {s : Option CStr}
    {m : Option PGconn → Agent S α} {body : PGconn → Option PGresult → Agent S α}
    {next : Reply → Asks β} {post : β → α → View S → Prop}
    (hm : ∀ c, m (some c) = param_new s >>= fun params => pg_exec c command params >>= body c)
    (h : Shows w v) (hv : v.live = L) (hL : noConn L)
    (refused : ∀ message s' w',
      Shows w' { v with
        server := s'
        result := reportOn r (vsnprintf MAX_STRING_LEN message []) v.result } →
      Realises (m none) (next (.refused message)) s' v.sent post w')
    (answered : ∀ reply s' id res w', Received reply res →
      Shows w' ⟨s', v.result, v.sent ++ [(command, bound s)],
        resultHandle res ++ .conn id :: L⟩ →
      Realises (body ⟨id, connstring, .CONNECTION_OK, []⟩ res) (next reply) (S.finish s')
        (v.sent ++ [(command, bound s)]) post w') :
    Realises (pg_connect connstring r >>= m)
      (.ask (.query connstring command (bound s)) next) v.server v.sent post w := by
  refine realises_connect h (hv ▸ hL) refused ?_
  intro s' id w₁ h₁
  rw [hm]
  refine realises_silent (param_append_spec none h₁ rfl packed_none s) ?_
  rintro params w₂ ⟨hc, -, h₂⟩
  have one : cells params = bound s := hc
  refine realises_silent (pg_exec_spec (c := ⟨id, connstring, .CONNECTION_OK, []⟩) (K := []) h₂ rfl
    (List.mem_append_right _ List.mem_cons_self) (fun _ _ hm => by cases hm) command) ?_
  rintro res w₃ ⟨received, h₃⟩
  rw [one] at received h₃
  rw [hv] at h₃
  simpa only [one] using answered _ _ id res w₃ received h₃

end Realises

end LibZbxPgsql.DialogueRefinement
