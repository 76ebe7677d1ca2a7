import LibZbxPgsql.ActivityClauses
import LibZbxPgsql.HandleDiscipline

set_option autoImplicit false

namespace LibZbxPgsql.Conclusions
open CStrings PrintfFormat AgentModel Connections Drivers Discovery NamedQueries ItemKeys
open Dialogues Sessions DialogueRefinement DriverDialogues HandlerPlans KeyPlans
open HandleDiscipline ActivityClauses

section Answers
variable (S : Server) (s : S.State) (request : AGENT_REQUEST)

def Refused : Prop := (refusal S s (requestConnstring request)).1 ≠ none

def versionAnswer : Reply × S.State :=
  session S s (.query (requestConnstring request) PGSQL_VERSION_NUM [])

def afterVersionQuery : S.State := (versionAnswer S s request).2

def firstText : Reply → Option CStr
  | .answered tuples => tuples.rows.head?.bind fun row => row.head?.map fieldText
  | _ => none

/-- The version as the handlers convert it, `none` where the query did not return one. -/
def versionRead : Option ℤ :=
  (firstText (versionAnswer S s request).1).map fun text =>
    versionNumber (zbx_strlcpy text MAX_STRING_LEN)

end Answers

/-- Played from `s`, the dialogue ends in a fault or in an outcome of which `P` holds. -/
def Concludes {β : Type} (S : Server) (P : β → Prop) (d : Asks β) (s : S.State) : Prop :=
  ∀ b, (play (session S) d s).result = .ok b → P b

section Rules
variable {S : Server} {s : S.State} {β : Type} {P : β → Prop}

theorem concludes_done {b : β} (h : P b) : Concludes S P (.done (.ok b)) s := by
  intro b' hb
  cases hb
  exact h

theorem concludes_fault (e : Fault) : Concludes S P (.done (.error e)) s := by
  intro b hb
  cases hb

theorem concludes_ask {q : Question} {next : Reply → Asks β} {reply : Reply} {s' : S.State}
    (hs : session S s q = (reply, s')) (h : Concludes S P (next reply) s') :
    Concludes S P (.ask q next) s := by
  intro b hb
  rw [play_ask, hs] at hb
  exact h b hb

theorem concludes_all {d : Asks β} (h : AllOutcomes P d) : Concludes S P d s :=
  fun _ result => allOutcomes_play h result

variable {request : AGENT_REQUEST} {query : CStr} {params : List CStr}

/-- The outcomes of a query that the connection decides: the rule of the drivers. -/
theorem concludes_query {next : Reply → Asks β}
    (refused : Refused S s request → ∀ m s', Concludes S P (next (.refused m)) s')
    (reached : ¬ Refused S s request → ∀ reply s', (∀ m, reply ≠ .refused m) →
      session S s (.query (requestConnstring request) query params) = (reply, s') →
      Concludes S P (next reply) s') :
    Concludes S P (.ask (.query (requestConnstring request) query params) next) s := by
  cases hr : refusal S s (requestConnstring request) with
  | mk message s' =>
    cases message with
    | some m =>
      refine concludes_ask (session_refused hr query params) (refused ?_ m s')
      simp [Refused, hr]
    | none =>
      have opened := session_opened hr query params
      refine concludes_ask opened (reached ?_ _ _ ?_ opened)
      · simp [Refused, hr]
      · intro m hm
        cases he : (S.exec s' (requestConnstring request) query params).1 <;>
          simp [he, replyOf] at hm

end Rules

section Handlers
variable {S : Server} {s : S.State} {P : Outcome → Prop} {request : AGENT_REQUEST}
  {query : CStr} {params : List CStr}

theorem concludes_result {type : ResultType}
    (refused : Refused S s request → ∀ m, P ⟨.error m, held params⟩)
    (failed : ¬ Refused S s request → ∀ m, P ⟨.error m, []⟩)
    (value : ¬ Refused S s request → ∀ text, P ⟨resultReport text type, []⟩) :
    Concludes S P (resultAsk request type query params) s := by
  change Concludes S P (.ask _ _) s
  refine concludes_query ?_ ?_
  · intro hr m s'
    exact concludes_done (refused hr _)
  · intro hr reply s' other _
    cases reply with
    | refused m => exact absurd rfl (other m)
    | noResult | failed m => exact concludes_done (failed hr _)
    | answered tuples =>
      match hrows : tuples.rows with
      | [] =>
        simp only [scalarEnd, hrows]
        exact concludes_done (failed hr _)
      | [] :: _ =>
        simp only [scalarEnd, hrows]
        exact concludes_fault _
      | (x :: _) :: _ =>
        simp only [scalarEnd, hrows]
        exact concludes_done (value hr _)

theorem concludes_discovery
    (refused : Refused S s request → ∀ m, P ⟨.error m, held params⟩)
    (failed : ¬ Refused S s request → ∀ m, P ⟨.error m, []⟩)
    (value : ¬ Refused S s request → ∀ x, P ⟨.value x, []⟩) :
    Concludes S P (discoveryAsk request query params) s := by
  refine concludes_query ?_ ?_
  · intro hr m s'
    exact concludes_done (refused hr _)
  · intro hr reply s' other _
    cases reply with
    | refused m => exact absurd rfl (other m)
    | noResult | failed m => exact concludes_done (failed hr _)
    | answered tuples => exact concludes_done (value hr _)

/-- A handler that asks for the version first stops where it is not returned or reads as
    0, still holding the array. -/
theorem concludes_version {next : ℤ → Steps}
    (unread : versionRead S s request = none → ∀ m, P ⟨.error m, held params⟩)
    (zero : versionRead S s request = some 0 → P ⟨.silent, held params⟩)
    (read : ∀ v, versionRead S s request = some v → v ≠ 0 →
      Concludes S P ((next v).dialogue request params) (afterVersionQuery S s request)) :
    Concludes S P ((Steps.version next).dialogue request params) s := by
  refine concludes_ask (Prod.mk.eta (p := versionAnswer S s request)).symm ?_
  change Concludes S P _ (afterVersionQuery S s request)
  cases ha : (versionAnswer S s request).1 with
  | refused m => exact concludes_done (unread (by rw [versionRead, ha]; rfl) _)
  | noResult | failed m => exact concludes_done (unread (by rw [versionRead, ha]; rfl) _)
  | answered tuples =>
    match hrows : tuples.rows with
    | [] =>
      simp only [scalarEnd, hrows]
      exact concludes_done (unread (by simp [versionRead, ha, firstText, hrows]) _)
    | [] :: _ =>
      simp only [scalarEnd, hrows]
      exact concludes_fault _
    | (x :: _) :: _ =>
      simp only [scalarEnd, hrows]
      have hv : versionRead S s request =
          some (versionNumber (zbx_strlcpy (fieldText x) MAX_STRING_LEN)) := by
        simp [versionRead, ha, firstText, hrows]
      change Concludes S P (if 0 = versionNumber _ then _ else _) _
      by_cases hz : 0 = versionNumber (zbx_strlcpy (fieldText x) MAX_STRING_LEN)
      · rw [if_pos hz]
        exact concludes_done (zero (by rw [hv, ← hz]))
      · rw [if_neg hz]
        exact read _ hv (fun e => hz e.symm)

/-- Once the version is read, the dialogue goes on with it. -/
theorem play_version {next : ℤ → Steps} {v : ℤ} (read : versionRead S s request = some v)
    (nonzero : v ≠ 0) :
    (play (session S) ((Steps.version next).dialogue request params) s).exchanges =
      (.query (requestConnstring request) PGSQL_VERSION_NUM [],
        (versionAnswer S s request).1) ::
      (play (session S) ((next v).dialogue request params)
        (afterVersionQuery S s request)).exchanges := by
  rw [Steps.dialogue, andThen, scalarAsk, Dialogue.bind, play_ask]
  change _ :: _ = _ :: _
  congr 1
  change (play (session S) _ (afterVersionQuery S s request)).exchanges = _
  rw [versionRead, Option.map_eq_some_iff] at read
  obtain ⟨text, ht, rfl⟩ := read
  rw [versionAnswer] at ht
  cases ha : (session S s (.query (requestConnstring request) PGSQL_VERSION_NUM [])).1 with
  | refused m | noResult | failed m =>
    rw [ha] at ht
    cases ht
  | answered tuples =>
    rw [ha, firstText] at ht
    rcases hrows : tuples.rows with _ | ⟨_ | ⟨x, row⟩, rows⟩
    · rw [hrows] at ht
      cases ht
    · rw [hrows] at ht
      cases ht
    · rw [hrows] at ht
      cases ht
      simp only [Dialogue.bind, scalarEnd, hrows, afterVersion]
      rw [if_neg (Ne.symm nonzero)]

/-- Building the activity clause ends in the rejection of its last filter, or goes on. -/
theorem concludes_activity {inet_pton : AddressFamily → CStr → Bool} {next : CStr → Steps}
    (rejected : activityText inet_pton request = none →
      ∀ m, P ⟨.error m, held (params ++ filterParams request)⟩)
    (built : ∀ text, activityText inet_pton request = some text →
      Concludes S P ((next text).dialogue request (params ++ filterParams request)) s) :
    Concludes S P ((activitySteps inet_pton request next).dialogue request params) s := by
  rw [activitySteps_dialogue]
  cases ht : activityText inet_pton request with
  | none => exact concludes_done (rejected ht _)
  | some text => exact built text ht

end Handlers

end LibZbxPgsql.Conclusions
