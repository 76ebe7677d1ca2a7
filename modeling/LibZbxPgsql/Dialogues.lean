import Mathlib.Data.List.Basic
import Mathlib.Data.List.Forall2

set_option autoImplicit false

/-! A dialogue asks questions, each depending on the answers to those before, and ends with a
result. It is played against a state machine that answers. -/
namespace LibZbxPgsql.Dialogues

inductive Dialogue (Q A R : Type) where
  | done (r : R)
  | ask (q : Q) (next : A → Dialogue Q A R)

section Play
variable {Q A R R' σ : Type}

structure Play (Q A R σ : Type) where
  result : R
  state : σ
  exchanges : List (Q × A)

def play (answer : σ → Q → A × σ) : Dialogue Q A R → σ → Play Q A R σ
  | .done r, s => ⟨r, s, []⟩
  | .ask q next, s =>
    let rest := play answer (next (answer s q).1) (answer s q).2
    ⟨rest.result, rest.state, (q, (answer s q).1) :: rest.exchanges⟩

def Dialogue.bind : Dialogue Q A R → (R → Dialogue Q A R') → Dialogue Q A R'
  | .done r, f => f r
  | .ask q next, f => .ask q fun a => (next a).bind f

variable (answer : σ → Q → A × σ)

@[simp] theorem play_done (r : R) (s : σ) :
    play answer (.done r : Dialogue Q A R) s = ⟨r, s, []⟩ := rfl

theorem play_ask (q : Q) (next : A → Dialogue Q A R) (s : σ) :
    play answer (.ask q next) s =
      ⟨(play answer (next (answer s q).1) (answer s q).2).result,
       (play answer (next (answer s q).1) (answer s q).2).state,
       (q, (answer s q).1) :: (play answer (next (answer s q).1) (answer s q).2).exchanges⟩ := rfl

theorem play_bind (d : Dialogue Q A R) (f : R → Dialogue Q A R') (s : σ) :
    play answer (d.bind f) s =
      ⟨(play answer (f (play answer d s).result) (play answer d s).state).result,
       (play answer (f (play answer d s).result) (play answer d s).state).state,
       (play answer d s).exchanges ++
         (play answer (f (play answer d s).result) (play answer d s).state).exchanges⟩ := by
  induction d generalizing s with
  | done r => rfl
  | ask q next ih =>
    rw [Dialogue.bind, play_ask, ih]
    rfl

/-- Every result the dialogue can end with, whatever the answers. -/
def Ends (P : R → Prop) : Dialogue Q A R → Prop
  | .done r => P r
  | .ask _ next => ∀ a, Ends P (next a)

theorem ends_play {P : R → Prop} {d : Dialogue Q A R} (h : Ends P d) (s : σ) :
    P (play answer d s).result := by
  induction d generalizing s with
  | done r => exact h
  | ask q next ih => exact ih _ (h _) _

theorem ends_bind {P : R' → Prop} {d : Dialogue Q A R} {f : R → Dialogue Q A R'}
    (h : Ends (fun r => Ends P (f r)) d) : Ends P (d.bind f) := by
  induction d with
  | done r => exact h
  | ask q next ih => exact fun a => ih a (h a)

theorem ends_mono {P P' : R → Prop} (hP : ∀ r, P r → P' r) {d : Dialogue Q A R}
    (h : Ends P d) : Ends P' d := by
  induction d with
  | done r => exact hP r h
  | ask q next ih => exact fun a => ih a (h a)

/-- Every answer of a play is the machine's, from some state. -/
theorem play_answered {d : Dialogue Q A R} (s : σ) :
    ∀ e ∈ (play answer d s).exchanges, ∃ s', e.2 = (answer s' e.1).1 := by
  induction d generalizing s with
  | done r =>
    intro e he
    cases he
  | ask q next ih =>
    intro e he
    rw [play_ask, List.mem_cons] at he
    rcases he with rfl | he
    · exact ⟨s, rfl⟩
    · exact ih _ _ e he

def Asked (P : Q → Prop) : Dialogue Q A R → Prop
  | .done _ => True
  | .ask q next => P q ∧ ∀ a, Asked P (next a)

theorem asked_play {P : Q → Prop} {d : Dialogue Q A R} (h : Asked P d) (s : σ) :
    ∀ e ∈ (play answer d s).exchanges, P e.1 := by
  induction d generalizing s with
  | done r =>
    intro e he
    cases he
  | ask q next ih =>
    intro e he
    rw [play_ask, List.mem_cons] at he
    rcases he with rfl | he
    · exact h.1
    · exact ih _ (h.2 _) _ e he

theorem asked_mono {P P' : Q → Prop} {d : Dialogue Q A R} (h : ∀ q, P q → P' q)
    (asked : Asked P d) : Asked P' d := by
  induction d with
  | done r => trivial
  | ask q next ih => exact ⟨h q asked.1, fun a => ih a (asked.2 a)⟩

theorem asked_bind {P : Q → Prop} {d : Dialogue Q A R} {f : R → Dialogue Q A R'}
    (h : Asked P d) (hf : ∀ r, Asked P (f r)) : Asked P (d.bind f) := by
  induction d with
  | done r => exact hf r
  | ask q next ih => exact ⟨h.1, fun a => ih a (h.2 a)⟩

end Play

section Script
variable {Q A R σ T : Type} (label : Q × A → Option T) (allowed : Q × A → Prop)

/-- As long as the exchanges are allowed, the labels follow the script, one after
    the other, whatever the answers. -/
def Scripted : Dialogue Q A R → (ℕ → T) → Prop
  | .done _, _ => True
  | .ask q next, script => ∀ a, allowed (q, a) →
    match label (q, a) with
    | none => Scripted (next a) script
    | some t => t = script 0 ∧ Scripted (next a) (fun n => script (n + 1))

theorem scripted_play (answer : σ → Q → A × σ) {d : Dialogue Q A R} {script : ℕ → T} {s : σ}
    (h : Scripted label allowed d script)
    (ok : ∀ e ∈ (play answer d s).exchanges, allowed e) {n : ℕ} {t : T}
    (ht : ((play answer d s).exchanges.filterMap label)[n]? = some t) : t = script n := by
  induction d generalizing s script n with
  | done r => simp at ht
  | ask q next ih =>
    rw [play_ask] at ok ht
    have first := h _ (ok _ List.mem_cons_self)
    have rest := fun e he => ok e (List.mem_cons_of_mem _ he)
    rw [List.filterMap_cons] at ht
    cases hl : label (q, (answer s q).1) with
    | none =>
      simp only [hl] at first ht
      exact ih _ first rest ht
    | some t' =>
      simp only [hl] at first ht
      cases n with
      | zero =>
        rw [List.getElem?_cons_zero, Option.some.injEq] at ht
        rw [← ht]
        exact first.1
      | succ n =>
        rw [List.getElem?_cons_succ] at ht
        exact ih _ first.2 rest ht

end Script

section Alike
variable {Q A R R' σ σ' : Type} (same : Q → Q → Prop)

def Alike : Dialogue Q A R → Dialogue Q A R' → Prop
  | .done _, .done _ => True
  | .ask q next, .ask q' next' => same q q' ∧ ∀ a, Alike (next a) (next' a)
  | .done _, .ask _ _ => False
  | .ask _ _, .done _ => False

variable {same} in
theorem alike_symm {R R' : Type} (symm : ∀ q q', same q q' → same q' q) {d : Dialogue Q A R}
    {d' : Dialogue Q A R'} (h : Alike same d d') : Alike same d' d := by
  induction d generalizing d' with
  | done r =>
    cases d' with
    | done r' => trivial
    | ask q' next' => cases h
  | ask q next ih =>
    cases d' with
    | done r' => cases h
    | ask q' next' => exact ⟨symm _ _ h.1, fun a => ih a (h.2 a)⟩

variable {same} in
theorem alike_trans {R R' R'' : Type} (trans : ∀ q q' q'', same q q' → same q' q'' → same q q'')
    {d : Dialogue Q A R} {d' : Dialogue Q A R'} {d'' : Dialogue Q A R''} (h : Alike same d d')
    (h' : Alike same d' d'') : Alike same d d'' := by
  induction d generalizing d' d'' with
  | done r =>
    cases d' with
    | done r' =>
      cases d'' with
      | done r'' => trivial
      | ask q'' next'' => cases h'
    | ask q' next' => cases h
  | ask q next ih =>
    cases d' with
    | done r' => cases h
    | ask q' next' =>
      cases d'' with
      | done r'' => cases h'
      | ask q'' next'' =>
        exact ⟨trans _ _ _ h.1 h'.1, fun a => ih a (h.2 a) (h'.2 a)⟩

/-- Played against machines that answer alike questions alike, they exchange the same
    answers to alike questions. -/
theorem alike_play (answer : σ → Q → A × σ) (answer' : σ' → Q → A × σ') (rel : σ → σ' → Prop)
    (agree : ∀ s s' q q', rel s s' → same q q' →
      (answer s q).1 = (answer' s' q').1 ∧ rel (answer s q).2 (answer' s' q').2)
    {d : Dialogue Q A R} {d' : Dialogue Q A R'} (h : Alike same d d') {s : σ} {s' : σ'}
    (hs : rel s s') :
    List.Forall₂ (fun e e' => same e.1 e'.1 ∧ e.2 = e'.2)
      (play answer d s).exchanges (play answer' d' s').exchanges := by
  induction d generalizing d' s s' with
  | done r =>
    cases d' with
    | done r' => exact List.Forall₂.nil
    | ask q' next' => cases h
  | ask q next ih =>
    cases d' with
    | done r' => cases h
    | ask q' next' =>
      obtain ⟨hq, hn⟩ := h
      obtain ⟨ha, hs'⟩ := agree s s' q q' hs hq
      rw [play_ask, play_ask]
      refine List.Forall₂.cons ⟨hq, ha⟩ ?_
      rw [ha]
      exact ih _ (hn _) hs'

end Alike

section Allowed
variable {Q A R R' σ : Type} (allowed : Q → A → Prop)

def EndsIf (P : R → Prop) : Dialogue Q A R → Prop
  | .done r => P r
  | .ask q next => ∀ a, allowed q a → EndsIf P (next a)

variable {allowed}

theorem endsIf_play {answer : σ → Q → A × σ} (ok : ∀ s q, allowed q (answer s q).1)
    {P : R → Prop} {d : Dialogue Q A R} (h : EndsIf allowed P d) (s : σ) :
    P (play answer d s).result := by
  induction d generalizing s with
  | done r => exact h
  | ask q next ih => exact ih _ (h _ (ok s q)) _

theorem endsIf_bind {P : R' → Prop} {d : Dialogue Q A R} {f : R → Dialogue Q A R'}
    (h : EndsIf allowed (fun r => EndsIf allowed P (f r)) d) : EndsIf allowed P (d.bind f) := by
  induction d with
  | done r => exact h
  | ask q next ih => exact fun a ha => ih a (h a ha)

end Allowed

section Recording
variable {Q A R R' σ T C L : Type} (answer : σ → Q → A × σ) (deed : σ → Q → T)
  (written : T → List C)

def recording (s : σ × List C) (q : Q) : A × σ × List C :=
  ((answer s.1 q).1, (answer s.1 q).2, s.2 ++ written (deed s.1 q))

def deeds : Dialogue Q A R → σ → List T
  | .done _, _ => []
  | .ask q next, s => deed s q :: deeds (next (answer s q).1) (answer s q).2

theorem play_recording (d : Dialogue Q A R) (s : σ) (log : List C) :
    play (recording answer deed written) d (s, log) =
      ⟨(play answer d s).result,
       ((play answer d s).state, log ++ (deeds answer deed d s).flatMap written),
       (play answer d s).exchanges⟩ := by
  induction d generalizing s log with
  | done r => simp [deeds]
  | ask q next ih =>
    rw [play_ask, play_ask, recording, ih, deeds, List.flatMap_cons, ← List.append_assoc]

theorem deeds_map {label : T → L} {aim : Q → L} (same : ∀ s q, label (deed s q) = aim q)
    (d : Dialogue Q A R) (s : σ) :
    (deeds answer deed d s).map label = (play answer d s).exchanges.map fun e => aim e.1 := by
  induction d generalizing s with
  | done r => rfl
  | ask q next ih => rw [deeds, play_ask, List.map_cons, List.map_cons, ih, same]

def AtMost : ℕ → Dialogue Q A R → Prop
  | _, .done _ => True
  | 0, .ask _ _ => False
  | n + 1, .ask _ next => ∀ a, AtMost n (next a)

theorem atMost_mono {n m : ℕ} (le : n ≤ m) {d : Dialogue Q A R} (h : AtMost n d) :
    AtMost m d := by
  induction d generalizing n m with
  | done r => cases m <;> trivial
  | ask q next ih =>
    match n, m, le with
    | n + 1, m + 1, le => exact fun a => ih a (Nat.le_of_succ_le_succ le) (h a)

theorem atMost_bind {n m : ℕ} {d : Dialogue Q A R} {f : R → Dialogue Q A R'} (h : AtMost n d)
    (hf : ∀ r, AtMost m (f r)) : AtMost (n + m) (d.bind f) := by
  induction d generalizing n with
  | done r => exact atMost_mono (Nat.le_add_left m n) (hf r)
  | ask q next ih =>
    cases n with
    | zero => cases h
    | succ n =>
      rw [Nat.succ_add]
      exact fun a => ih a (h a)

theorem atMost_play {n : ℕ} {d : Dialogue Q A R} (h : AtMost n d) (s : σ) :
    (play answer d s).exchanges.length ≤ n := by
  induction d generalizing n s with
  | done r => exact Nat.zero_le n
  | ask q next ih =>
    cases n with
    | zero => cases h
    | succ n => exact Nat.succ_le_succ (ih _ (h _) _)

end Recording

section Relation
variable {Q A R R' σ : Type}

/-- Whatever the answers, the exchanges and the result are so related. -/
def Relates : Dialogue Q A R → (List (Q × A) → R → Prop) → Prop
  | .done r, P => P [] r
  | .ask q next, P => ∀ a, Relates (next a) fun es r => P ((q, a) :: es) r

theorem relates_done {r : R} {P : List (Q × A) → R → Prop} (h : P [] r) :
    Relates (.done r) P := h

theorem relates_play (answer : σ → Q → A × σ) {d : Dialogue Q A R}
    {P : List (Q × A) → R → Prop} (h : Relates d P) (s : σ) :
    P (play answer d s).exchanges (play answer d s).result := by
  induction d generalizing P s with
  | done r => exact h
  | ask q next ih => exact ih _ (h _) _

theorem relates_mono {d : Dialogue Q A R} {P P' : List (Q × A) → R → Prop} (h : Relates d P)
    (hP : ∀ es r, P es r → P' es r) : Relates d P' := by
  induction d generalizing P P' with
  | done r => exact hP _ _ h
  | ask q next ih => exact fun a => ih a (h a) fun es r => hP _ r

theorem relates_bind {d : Dialogue Q A R} {f : R → Dialogue Q A R'}
    {P : List (Q × A) → R' → Prop}
    (h : Relates d fun es r => Relates (f r) fun es' r' => P (es ++ es') r') :
    Relates (d.bind f) P := by
  induction d generalizing P with
  | done r => exact h
  | ask q next ih => exact fun a => ih a (h a)

theorem relates_ask {q : Q} {ends : A → R} {f : R → Dialogue Q A R'}
    {P : List (Q × A) → R' → Prop}
    (h : ∀ a, Relates (f (ends a)) fun es r => P ((q, a) :: es) r) :
    Relates ((Dialogue.ask q fun a => .done (ends a)).bind f) P :=
  relates_bind h

end Relation

end LibZbxPgsql.Dialogues
