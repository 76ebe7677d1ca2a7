import Mathlib.Data.List.Basic

set_option autoImplicit false

/-! Programs are `EStateM ε σ α`: they return a value in a new state, or stop at a fault and
keep the state they stopped in. `wp m Q E s` says that `m` started in `s` ends in `Q` when it
returns and in `E` when it faults. -/
namespace LibZbxPgsql.StateFaultWp

variable {ε σ α β ι : Type}

def wp (m : EStateM ε σ α) (Q : α → σ → Prop) (E : ε → σ → Prop) (s : σ) : Prop :=
  match m s with
  | .ok a t => Q a t
  | .error e t => E e t

def lastState : EStateM.Result ε σ α → σ
  | .ok _ t => t
  | .error _ t => t

@[simp] theorem wp_pure (a : α) (Q : α → σ → Prop) (E : ε → σ → Prop) (s : σ) :
    wp (pure a : EStateM ε σ α) Q E s = Q a s := rfl

@[simp] theorem wp_get (Q : σ → σ → Prop) (E : ε → σ → Prop) (s : σ) :
    wp (get : EStateM ε σ σ) Q E s = Q s s := rfl

@[simp] theorem wp_set (t : σ) (Q : PUnit → σ → Prop) (E : ε → σ → Prop) (s : σ) :
    wp (set t : EStateM ε σ PUnit) Q E s = Q ⟨⟩ t := rfl

@[simp] theorem wp_modify (f : σ → σ) (Q : PUnit → σ → Prop) (E : ε → σ → Prop) (s : σ) :
    wp (modify f : EStateM ε σ PUnit) Q E s = Q ⟨⟩ (f s) := rfl

@[simp] theorem wp_bind (m : EStateM ε σ α) (f : α → EStateM ε σ β)
    (Q : β → σ → Prop) (E : ε → σ → Prop) (s : σ) :
    wp (m >>= f) Q E s = wp m (fun a t => wp (f a) Q E t) E s := by
  change (match EStateM.bind m f s with | .ok a t => Q a t | .error e t => E e t) = _
  unfold EStateM.bind wp
  cases m s <;> rfl

theorem wp_mono {m : EStateM ε σ α} {Q R : α → σ → Prop} {E F : ε → σ → Prop} {s : σ}
    (h : wp m Q E s) (hQ : ∀ a t, Q a t → R a t) (hE : ∀ e t, E e t → F e t) :
    wp m R F s := by
  unfold wp at *
  cases hm : m s with
  | ok a t =>
    rw [hm] at h
    exact hQ a t h
  | error e t =>
    rw [hm] at h
    exact hE e t h

theorem wp_post {m : EStateM ε σ α} {Q R : α → σ → Prop} {E : ε → σ → Prop} {s : σ}
    (h : wp m Q E s) (hQ : ∀ a t, Q a t → R a t) : wp m R E s :=
  wp_mono h hQ (fun _ _ he => he)

/-- The composition rule, where the first part cannot fault. -/
theorem wp_seq {m : EStateM ε σ α} {f : α → EStateM ε σ β} {Q : α → σ → Prop}
    {R : β → σ → Prop} {E : ε → σ → Prop} {s : σ} (h : wp m Q (fun _ _ => False) s)
    (rest : ∀ a t, Q a t → wp (f a) R E t) : wp (m >>= f) R E s := by
  rw [wp_bind]
  exact wp_mono h rest (fun _ _ he => he.elim)

/-- A run that is known. -/
theorem wp_run {m : EStateM ε σ α} {Q : α → σ → Prop} {E : ε → σ → Prop} {s t : σ} {a : α}
    (run : m s = .ok a t) (h : Q a t) : wp m Q E s := by
  rw [wp, run]
  exact h

theorem wp_fault {m : EStateM ε σ α} {Q : α → σ → Prop} {E : ε → σ → Prop} {s t : σ} {e : ε}
    (run : m s = .error e t) (h : E e t) : wp m Q E s := by
  rw [wp, run]
  exact h

/-- The composition rule, where the run of the first part is known. -/
theorem wp_after {m : EStateM ε σ α} {f : α → EStateM ε σ β} {R : β → σ → Prop}
    {E : ε → σ → Prop} {s t : σ} {a : α} (run : m s = .ok a t) (rest : wp (f a) R E t) :
    wp (m >>= f) R E s := by
  rw [wp_bind]
  exact wp_run run rest

/-- What a weakest precondition says about a run that returned. -/
theorem wp_ok {m : EStateM ε σ α} {Q : α → σ → Prop} {E : ε → σ → Prop} {s t : σ} {a : α}
    (h : wp m Q E s) (hm : m s = .ok a t) : Q a t := by
  unfold wp at h
  rwa [hm] at h

theorem wp_lastState {m : EStateM ε σ α} {I : σ → Prop} {s : σ}
    (h : wp m (fun _ t => I t) (fun _ t => I t) s) : I (lastState (m s)) := by
  unfold wp at h
  cases hm : m s with
  | ok a t => rwa [hm] at h
  | error e t => rwa [hm] at h

/-- A run that cannot fault returns. -/
theorem wp_returns {m : EStateM ε σ α} {Q : α → σ → Prop} {s : σ}
    (h : wp m Q (fun _ _ => False) s) : ∃ a t, m s = .ok a t ∧ Q a t := by
  unfold wp at h
  cases hm : m s with
  | ok a t =>
    rw [hm] at h
    exact ⟨a, t, rfl, h⟩
  | error e t =>
    rw [hm] at h
    exact h.elim

theorem wp_ite {c : Prop} [Decidable c] {m n : EStateM ε σ α} {Q : α → σ → Prop}
    {E : ε → σ → Prop} {s : σ} (hm : c → wp m Q E s) (hn : ¬ c → wp n Q E s) :
    wp (if c then m else n) Q E s := by
  by_cases h : c
  · rw [if_pos h]
    exact hm h
  · rw [if_neg h]
    exact hn h

/-- The loop rule: an accumulating loop over a list keeps a relation between the
    part of the list already done, the accumulator and the state. -/
theorem wp_foldlM {f : β → ι → EStateM ε σ β} {I : List ι → β → σ → Prop}
    {E : ε → σ → Prop}
    (step : ∀ done x b s, I done b s → wp (f b x) (fun b' t => I (done ++ [x]) b' t) E s)
    (xs : List ι) (done : List ι) (b : β) (s : σ) (h : I done b s) :
    wp (xs.foldlM f b) (fun b' t => I (done ++ xs) b' t) E s := by
  induction xs generalizing done b s with
  | nil => simpa using h
  | cons x xs ih =>
    rw [List.foldlM_cons, wp_bind]
    refine wp_post (step done x b s h) ?_
    intro b' t hb
    have rest := ih (done ++ [x]) b' t hb
    simpa only [List.append_assoc, List.singleton_append] using rest

section Moves
variable {R : σ → σ → Prop}

def Moves (R : σ → σ → Prop) (m : EStateM ε σ α) : Prop := ∀ s, R s (lastState (m s))

theorem moves_pure [Std.Refl R] (a : α) : Moves R (pure a : EStateM ε σ α) :=
  fun s => Std.Refl.refl s

theorem moves_throw [Std.Refl R] (e : ε) : Moves R (throw e : EStateM ε σ α) :=
  fun s => Std.Refl.refl s

/-- The composition rule at one state. -/
theorem moves_bind_at [IsTrans σ R] {m : EStateM ε σ α} {f : α → EStateM ε σ β} {s : σ}
    (first : R s (lastState (m s))) (hf : ∀ a, Moves R (f a)) :
    R s (lastState ((m >>= f) s)) := by
  change R s (lastState (EStateM.bind m f s))
  unfold EStateM.bind
  cases h : m s with
  | ok a t =>
    rw [h] at first
    exact IsTrans.trans _ _ _ first (hf a t)
  | error e t =>
    rw [h] at first
    exact first

theorem moves_bind [IsTrans σ R] {m : EStateM ε σ α} {f : α → EStateM ε σ β}
    (hm : Moves R m) (hf : ∀ a, Moves R (f a)) : Moves R (m >>= f) :=
  fun s => moves_bind_at (hm s) hf

/-- The composition rule, where the run of the first part is known. -/
theorem moves_after [IsTrans σ R] {m : EStateM ε σ α} {f : α → EStateM ε σ β} {s t : σ} {a : α}
    (run : m s = .ok a t) (first : R s t) (rest : R t (lastState (f a t))) :
    R s (lastState ((m >>= f) s)) := by
  change R s (lastState (EStateM.bind m f s))
  rw [EStateM.bind, run]
  exact IsTrans.trans _ _ _ first rest

end Moves

end LibZbxPgsql.StateFaultWp
