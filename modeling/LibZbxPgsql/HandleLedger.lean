import Mathlib.Data.List.Basic
import Mathlib.Data.List.Count
import Mathlib.Data.List.Nodup
import Mathlib.Data.List.Induction

set_option autoImplicit false

/-! A trace of acquisitions, uses and releases is replayed against a book of the handles seen
so far and the handles still live. The trace is accepted when each handle is acquired once,
touched only while live, and acquired only where the policy `admits` it. What acceptance says
about the trace itself is read off below. -/
namespace LibZbxPgsql.HandleLedger

inductive Act (ι : Type) where
  | acquire (i : ι)
  | use (i : ι)
  | release (i : ι)
  deriving DecidableEq

def Act.target {ι : Type} : Act ι → ι
  | .acquire i => i
  | .use i => i
  | .release i => i

structure Book (ι : Type) where
  seen : List ι
  live : List ι

section Replay
variable {ι : Type} [DecidableEq ι] (admits : List ι → ι → Bool)

def step (b : Book ι) : Act ι → Option (Book ι)
  | .acquire i =>
    if i ∉ b.seen ∧ admits b.live i = true then some ⟨i :: b.seen, i :: b.live⟩ else none
  | .use i => if i ∈ b.live then some b else none
  | .release i => if i ∈ b.live then some ⟨b.seen, b.live.erase i⟩ else none

def replay (b : Book ι) (t : List (Act ι)) : Option (Book ι) := t.foldlM (step admits) b

def empty : Book ι := ⟨[], []⟩

theorem replay_append (b : Book ι) (s t : List (Act ι)) :
    replay admits b (s ++ t) = (replay admits b s).bind (fun b' => replay admits b' t) := by
  simp only [replay, List.foldlM_append]
  rfl

theorem replay_concat (b : Book ι) (t : List (Act ι)) (a : Act ι) :
    replay admits b (t ++ [a]) = (replay admits b t).bind (fun b' => step admits b' a) := by
  rw [replay_append]
  congr 1
  funext b'
  cases h : step admits b' a <;> simp [replay, h]

theorem replay_uses {b : Book ι} {l : List ι} (h : ∀ i ∈ l, i ∈ b.live) :
    replay admits b (l.map .use) = some b := by
  induction l with
  | nil => rfl
  | cons i l ih =>
    have first : step admits b (.use i) = some b := by
      rw [step, if_pos (h i List.mem_cons_self)]
    rw [List.map_cons, replay, List.foldlM_cons, first]
    exact ih (fun j hj => h j (List.mem_cons_of_mem _ hj))

/-- Everything one step can do to the book, its guards included. -/
theorem step_cases {b b' : Book ι} {a : Act ι} (h : step admits b a = some b') :
    (∃ i, a = .acquire i ∧ i ∉ b.seen ∧ admits b.live i = true ∧
      b' = ⟨i :: b.seen, i :: b.live⟩) ∨
    (∃ i, a = .use i ∧ i ∈ b.live ∧ b' = b) ∨
    (∃ i, a = .release i ∧ i ∈ b.live ∧ b' = ⟨b.seen, b.live.erase i⟩) := by
  cases a with
  | acquire i =>
    simp only [step] at h
    split at h
    · rename_i hc
      exact .inl ⟨i, rfl, hc.1, hc.2, (Option.some.inj h).symm⟩
    · cases h
  | use i =>
    simp only [step] at h
    split at h
    · rename_i hc
      exact .inr (.inl ⟨i, rfl, hc, (Option.some.inj h).symm⟩)
    · cases h
  | release i =>
    simp only [step] at h
    split at h
    · rename_i hc
      exact .inr (.inr ⟨i, rfl, hc, (Option.some.inj h).symm⟩)
    · cases h

/-- The rule by which every fact about accepted traces is proved: it holds of the
    empty trace and one accepted step keeps it. -/
theorem replay_induction {motive : List (Act ι) → Book ι → Prop}
    (nil : motive [] empty)
    (snoc : ∀ t b a b', replay admits empty t = some b → motive t b →
      step admits b a = some b' → motive (t ++ [a]) b')
    {t : List (Act ι)} {b : Book ι} (h : replay admits empty t = some b) : motive t b := by
  induction t using List.reverseRecOn generalizing b with
  | nil =>
    cases Option.some.inj h
    exact nil
  | append_singleton t a ih =>
    rw [replay_concat] at h
    obtain ⟨b₁, h₁, h₂⟩ := Option.bind_eq_some_iff.mp h
    exact snoc t b₁ a b h₁ (ih h₁) h₂

theorem replay_wellFormed {t : List (Act ι)} {b : Book ι}
    (h : replay admits empty t = some b) : b.live.Nodup ∧ ∀ i ∈ b.live, i ∈ b.seen := by
  refine replay_induction admits (motive := fun _ b => b.live.Nodup ∧ ∀ i ∈ b.live, i ∈ b.seen)
    ⟨List.nodup_nil, fun _ hi => hi⟩ ?_ h
  intro t b a b' _ ih hs
  obtain ⟨nodup, sub⟩ := ih
  obtain ⟨i, -, fresh, -, rfl⟩ | ⟨i, -, -, rfl⟩ | ⟨i, -, -, rfl⟩ := step_cases admits hs
  · refine ⟨List.nodup_cons.mpr ⟨fun hi => fresh (sub i hi), nodup⟩, ?_⟩
    intro j hj
    rcases List.mem_cons.mp hj with rfl | hj
    · exact List.mem_cons_self
    · exact List.mem_cons_of_mem _ (sub j hj)
  · exact ⟨nodup, sub⟩
  · exact ⟨nodup.erase i, fun j hj => sub j (List.mem_of_mem_erase hj)⟩

theorem replay_seen {t : List (Act ι)} {b : Book ι} (h : replay admits empty t = some b)
    (j : ι) : j ∈ b.seen ↔ Act.acquire j ∈ t := by
  refine replay_induction admits (motive := fun t b => j ∈ b.seen ↔ Act.acquire j ∈ t)
    (by simp [empty]) ?_ h
  intro t b a b' _ ih hs
  obtain ⟨i, rfl, -, -, rfl⟩ | ⟨i, rfl, -, rfl⟩ | ⟨i, rfl, -, rfl⟩ := step_cases admits hs
  · simp [ih, or_comm]
  · simp [ih]
  · simp [ih]

/-- A handle has been released once if it is in the book and no longer live, and
    never otherwise. -/
theorem replay_release_count {t : List (Act ι)} {b : Book ι}
    (h : replay admits empty t = some b) (j : ι) :
    t.count (Act.release j) = if j ∈ b.seen ∧ j ∉ b.live then 1 else 0 := by
  refine replay_induction admits
    (motive := fun t b => t.count (Act.release j) = if j ∈ b.seen ∧ j ∉ b.live then 1 else 0)
    (by simp [empty]) ?_ h
  intro t b a b' ht ih hs
  have wf := replay_wellFormed admits ht
  obtain ⟨i, rfl, fresh, -, rfl⟩ | ⟨i, rfl, -, rfl⟩ | ⟨i, rfl, hi, rfl⟩ := step_cases admits hs
  · have hne : (Act.acquire i == Act.release j) = false := by simp
    rw [List.count_append, ih, List.count_singleton, hne]
    by_cases hj : j = i
    · subst hj
      simp [fresh]
    · simp [hj]
  · have hne : (Act.use i == Act.release j) = false := by simp
    rw [List.count_append, ih, List.count_singleton, hne]
    simp
  · rw [List.count_append, ih, List.count_singleton]
    by_cases hj : i = j
    · subst hj
      have gone : i ∉ b.live.erase i := wf.1.not_mem_erase
      simp [hi, wf.2 i hi, gone]
    · have other : j ∈ b.live.erase i ↔ j ∈ b.live := List.mem_erase_of_ne (Ne.symm hj)
      simp [hj, other]

/-- After its release a handle does not occur in an accepted trace. -/
theorem replay_after_release {s t : List (Act ι)} {j : ι} {b : Book ι}
    (h : replay admits empty (s ++ Act.release j :: t) = some b) :
    (j ∈ b.seen ∧ j ∉ b.live) ∧ ∀ a ∈ t, a.target ≠ j := by
  induction t using List.reverseRecOn generalizing b with
  | nil =>
    rw [replay_concat] at h
    obtain ⟨b₁, h₁, h₂⟩ := Option.bind_eq_some_iff.mp h
    have wf := replay_wellFormed admits h₁
    obtain ⟨i, hi, -⟩ | ⟨i, hi, -⟩ | ⟨i, hi, live, rfl⟩ := step_cases admits h₂
    · cases hi
    · cases hi
    · cases hi
      exact ⟨⟨wf.2 j live, wf.1.not_mem_erase⟩, fun _ hm => by cases hm⟩
  | append_singleton t a ih =>
    rw [← List.cons_append, ← List.append_assoc, replay_concat] at h
    obtain ⟨b₁, h₁, h₂⟩ := Option.bind_eq_some_iff.mp h
    obtain ⟨⟨seen, dead⟩, rest⟩ := ih h₁
    have head : a.target ≠ j ∧ j ∈ b.seen ∧ j ∉ b.live := by
      obtain ⟨i, rfl, fresh, -, rfl⟩ | ⟨i, rfl, hi, rfl⟩ | ⟨i, rfl, hi, rfl⟩ :=
        step_cases admits h₂
      · have hne : i ≠ j := fun e => fresh (e ▸ seen)
        exact ⟨hne, List.mem_cons_of_mem _ seen, by simp [hne.symm, dead]⟩
      · exact ⟨fun e => dead (e ▸ hi), seen, dead⟩
      · exact ⟨fun e => dead (e ▸ hi), seen, fun hm => dead (List.mem_of_mem_erase hm)⟩
    refine ⟨head.2, ?_⟩
    intro a' ha'
    rcases List.mem_append.mp ha' with ha' | ha'
    · exact rest a' ha'
    · rw [List.mem_singleton.mp ha']
      exact head.1

end Replay

section Trace
variable {ι : Type} [DecidableEq ι]

def ReleasedOnce (p : ι → Bool) (t : List (Act ι)) : Prop :=
  ∀ i, p i = true → Act.acquire i ∈ t → t.count (Act.release i) = 1

def UntouchedAfterRelease (p : ι → Bool) (t : List (Act ι)) : Prop :=
  ∀ i before after, p i = true → t = before ++ Act.release i :: after →
    ∀ a ∈ after, a.target ≠ i

def isAcquire (p : ι → Bool) : Act ι → Bool
  | .acquire i => p i
  | _ => false

def isRelease (p : ι → Bool) : Act ι → Bool
  | .release i => p i
  | _ => false

def OneAtATime (p : ι → Bool) (t : List (Act ι)) : Prop :=
  ∀ before after, t = before ++ after →
    before.countP (isAcquire p) ≤ before.countP (isRelease p) + 1

variable (admits : List ι → ι → Bool) (p : ι → Bool)

theorem releasedOnce_iff {t : List (Act ι)} {b : Book ι}
    (h : replay admits empty t = some b) :
    ReleasedOnce p t ↔ ∀ i ∈ b.live, p i = false := by
  have wf := replay_wellFormed admits h
  constructor
  · intro once i hi
    by_contra hp
    have hp' : p i = true := by simpa using hp
    have count := once i hp' ((replay_seen admits h i).mp (wf.2 i hi))
    rw [replay_release_count admits h i] at count
    simp [hi] at count
  · intro dead i hp hi
    have seen := (replay_seen admits h i).mpr hi
    have hl : i ∉ b.live := fun hm => by simp [dead i hm] at hp
    rw [replay_release_count admits h i]
    simp [seen, hl]

theorem untouchedAfterRelease {t : List (Act ι)} {b : Book ι}
    (h : replay admits empty t = some b) : UntouchedAfterRelease p t := by
  rintro i before after - rfl
  exact (replay_after_release admits h).2

theorem replay_countP {t : List (Act ι)} {b : Book ι}
    (h : replay admits empty t = some b) :
    t.countP (isAcquire p) = t.countP (isRelease p) + b.live.countP p := by
  refine replay_induction admits
    (motive := fun t b => t.countP (isAcquire p) = t.countP (isRelease p) + b.live.countP p)
    (by simp [empty]) ?_ h
  intro t b a b' _ ih hs
  rw [List.countP_append, List.countP_append]
  obtain ⟨i, rfl, -, -, rfl⟩ | ⟨i, rfl, -, rfl⟩ | ⟨i, rfl, hi, rfl⟩ := step_cases admits hs
  · cases hp : p i <;>
      simp only [List.countP_cons, List.countP_nil, isAcquire, isRelease, hp, Bool.false_eq_true,
        if_true, if_false] <;> omega
  · simp only [List.countP_cons, List.countP_nil, isAcquire, isRelease, Bool.false_eq_true,
      if_false]
    omega
  · have erased := (List.perm_cons_erase hi).countP_eq p
    rw [List.countP_cons] at erased
    cases hp : p i <;>
      simp only [List.countP_cons, List.countP_nil, isAcquire, isRelease, hp, Bool.false_eq_true,
        if_true, if_false] at erased ⊢ <;> omega

/-- A policy that admits a handle of the kind only when none is live keeps them
    one at a time. -/
theorem oneAtATime (policy : ∀ live i, admits live i = true → p i = true → live.countP p = 0)
    {t : List (Act ι)} {b : Book ι} (h : replay admits empty t = some b) : OneAtATime p t := by
  rintro before after rfl
  rw [replay_append] at h
  obtain ⟨b₁, h₁, -⟩ := Option.bind_eq_some_iff.mp h
  have one : b₁.live.countP p ≤ 1 := by
    refine replay_induction admits (motive := fun _ b => b.live.countP p ≤ 1)
      (by simp [empty]) ?_ h₁
    intro t b a b' _ ih hs
    obtain ⟨i, -, -, adm, rfl⟩ | ⟨i, -, -, rfl⟩ | ⟨i, -, -, rfl⟩ := step_cases admits hs
    · rw [List.countP_cons]
      split
      · rename_i hp
        have none_live := policy b.live i adm hp
        omega
      · simpa using ih
    · exact ih
    · exact Nat.le_trans List.erase_sublist.countP_le ih
  have count := replay_countP admits p h₁
  omega

end Trace

end LibZbxPgsql.HandleLedger
