import Mathlib.Data.List.Induction

/-!
# Runs of a deterministic machine

A machine is a total step function `step : σ → α → σ`; a run is its left fold over a list of
inputs. `stateAt` is the state before the `k`-th input. `Onset P l k a` says that the `k`-th
input, `a`, is the one at which `P` starts to hold.

Results:
* `run_induction`: an invariant that may speak about the inputs read so far.
* `run_prefix`: an invariant kept by the steps of one run.
* `run_iff`, `forall_step_iff`: an exact condition on the steps of a run.
* `onset_iff_split`: an onset is a split of the inputs at the step that makes `P` true.
* `onset_unique`: a persistent predicate has one.
* `preceded_iff`: what precedes a persistent predicate precedes its onset.
* `run_hom`: a function that commutes with the steps commutes with the run.
* `run_rel`: a relation kept by related steps holds of two related runs, after every step.
-/

namespace Backplane.Run

variable {σ α : Type*}

/-- The state after the inputs `l`, from `s`. -/
def run (step : σ → α → σ) (s : σ) (l : List α) : σ := l.foldl step s

/-- The state before input `k`. -/
def stateAt (step : σ → α → σ) (s : σ) (l : List α) (k : Nat) : σ := run step s (l.take k)

/-- Input `k`, which is `a`, makes `P` true. -/
structure Onset (step : σ → α → σ) (s : σ) (P : σ → Prop) (l : List α) (k : Nat) (a : α) :
    Prop where
  input : l[k]? = some a
  before : ¬ P (stateAt step s l k)
  after : P (stateAt step s l (k + 1))

variable {step : σ → α → σ} {s : σ} {P : σ → Prop}

@[simp] theorem run_nil : run step s [] = s := rfl

@[simp] theorem run_cons (a : α) (l : List α) : run step s (a :: l) = run step (step s a) l := rfl

theorem run_append (l l' : List α) : run step s (l ++ l') = run step (run step s l) l' :=
  List.foldl_append

theorem run_snoc (l : List α) (a : α) : run step s (l ++ [a]) = step (run step s l) a := by
  rw [run_append, run_cons, run_nil]

theorem stateAt_succ {l : List α} {k : Nat} {a : α} (h : l[k]? = some a) :
    stateAt step s l (k + 1) = step (stateAt step s l k) a := by
  obtain ⟨hlt, rfl⟩ := List.getElem?_eq_some_iff.mp h
  unfold stateAt
  rw [List.take_succ_eq_append_getElem hlt, run_snoc]

/-- There are no steps past the end. -/
theorem stateAt_succ_of_none {l : List α} {k : Nat} (h : l[k]? = none) :
    stateAt step s l (k + 1) = stateAt step s l k := by
  have hge := List.getElem?_eq_none_iff.mp h
  unfold stateAt
  rw [List.take_of_length_le hge, List.take_of_length_le (Nat.le_succ_of_le hge)]

/-- **The invariant rule.** The invariant relates the inputs read so far to the state. -/
theorem run_induction {motive : List α → σ → Prop} (start : motive [] s)
    (next : ∀ l a, motive l (run step s l) → motive (l ++ [a]) (step (run step s l) a)) :
    ∀ l, motive l (run step s l) := by
  intro l
  induction l using List.reverseRecOn with
  | nil => exact start
  | append_singleton l a ih =>
    rw [run_snoc]
    exact next l a ih

/-- The invariant rule for a run whose steps are known to meet a condition. -/
theorem run_prefix {motive : List α → σ → Prop} {l : List α} (start : motive [] s)
    (next : ∀ pre a, pre ++ [a] <+: l → motive pre (run step s pre) →
      motive (pre ++ [a]) (step (run step s pre) a)) {pre : List α} (h : pre <+: l) :
    motive pre (run step s pre) := by
  induction pre using List.reverseRecOn with
  | nil => exact start
  | append_singleton pre a ih =>
    rw [run_snoc]
    exact next pre a h (ih ((List.prefix_append pre [a]).trans h))

/-- Every step of a run, and one more. -/
theorem forall_step_snoc {Q : List α → α → Prop} {l : List α} {b : α} :
    (∀ pre a, pre ++ [a] <+: l ++ [b] → Q pre a) ↔
      (∀ pre a, pre ++ [a] <+: l → Q pre a) ∧ Q l b := by
  constructor
  · intro h
    exact ⟨fun pre a hpre => h pre a (hpre.trans (List.prefix_append l [b])),
      h l b List.prefix_rfl⟩
  · rintro ⟨hl, hb⟩ pre a hpre
    rcases List.prefix_concat_iff.mp hpre with heq | hpre
    · obtain ⟨rfl, ha⟩ := List.append_inj' heq rfl
      cases ha
      exact hb
    · exact hl pre a hpre

/-- The first step of a run, and the others. -/
theorem forall_step_cons {Q : σ → α → Prop} {b : α} {l : List α} :
    (∀ pre a, pre ++ [a] <+: b :: l → Q (run step s pre) a) ↔
      Q s b ∧ ∀ pre a, pre ++ [a] <+: l → Q (run step (step s b) pre) a := by
  constructor
  · intro h
    exact ⟨h [] b ⟨l, rfl⟩, fun pre a hpre => h (b :: pre) a ((List.prefix_cons_inj b).mpr hpre)⟩
  · rintro ⟨hb, hl⟩ pre a hpre
    cases pre with
    | nil =>
      obtain ⟨rfl, -⟩ := List.cons_prefix_cons.mp hpre
      exact hb
    | cons c pre =>
      obtain ⟨rfl, hrest⟩ := List.cons_prefix_cons.mp hpre
      exact hl pre a hrest

theorem forall_step_nil {Q : σ → α → Prop} :
    ∀ pre a, pre ++ [a] <+: [] → Q (run step s pre) a :=
  fun _ _ hpre => absurd (List.prefix_nil.mp hpre) (by simp)

/-- **The rule for an exact condition.** If, under an invariant, a step keeps `G` exactly when it
meets `Q`, a run ends in `G` exactly when all its steps meet `Q`. -/
theorem run_iff {I G : σ → Prop} {Q : σ → α → Prop} (hI : ∀ s a, I s → I (step s a))
    (hG : ∀ s a, I s → (G (step s a) ↔ G s ∧ Q s a)) (start : I s) (good : G s) (l : List α) :
    G (run step s l) ↔ ∀ pre a, pre ++ [a] <+: l → Q (run step s pre) a := by
  have hrun : ∀ l, I (run step s l) := run_induction start fun l a h => hI _ a h
  induction l using List.reverseRecOn with
  | nil =>
    refine ⟨fun _ pre a hpre => ?_, fun _ => good⟩
    exact absurd (List.prefix_nil.mp hpre) (by simp)
  | append_singleton l b ih =>
    rw [run_snoc]
    exact (hG _ b (hrun l)).trans ((and_congr_left' ih).trans forall_step_snoc.symm)

/-- **The rule for conditions on steps.** If, under an invariant that such steps keep, a step is `P`
exactly when it is `Q`, all steps of a run are `P` exactly when all are `Q`. -/
theorem forall_step_iff {I : σ → Prop} {P Q : σ → α → Prop}
    (hiff : ∀ s a, I s → (P s a ↔ Q s a)) (hkeep : ∀ s a, I s → P s a → I (step s a))
    (start : I s) (l : List α) :
    (∀ pre a, pre ++ [a] <+: l → P (run step s pre) a) ↔
      ∀ pre a, pre ++ [a] <+: l → Q (run step s pre) a := by
  have hinv : ∀ l, (∀ pre a, pre ++ [a] <+: l → P (run step s pre) a) → I (run step s l) := by
    intro l
    induction l using List.reverseRecOn with
    | nil => exact fun _ => start
    | append_singleton l b ih =>
      intro h
      obtain ⟨hl, hb⟩ := forall_step_snoc.mp h
      rw [run_snoc]
      exact hkeep _ b (ih hl) hb
  induction l using List.reverseRecOn with
  | nil => exact ⟨fun _ pre a h => absurd (List.prefix_nil.mp h) (by simp),
      fun _ pre a h => absurd (List.prefix_nil.mp h) (by simp)⟩
  | append_singleton l b ih =>
    rw [forall_step_snoc, forall_step_snoc]
    constructor
    · rintro ⟨hl, hb⟩
      exact ⟨ih.mp hl, (hiff _ b (hinv l hl)).mp hb⟩
    · rintro ⟨hl, hb⟩
      exact ⟨ih.mpr hl, (hiff _ b (hinv l (ih.mpr hl))).mpr hb⟩

/-- A predicate that no step loses holds to the end of a run. -/
theorem run_preserves (hP : ∀ s a, P s → P (step s a)) (l : List α) (h : P s) :
    P (run step s l) := by
  induction l generalizing s with
  | nil => exact h
  | cons a l ih => exact ih (hP s a h)

/-- It holds at every later step. -/
theorem stateAt_mono (hP : ∀ s a, P s → P (step s a)) {l : List α} {j k : Nat}
    (h : P (stateAt step s l j)) (hjk : j ≤ k) : P (stateAt step s l k) := by
  have hsplit : l.take k = l.take j ++ (l.take k).drop j := by
    conv_lhs => rw [← List.take_append_drop j (l.take k)]
    rw [List.take_take, Nat.min_eq_left hjk]
  unfold stateAt
  rw [hsplit, run_append]
  exact run_preserves hP _ h

/-! ## Onsets -/

theorem stateAt_append {l l' : List α} {k : Nat} (hk : k ≤ l.length) :
    stateAt step s (l ++ l') k = stateAt step s l k := by
  unfold stateAt
  rw [List.take_append_of_le_length hk]

theorem stateAt_length (l : List α) : stateAt step s l l.length = run step s l := by
  unfold stateAt
  rw [List.take_length]

/-- The inputs around an onset: `pre` before it, `a` makes `P` true. -/
theorem onset_iff_split {l : List α} {k : Nat} {a : α} :
    Onset step s P l k a ↔ ∃ pre post, l = pre ++ a :: post ∧ pre.length = k ∧
      ¬ P (run step s pre) ∧ P (step (run step s pre) a) := by
  constructor
  · rintro ⟨hin, hb, ha⟩
    obtain ⟨hlt, rfl⟩ := List.getElem?_eq_some_iff.mp hin
    refine ⟨l.take k, l.drop (k + 1), ?_, List.length_take_of_le (Nat.le_of_lt hlt), hb, ?_⟩
    · rw [← List.drop_eq_getElem_cons hlt, List.take_append_drop]
    · unfold stateAt at ha
      rwa [← List.take_append_getElem hlt, run_snoc] at ha
  · rintro ⟨pre, post, rfl, rfl, hb, ha⟩
    refine ⟨by simp, ?_, ?_⟩
    · rwa [stateAt_append (Nat.le_refl _), stateAt_length]
    · rw [show pre ++ a :: post = (pre ++ [a]) ++ post by simp, stateAt_append (by simp),
        show pre.length + 1 = (pre ++ [a]).length by simp, stateAt_length, run_snoc]
      exact ha

theorem Onset.append {l : List α} {k : Nat} {a : α} (h : Onset step s P l k a) (l' : List α) :
    Onset step s P (l ++ l') k a := by
  obtain ⟨pre, post, rfl, hk, hb, ha⟩ := onset_iff_split.mp h
  exact onset_iff_split.mpr ⟨pre, post ++ l', by simp, hk, hb, ha⟩

/-- The step that makes `P` true is an onset at the end of the run. -/
theorem onset_snoc {l : List α} {a : α} (hb : ¬ P (run step s l)) (ha : P (step (run step s l) a)) :
    Onset step s P (l ++ [a]) l.length a :=
  onset_iff_split.mpr ⟨l, [], rfl, rfl, hb, ha⟩

theorem Onset.lt_length {l : List α} {k : Nat} {a : α} (h : Onset step s P l k a) :
    k < l.length :=
  (List.getElem?_eq_some_iff.mp h.input).1

/-- A persistent predicate holds from its onset to the end. -/
theorem Onset.holds (hP : ∀ s a, P s → P (step s a)) {l : List α} {k : Nat} {a : α}
    (h : Onset step s P l k a) {j : Nat} (hj : k < j) : P (stateAt step s l j) :=
  stateAt_mono hP h.after hj

/-- **A persistent predicate has one onset.** -/
theorem onset_unique (hP : ∀ s a, P s → P (step s a)) {l : List α} {j k : Nat} {a b : α}
    (hj : Onset step s P l j a) (hk : Onset step s P l k b) : j = k ∧ a = b := by
  have heq : j = k := by
    rcases Nat.lt_trichotomy j k with h | h | h
    · exact absurd (hj.holds hP h) hk.before
    · exact h
    · exact absurd (hk.holds hP h) hj.before
  subst heq
  exact ⟨rfl, Option.some.inj (hj.input.symm.trans hk.input)⟩

/-- What holds in a run and not at its start has an onset. -/
theorem exists_onset (h0 : ¬ P s) {l : List α} {k : Nat} (hk : P (stateAt step s l k)) :
    ∃ j a, j < k ∧ Onset step s P l j a := by
  induction k with
  | zero => exact absurd hk h0
  | succ k ih =>
    by_cases hP : P (stateAt step s l k)
    · obtain ⟨j, a, hj, hon⟩ := ih hP
      exact ⟨j, a, Nat.lt_succ_of_lt hj, hon⟩
    · cases ha : l[k]? with
      | none => exact absurd (stateAt_succ_of_none ha ▸ hk) hP
      | some a => exact ⟨k, a, Nat.lt_succ_self k, ha, hP, hk⟩

/-- **The rule for what must come before.** A persistent predicate is preceded by `W` wherever it
holds iff it is at its onset. -/
theorem preceded_iff (hP : ∀ s a, P s → P (step s a)) (h0 : ¬ P s) {l : List α} {W : Nat → Prop} :
    (∀ k, P (stateAt step s l k) → ∃ j < k, W j) ↔
      ∀ k a, Onset step s P l k a → ∃ j ≤ k, W j := by
  constructor
  · intro h k a hon
    obtain ⟨j, hj, hW⟩ := h (k + 1) (hon.holds hP (Nat.lt_succ_self k))
    exact ⟨j, Nat.le_of_lt_succ hj, hW⟩
  · intro h k hk
    obtain ⟨i, a, hi, hon⟩ := exists_onset h0 hk
    obtain ⟨j, hj, hW⟩ := h i a hon
    exact ⟨j, Nat.lt_of_le_of_lt hj hi, hW⟩

/-! ## Two runs side by side -/

/-- **A part of the state** that is a machine of its own on the same inputs. -/
theorem run_hom {τ : Type*} {step' : τ → α → τ} (f : σ → τ)
    (h : ∀ s a, f (step s a) = step' (f s) a) (l : List α) :
    f (run step s l) = run step' (f s) l :=
  (List.foldl_hom f fun s a => (h s a).symm).symm

/-- **The simulation rule.** A relation kept by every pair of related inputs holds of the two
states after the same number of steps. -/
theorem run_rel {τ β : Type*} {step' : τ → β → τ} {t : τ} {R : σ → τ → Prop}
    {I : α → β → Prop} (hstep : ∀ s t a b, R s t → I a b → R (step s a) (step' t b))
    (h0 : R s t) {l : List α} {l' : List β} (hl : List.Forall₂ I l l') (k : Nat) :
    R (stateAt step s l k) (stateAt step' t l' k) := by
  unfold stateAt
  induction hl generalizing s t k with
  | nil => simpa using h0
  | cons hab _ ih =>
    cases k with
    | zero => exact h0
    | succ k => exact ih (hstep _ _ _ _ h0 hab) k

end Backplane.Run
