import Mathlib.Data.List.Basic

/-!
# The steps of a machine that can halt

A machine is a step function into `Except`. A run is over at the first step that fails;
`transitions` lists the steps before it, each with the states around it.

Results:
* `transitions_invariant`: what every step keeps holds around every step of a run.
* `transitions_total`: a run is made to its end where an invariant makes every step succeed.
-/

namespace Backplane.Transitions

/-- A step that was made. -/
structure Transition (σ α : Type*) where
  before : σ
  input : α
  after : σ

variable {σ α ε : Type*}

/-- The steps of the run over a list of inputs, from `s`. -/
def transitions (step : σ → α → Except ε σ) (s : σ) : List α → List (Transition σ α)
  | [] => []
  | a :: l =>
    match step s a with
    | .error _ => []
    | .ok s' => ⟨s, a, s'⟩ :: transitions step s' l

variable {step : σ → α → Except ε σ} {P : σ → Prop}

/-- **The invariant rule.** -/
theorem transitions_invariant (hP : ∀ s a s', P s → step s a = .ok s' → P s') {l : List α} {s : σ}
    (h : P s) {t : Transition σ α} (ht : t ∈ transitions step s l) :
    step t.before t.input = .ok t.after ∧ P t.before ∧ P t.after := by
  induction l generalizing s with
  | nil => exact absurd ht List.not_mem_nil
  | cons a l ih =>
    rw [transitions] at ht
    cases hs : step s a with
    | error e =>
      rw [hs] at ht
      exact absurd ht List.not_mem_nil
    | ok s' =>
      rw [hs] at ht
      rcases List.mem_cons.mp ht with rfl | htail
      · exact ⟨hs, h, hP s a s' h hs⟩
      · exact ih (hP s a s' h hs) htail

/-- **A run that does not halt.** -/
theorem transitions_total (hP : ∀ s a, P s → ∃ s', step s a = .ok s' ∧ P s') (l : List α) {s : σ}
    (h : P s) : (transitions step s l).map Transition.input = l := by
  induction l generalizing s with
  | nil => rfl
  | cons a l ih =>
    obtain ⟨s', hs, h'⟩ := hP s a h
    rw [transitions, hs]
    exact congrArg (a :: ·) (ih h')

end Backplane.Transitions
