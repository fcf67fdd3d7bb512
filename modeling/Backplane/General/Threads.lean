import Backplane.General.Run
import Mathlib.Algebra.BigOperators.Group.Finset.Piecewise
import Mathlib.Algebra.Order.BigOperators.Group.Finset
import Mathlib.Data.Fintype.BigOperators
import Mathlib.Logic.Relation

/-!
# Threads that share a state

Threads take turns: at each turn the scheduler picks one, which makes one move on the shared state
and on its own. A thread that waits for something is picked in vain. Nothing is assumed about the
scheduler.

Results:
* `step_cases`: what a turn can do.
* `run_alone`: a thread that is not interrupted.
* `world_induction`: the invariant rule, one case for every thread.
* `Outline.run`: assertions of single threads hold in every interleaving, if each is kept by its
  own thread and by what the others guarantee.
* `balance_run`: a count that is split between the shared state and the threads.
* `local_run_const`: a thread that cannot leave where it is stays there.
* `run_without`: what a thread's turns do not show in does not depend on them.
-/

namespace Backplane.Threads

open Backplane.Run

/-- Threads `ι` over a shared state `σ`. A move of thread `i` reads an input of type `A i` and is
`none` where the thread waits. -/
structure Program (ι σ : Type*) (L A : ι → Type*) where
  move : (i : ι) → A i → σ → L i → Option (σ × L i)

/-- The shared state and the threads' own. -/
@[ext] structure World {ι : Type*} (σ : Type*) (L : ι → Type*) where
  shared : σ
  locals : ∀ i, L i

variable {ι σ : Type*} {L A : ι → Type*} [DecidableEq ι]

/-- The world after a move of thread `i`. -/
def World.moved (w : World σ L) (i : ι) (x : σ × L i) : World σ L :=
  { shared := x.1, locals := Function.update w.locals i x.2 }

@[simp] theorem moved_shared (w : World σ L) (i : ι) (x : σ × L i) :
    (w.moved i x).shared = x.1 := rfl

@[simp] theorem moved_locals_self (w : World σ L) (i : ι) (x : σ × L i) :
    (w.moved i x).locals i = x.2 := Function.update_self ..

theorem moved_locals_other (w : World σ L) {i j : ι} (x : σ × L i) (h : j ≠ i) :
    (w.moved i x).locals j = w.locals j := Function.update_of_ne h ..

/-- A turn of thread `x.1`. -/
def Program.step (p : Program ι σ L A) (w : World σ L) (x : Σ i, A i) : World σ L :=
  match p.move x.1 x.2 w.shared (w.locals x.1) with
  | none => w
  | some y => w.moved x.1 y

variable {p : Program ι σ L A}

/-- **What a turn can do**: nothing, or a move of the thread whose turn it is. -/
theorem step_cases (w : World σ L) (x : Σ i, A i) :
    p.step w x = w ∨
      ∃ y, p.move x.1 x.2 w.shared (w.locals x.1) = some y ∧ p.step w x = w.moved x.1 y := by
  unfold Program.step
  cases h : p.move x.1 x.2 w.shared (w.locals x.1) with
  | none => exact .inl rfl
  | some y => exact .inr ⟨y, rfl, rfl⟩

/-- What every move keeps, every turn keeps. -/
theorem step_preserves {P : World σ L → Prop}
    (hP : ∀ w i a y, P w → p.move i a w.shared (w.locals i) = some y → P (w.moved i y))
    (w : World σ L) (x : Σ i, A i) (h : P w) : P (p.step w x) := by
  rcases step_cases (p := p) w x with heq | ⟨y, hy, heq⟩
  · rwa [heq]
  · rw [heq]
    exact hP w x.1 x.2 y h hy

/-- **The invariant rule.** What every move keeps holds in every interleaving. -/
theorem world_induction {P : World σ L → Prop} {w : World σ L} (start : P w)
    (next : ∀ w i a y, P w → p.move i a w.shared (w.locals i) = some y → P (w.moved i y))
    (l : List (Σ i, A i)) : P (run p.step w l) :=
  run_preserves (step_preserves next) l start

/-- Some thread met `R`. After a move some thread still does, unless the moving one was it and
`X` makes up for it. -/
theorem exists_moved {R : (i : ι) → L i → Prop} {X : Prop} {w : World σ L} {j : ι} {y : σ × L j}
    (h : ∃ i, R i (w.locals i)) (hj : R j (w.locals j) → X ∨ R j y.2) :
    X ∨ ∃ i, R i ((w.moved j y).locals i) := by
  obtain ⟨i, hi⟩ := h
  by_cases hij : i = j
  · subst hij
    refine (hj hi).imp_right fun hy => ⟨i, ?_⟩
    rwa [moved_locals_self]
  · refine .inr ⟨i, ?_⟩
    rwa [moved_locals_other w y hij]

/-- **A thread that is not interrupted**: what it does by itself, it does in the world. -/
theorem run_alone {i : ι} {a : A i} {w : World σ L} {x z : σ × L i}
    (h : Relation.ReflTransGen (fun x y => p.move i a x.1 x.2 = some y) x z) :
    ∃ n, run p.step (w.moved i x) (List.replicate n ⟨i, a⟩) = w.moved i z := by
  induction h with
  | refl => exact ⟨0, rfl⟩
  | @tail y z _ hmove ih =>
    obtain ⟨n, hn⟩ := ih
    refine ⟨n + 1, ?_⟩
    have hstep : p.step (w.moved i y) ⟨i, a⟩ = w.moved i z := by
      unfold Program.step
      rw [moved_locals_self, moved_shared, hmove]
      exact World.ext rfl (Function.update_idem ..)
    rw [List.replicate_succ', run_snoc, hn, hstep]

theorem moved_self (w : World σ L) (i : ι) :
    w.moved i (w.shared, w.locals i) = w :=
  World.ext rfl (Function.update_eq_self ..)

/-! ## Assertions of single threads -/

/-- A proof outline: an invariant of the shared state, what each thread knows, and what the moves
of a thread guarantee to the others. -/
structure Outline (p : Program ι σ L A) where
  inv : σ → Prop
  own : (i : ι) → σ → L i → Prop
  guar : ι → σ → σ → Prop
  /-- A thread keeps the invariant and what it knows. -/
  move : ∀ {i a s l y}, inv s → own i s l → p.move i a s l = some y →
    inv y.1 ∧ own i y.1 y.2 ∧ guar i s y.1
  /-- What it knows does not depend on the other threads' moves. -/
  stable : ∀ {i j s s' l}, i ≠ j → guar j s s' → own i s l → own i s' l

/-- The invariant holds, and every thread knows what it should. -/
structure Outline.Holds (o : Outline p) (w : World σ L) : Prop where
  inv : o.inv w.shared
  own : ∀ i, o.own i w.shared (w.locals i)

theorem Outline.Holds.moved {o : Outline p} {w : World σ L} (h : o.Holds w) {i : ι} {a : A i}
    {y : σ × L i} (hy : p.move i a w.shared (w.locals i) = some y) : o.Holds (w.moved i y) := by
  obtain ⟨hinv, hown, hguar⟩ := o.move h.inv (h.own i) hy
  refine ⟨hinv, fun j => ?_⟩
  by_cases hj : j = i
  · subst hj
    rw [moved_locals_self]
    exact hown
  · rw [moved_locals_other w y hj]
    exact o.stable hj hguar (h.own j)

/-- **Assertions hold in every interleaving.** -/
theorem Outline.run (o : Outline p) {w : World σ L} (h : o.Holds w) (l : List (Σ i, A i)) :
    o.Holds (run p.step w l) :=
  world_induction h (fun _ _ _ _ hw hy => hw.moved hy) l

/-! ## Counting -/

section Balance

variable [Fintype ι] {f g : σ → ℕ} {weight : (i : ι) → L i → ℕ}

/-- `f` counts what `g` has counted and what the threads still hold. -/
def Tallied (f g : σ → ℕ) (weight : (i : ι) → L i → ℕ) (w : World σ L) : Prop :=
  f w.shared = g w.shared + ∑ i, weight i (w.locals i)

omit [DecidableEq ι] in
theorem Tallied.of_settled {w : World σ L} (h : Tallied f g weight w)
    (hzero : ∀ i, weight i (w.locals i) = 0) : f w.shared = g w.shared := by
  rw [h, Finset.sum_eq_zero fun i _ => hzero i, Nat.add_zero]

/-- The weights after a move: one of them has changed. -/
theorem sum_weight_moved (w : World σ L) (i : ι) (y : σ × L i) :
    ∑ j, weight j ((w.moved i y).locals j) + weight i (w.locals i) =
      ∑ j, weight j (w.locals j) + weight i y.2 := by
  have hrest : ∑ j ∈ Finset.univ.erase i, weight j ((w.moved i y).locals j) =
      ∑ j ∈ Finset.univ.erase i, weight j (w.locals j) :=
    Finset.sum_congr rfl fun j hj => by
      rw [moved_locals_other w y (Finset.ne_of_mem_erase hj)]
  rw [← Finset.sum_erase_add _ _ (Finset.mem_univ i),
    ← Finset.sum_erase_add (f := fun j => weight j (w.locals j)) _ (Finset.mem_univ i), hrest,
    moved_locals_self]
  omega

/-- **The balance rule**, for moves in worlds that meet `P`. -/
theorem balance_run {P : World σ L → Prop} (hP : ∀ w x, P w → P (p.step w x))
    (hmove : ∀ w i a y, P w → p.move i a w.shared (w.locals i) = some y →
      f y.1 + g w.shared + weight i (w.locals i) = f w.shared + g y.1 + weight i y.2)
    {w : World σ L} (start : P w) (h : Tallied f g weight w) (l : List (Σ i, A i)) :
    Tallied f g weight (run p.step w l) := by
  have hboth : P (run p.step w l) ∧ Tallied f g weight (run p.step w l) := by
    refine run_preserves (P := fun w => P w ∧ Tallied f g weight w) ?_ l ⟨start, h⟩
    rintro w x ⟨hPw, hw⟩
    refine ⟨hP w x hPw, ?_⟩
    rcases step_cases (p := p) w x with heq | ⟨y, hy, heq⟩
    · rwa [heq]
    · have hlaw := hmove w x.1 x.2 y hPw hy
      have hsum : ∑ j, weight j ((w.moved x.1 y).locals j) + weight x.1 (w.locals x.1) =
          ∑ j, weight j (w.locals j) + weight x.1 y.2 := sum_weight_moved w x.1 y
      rw [heq]
      unfold Tallied at hw ⊢
      rw [moved_shared]
      omega
  exact hboth.2

end Balance

/-! ## Threads that are stuck -/

/-- **A thread that cannot leave `Q`**, as long as the shared state meets `R`, which all threads
keep while it is there. -/
theorem local_run_const {i : ι} {R : World σ L → Prop} {Q : L i → Prop} {w : World σ L}
    (hR : ∀ w j a y, R w → Q (w.locals i) → p.move j a w.shared (w.locals j) = some y →
      R (w.moved j y))
    (hQ : ∀ w a y, R w → Q (w.locals i) → p.move i a w.shared (w.locals i) = some y → Q y.2)
    (h : R w) (hq : Q (w.locals i)) (l : List (Σ i, A i)) :
    Q ((run p.step w l).locals i) := by
  have hboth : R (run p.step w l) ∧ Q ((run p.step w l).locals i) := by
    refine world_induction (P := fun w => R w ∧ Q (w.locals i)) ⟨h, hq⟩ ?_ l
    rintro w j a y ⟨hRw, hQw⟩ hy
    refine ⟨hR w j a y hRw hQw hy, ?_⟩
    by_cases hj : i = j
    · subst hj
      rw [moved_locals_self]
      exact hQ w a y hRw hQw hy
    · rwa [moved_locals_other w y hj]
  exact hboth.2

/-! ## Threads that disturb nothing -/

/-- **The rule for noninterference.** A relation that a turn of `k` on one side keeps, and a turn of
another thread on both sides, holds after a run and the same run without the turns of `k`. -/
theorem run_without {k : ι} {R : World σ L → World σ L → Prop}
    (hk : ∀ w w' a, R w w' → R (p.step w ⟨k, a⟩) w')
    (hothers : ∀ w w' x, x.1 ≠ k → R w w' → R (p.step w x) (p.step w' x))
    (l : List (Σ i, A i)) {w w' : World σ L} (h : R w w') :
    R (run p.step w l) (run p.step w' (l.filter fun x => x.1 ≠ k)) := by
  induction l generalizing w w' with
  | nil => exact h
  | cons x l ih =>
    by_cases hx : x.1 = k
    · obtain ⟨i, a⟩ := x
      subst hx
      rw [List.filter_cons_of_neg (by simp), run_cons]
      exact ih (hk w w' a h)
    · rw [List.filter_cons_of_pos (by simpa using hx), run_cons, run_cons]
      exact ih (hothers w w' x hx h)

end Backplane.Threads
