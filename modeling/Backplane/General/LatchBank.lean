import Backplane.General.Run
import Mathlib.Data.List.Perm.Basic
import Mathlib.Logic.Function.Basic
import Mathlib.Order.BooleanAlgebra.Defs
import Mathlib.Order.Monotone.Basic

/-!
# Banks of latches

Sources report to latches. A report is remembered for good; when it is made, the latch's decider
is asked about all reports remembered for that latch so far, and a latch whose decider said yes
once stays latched. Deciders are arbitrary functions of the remembered reports.

Results:
* `reported_run`: the remembered reports are the reports made.
* `latched_run_iff`: a latch is set iff its decider accepted the reports up to and including one
  of the reports made to it.
* `latched_run_of_monotone`: with a monotone decider that rejects the empty set of reports, the
  latch is the decider of the reports remembered now.
* `run_report_perm`: then the order of the reports does not matter.
-/

namespace Backplane.LatchBank

open Backplane.Run

variable {ι α : Type*} [DecidableEq ι] [DecidableEq α]

/-- Latches `ι` that sources `α` report to. -/
@[ext] structure Bank (ι α : Type*) where
  reported : ι → α → Bool
  latched : ι → Bool

/-- No reports. -/
def Bank.empty : Bank ι α := ⟨fun _ _ => false, fun _ => false⟩

/-- Source `x.1` reports to latch `x.2`. -/
def report (d : ι → (α → Bool) → Bool) (b : Bank ι α) (x : α × ι) : Bank ι α :=
  let states := Function.update (b.reported x.2) x.1 true
  { reported := Function.update b.reported x.2 states
    latched := if d x.2 states then Function.update b.latched x.2 true else b.latched }

/-- Who reported to `i` in `l`. -/
def heard (l : List (α × ι)) (i : ι) : α → Bool := fun a => decide ((a, i) ∈ l)

theorem heard_nil (i : ι) : heard ([] : List (α × ι)) i = fun _ => false := by
  funext a
  simp [heard]

theorem heard_snoc_self (l : List (α × ι)) (a : α) (i : ι) :
    heard (l ++ [(a, i)]) i = Function.update (heard l i) a true := by
  funext c
  by_cases h : c = a
  · subst h; simp [heard]
  · rw [Function.update_of_ne h]
    simp [heard, h]

theorem heard_snoc_other (l : List (α × ι)) (a : α) {i j : ι} (h : j ≠ i) :
    heard (l ++ [(a, i)]) j = heard l j := by
  funext c
  simp [heard, h]

theorem heard_perm {l l' : List (α × ι)} (h : l.Perm l') (i : ι) : heard l i = heard l' i := by
  funext a
  simp only [heard, h.mem_iff]

variable {d : ι → (α → Bool) → Bool}

theorem report_reported (b : Bank ι α) (a : α) (i : ι) :
    (report d b (a, i)).reported =
      Function.update b.reported i (Function.update (b.reported i) a true) := rfl

theorem report_latched_self (b : Bank ι α) (a : α) (i : ι) :
    (report d b (a, i)).latched i =
      (b.latched i || d i (Function.update (b.reported i) a true)) := by
  unfold report
  cases h : d i (Function.update (b.reported i) a true) <;> simp [h]

theorem report_latched_other (b : Bank ι α) (a : α) {i j : ι} (h : j ≠ i) :
    (report d b (a, i)).latched j = b.latched j := by
  unfold report
  simp only
  split
  · rw [Function.update_of_ne h]
  · rfl

/-- **The remembered reports are the reports made.** -/
theorem reported_run (l : List (α × ι)) :
    (run (report d) Bank.empty l).reported = heard l := by
  refine run_induction (motive := fun l (b : Bank ι α) => b.reported = heard l) ?_ ?_ l
  · funext i
    rw [heard_nil]; rfl
  · rintro l ⟨a, i⟩ ih
    funext j
    rw [report_reported, ih]
    by_cases h : j = i
    · subst h
      rw [heard_snoc_self, Function.update_self]
    · rw [heard_snoc_other l a h, Function.update_of_ne h]

/-- **A latch is set iff its decider once accepted** the reports up to one of the reports made
to it. -/
theorem latched_run_iff (l : List (α × ι)) (i : ι) :
    (run (report d) Bank.empty l).latched i = true ↔
      ∃ pre a, pre ++ [(a, i)] <+: l ∧ d i (heard (pre ++ [(a, i)]) i) = true := by
  induction l using List.reverseRecOn with
  | nil => simp [Bank.empty]
  | append_singleton l x ih =>
    obtain ⟨a, j⟩ := x
    rw [run_snoc]
    by_cases hij : j = i
    · subst hij
      have hset : (run (report d) Bank.empty l).reported j = heard l j := by rw [reported_run]
      rw [report_latched_self, Bool.or_eq_true, ih, hset, ← heard_snoc_self]
      constructor
      · rintro (⟨pre, c, hpre, hd⟩ | hd)
        · exact ⟨pre, c, hpre.trans (List.prefix_append l _), hd⟩
        · exact ⟨l, a, List.prefix_rfl, hd⟩
      · rintro ⟨pre, c, hpre, hd⟩
        rcases List.prefix_concat_iff.mp hpre with h | h
        · rw [h] at hd
          exact Or.inr hd
        · exact Or.inl ⟨pre, c, h, hd⟩
    · rw [report_latched_other _ _ (Ne.symm hij), ih]
      refine exists_congr fun pre => exists_congr fun c => and_congr_left fun _ => ?_
      rw [List.prefix_concat_iff]
      refine ⟨Or.inr, fun h => h.resolve_left fun heq => ?_⟩
      have := (List.append_inj' heq rfl).2
      simp only [List.cons.injEq, Prod.mk.injEq, and_true] at this
      exact hij this.2.symm

/-- A set latch stays set. -/
theorem latched_report (b : Bank ι α) (x : α × ι) {i : ι} (h : b.latched i = true) :
    (report d b x).latched i = true := by
  obtain ⟨a, j⟩ := x
  by_cases hij : i = j
  · subst hij
    rw [report_latched_self, h, Bool.true_or]
  · rw [report_latched_other _ _ hij, h]

/-! ## Monotone deciders -/

/-- A report never clears a remembered one. -/
theorem le_update_true (f : α → Bool) (a : α) : f ≤ Function.update f a true := by
  intro c
  by_cases h : c = a
  · subst h
    rw [Function.update_self]
    exact Bool.le_true _
  · rw [Function.update_of_ne h]

/-- One more report, for a monotone decider: the latch is the decider of what is remembered. -/
theorem report_closed (hm : ∀ i, Monotone (d i)) {b : Bank ι α}
    (hb : ∀ i, b.latched i = d i (b.reported i)) (x : α × ι) (i : ι) :
    (report d b x).latched i = d i ((report d b x).reported i) := by
  obtain ⟨a, j⟩ := x
  by_cases hij : i = j
  · subst hij
    have hle := hm i (le_update_true (b.reported i) a)
    rw [report_latched_self, report_reported, Function.update_self, hb i]
    exact sup_eq_right.mpr hle
  · rw [report_latched_other _ _ hij, report_reported, Function.update_of_ne hij, hb i]

/-- **The latch of a monotone decider** that rejects the empty set is its verdict on the reports
remembered now. -/
theorem latched_run_of_monotone (hm : ∀ i, Monotone (d i)) (h0 : ∀ i, d i (fun _ => false) = false)
    (l : List (α × ι)) (i : ι) :
    (run (report d) Bank.empty l).latched i = d i (heard l i) := by
  have hclosed : ∀ i, (run (report d) Bank.empty l).latched i =
      d i ((run (report d) Bank.empty l).reported i) :=
    run_preserves (P := fun b : Bank ι α => ∀ i, b.latched i = d i (b.reported i))
      (fun _ x hb i => report_closed hm hb x i) l (fun i => (h0 i).symm)
  rw [hclosed, reported_run]

/-- **Order independence.** With such deciders, permuted reports leave the same bank. -/
theorem run_report_perm (hm : ∀ i, Monotone (d i)) (h0 : ∀ i, d i (fun _ => false) = false)
    {l l' : List (α × ι)} (h : l.Perm l') :
    run (report d) Bank.empty l = run (report d) Bank.empty l' := by
  ext i a
  · rw [reported_run, reported_run, heard_perm h]
  · rw [latched_run_of_monotone hm h0, latched_run_of_monotone hm h0, heard_perm h]

end Backplane.LatchBank
