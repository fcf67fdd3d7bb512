import Mathlib.Data.List.Forall2
import Mathlib.Data.List.Induction

/-!
# Loops that can fail

A `for` loop whose body may fail is `List.foldlM` in `Except`.

Results:
* `bind_ok`: a sequence succeeds when both parts do.
* `ok_of_shows`: a computation that shows a result succeeds.
* `foldlM_preserves`: what the body keeps, the loop keeps.
* `foldlM_induction`: an invariant that may speak about the elements gone through.
* `foldlM_isOk_iff_steps`: the loop succeeds when every step that it gets to does.
* `foldlM_isOk_iff`: if, under an invariant, the body succeeds exactly on the elements with a
  property, the loop succeeds exactly on the lists of such elements.
* `mapM_ok_iff`: the results of a list of computations.
-/

namespace Backplane.FoldM

universe u

variable {α ε : Type*} {β : Type u} {f : β → α → Except ε β} {P : β → Prop} {Q : α → Prop}

/-- A sequence of two computations succeeds when both do. -/
theorem bind_ok {γ : Type u} {x : Except ε γ} {k : γ → Except ε β} {b : β} :
    x >>= k = .ok b ↔ ∃ a, x = .ok a ∧ k a = .ok b := by
  cases x with
  | error e =>
    constructor
    · intro h
      cases h
    · rintro ⟨a, ha, -⟩
      cases ha
  | ok a =>
    constructor
    · exact fun h => ⟨a, rfl, h⟩
    · rintro ⟨a', ha, hk⟩
      cases ha
      exact hk

/-- A computation whose result shows `y` has succeeded. -/
theorem ok_of_shows {γ : Type*} {δ : Type*} {x : Except ε γ} {g : γ → δ} {y : δ}
    (h : x.toOption.map g = some y) : ∃ a, x = .ok a ∧ g a = y := by
  cases x with
  | error e => cases h
  | ok a => exact ⟨a, rfl, Option.some.inj h⟩

theorem foldlM_cons_ok {l : List α} {a : α} {b b' : β} :
    (a :: l).foldlM f b = .ok b' ↔ ∃ c, f b a = .ok c ∧ l.foldlM f c = .ok b' := by
  rw [List.foldlM_cons]
  exact bind_ok

/-- **The invariant rule** for a loop that can fail. -/
theorem foldlM_preserves (hf : ∀ b a b', P b → f b a = .ok b' → P b') {l : List α} {b b' : β}
    (hb : P b) (h : l.foldlM f b = .ok b') : P b' := by
  induction l generalizing b with
  | nil =>
    cases h
    exact hb
  | cons a l ih =>
    obtain ⟨c, hc, hrest⟩ := foldlM_cons_ok.mp h
    exact ih (hf b a c hb hc) hrest

theorem foldlM_snoc_ok {l : List α} {a : α} {b b' : β} :
    (l ++ [a]).foldlM f b = .ok b' ↔ ∃ c, l.foldlM f b = .ok c ∧ f c a = .ok b' := by
  rw [List.foldlM_append, bind_ok]
  simp only [List.foldlM_cons, List.foldlM_nil, bind_pure]

/-- The invariant rule for invariants that also speak about the elements. -/
theorem foldlM_induction {motive : List α → β → Prop} {b : β} (start : motive [] b)
    (next : ∀ l a c c', motive l c → f c a = .ok c' → motive (l ++ [a]) c') {l : List α} {b' : β}
    (h : l.foldlM f b = .ok b') : motive l b' := by
  induction l using List.reverseRecOn generalizing b' with
  | nil =>
    cases h
    exact start
  | append_singleton l a ih =>
    obtain ⟨c, hc, hlast⟩ := foldlM_snoc_ok.mp h
    exact next l a c b' (ih hc) hlast

/-- **The loop succeeds iff** every step that it gets to does. -/
theorem foldlM_isOk_iff_steps {l : List α} {b : β} :
    (∃ b', l.foldlM f b = .ok b') ↔
      ∀ pre a c, pre ++ [a] <+: l → pre.foldlM f b = .ok c → ∃ b', f c a = .ok b' := by
  constructor
  · rintro ⟨b', h⟩ pre a c ⟨post, rfl⟩ hpre
    rw [List.foldlM_append] at h
    obtain ⟨c', hc', -⟩ := bind_ok.mp h
    obtain ⟨d, hd, hstep⟩ := foldlM_snoc_ok.mp hc'
    cases hpre.symm.trans hd
    exact ⟨c', hstep⟩
  · intro h
    induction l using List.reverseRecOn with
    | nil => exact ⟨b, rfl⟩
    | append_singleton l a ih =>
      obtain ⟨c, hc⟩ := ih fun pre a' c hpre =>
        h pre a' c (hpre.trans (List.prefix_append l [a]))
      obtain ⟨b', hb'⟩ := h l a c List.prefix_rfl hc
      exact ⟨b', foldlM_snoc_ok.mpr ⟨c, hc, hb'⟩⟩

/-- **When the loop succeeds.** -/
theorem foldlM_isOk_iff (hf : ∀ b a b', P b → f b a = .ok b' → P b')
    (hok : ∀ b a, P b → ((∃ b', f b a = .ok b') ↔ Q a)) {l : List α} {b : β} (hb : P b) :
    (∃ b', l.foldlM f b = .ok b') ↔ ∀ a ∈ l, Q a := by
  induction l generalizing b with
  | nil => exact ⟨fun _ _ ha => absurd ha List.not_mem_nil, fun _ => ⟨b, rfl⟩⟩
  | cons a l ih =>
    constructor
    · rintro ⟨b', h⟩
      obtain ⟨c, hc, hrest⟩ := foldlM_cons_ok.mp h
      rw [List.forall_mem_cons]
      exact ⟨(hok b a hb).mp ⟨c, hc⟩, (ih (hf b a c hb hc)).mp ⟨b', hrest⟩⟩
    · intro hall
      rw [List.forall_mem_cons] at hall
      obtain ⟨c, hc⟩ := (hok b a hb).mpr hall.1
      obtain ⟨b', hb'⟩ := (ih (hf b a c hb hc)).mpr hall.2
      exact ⟨b', foldlM_cons_ok.mpr ⟨c, hc, hb'⟩⟩

/-! ## Lists of results -/

/-- **A list of computations succeeds** with the list of their results. -/
theorem mapM_ok_iff {γ : Type u} {g : α → Except ε γ} {l : List α} {l' : List γ} :
    l.mapM g = .ok l' ↔ List.Forall₂ (fun a c => g a = .ok c) l l' := by
  induction l generalizing l' with
  | nil =>
    rw [List.mapM_nil, List.forall₂_nil_left_iff]
    constructor
    · intro h
      cases h
      rfl
    · rintro rfl
      rfl
  | cons a l ih =>
    rw [List.mapM_cons, bind_ok, List.forall₂_cons_left_iff]
    constructor
    · rintro ⟨c, hc, h⟩
      obtain ⟨rest, hrest, h⟩ := bind_ok.mp h
      cases h
      exact ⟨c, rest, hc, ih.mp hrest, rfl⟩
    · rintro ⟨c, rest, hc, hrest, rfl⟩
      exact ⟨c, hc, bind_ok.mpr ⟨rest, ih.mpr hrest, rfl⟩⟩

end Backplane.FoldM
