import Mathlib.Logic.Basic

/-!
# Programs that store and may fail

A program in `EStateM ε σ` that fails keeps what it stored up to there. `FailsIn P p s` says that if
`p` fails from `s`, it does so in a state with `P`. Each rule takes the first command off a program,
so that the exact condition on the answers and on the first state is left.

Results:
* `failsIn_modify_bind`: a store moves on to the state it makes.
* `failsIn_ofExcept_bind`: an answer may be the failure.
* `intact_iff`: what is left intact is the state.
-/

namespace Backplane.Stores

universe u

variable {ε σ α β : Type u} {P : σ → Prop} {s : σ}

/-- If the program fails, it does so in a state with `P`. -/
def FailsIn (P : σ → Prop) (p : EStateM ε σ α) (s : σ) : Prop :=
  ∀ e s', p.run s = .error e s' → P s'

@[simp] theorem failsIn_pure (a : α) : FailsIn P (pure a : EStateM ε σ α) s :=
  fun _ _ h => nomatch h

@[simp] theorem failsIn_throw (e : ε) : FailsIn P (throw e : EStateM ε σ α) s ↔ P s := by
  constructor
  · exact fun h => h e s rfl
  · intro h e' s' heq
    cases heq
    exact h

theorem run_get_bind {k : σ → EStateM ε σ α} : (get >>= k).run s = (k s).run s := rfl

theorem run_ofExcept_ok_bind {a : α} {k : α → EStateM ε σ β} :
    (MonadExcept.ofExcept (.ok a) >>= k).run s = (k a).run s := rfl

/-- The state that is read is the state. -/
@[simp] theorem failsIn_get_bind {k : σ → EStateM ε σ α} :
    FailsIn P (get >>= k) s ↔ FailsIn P (k s) s := Iff.rfl

/-- **A store** moves on to the state it makes. -/
@[simp] theorem failsIn_modify_bind {f : σ → σ} {k : PUnit → EStateM ε σ β} :
    FailsIn P (modify f >>= k) s ↔ FailsIn P (k ⟨⟩) (f s) := Iff.rfl

@[simp] theorem failsIn_modify {f : σ → σ} :
    FailsIn P (modify f : EStateM ε σ PUnit) s := fun _ _ h => nomatch h

/-- **An answer** may be the failure. -/
@[simp] theorem failsIn_ofExcept_bind {x : Except ε α} {k : α → EStateM ε σ β} :
    FailsIn P (MonadExcept.ofExcept x >>= k) s ↔
      ((∃ e, x = .error e) → P s) ∧ ∀ a, x = .ok a → FailsIn P (k a) s := by
  cases x with
  | error e =>
    have hbind : FailsIn P (MonadExcept.ofExcept (.error e) >>= k) s ↔
        FailsIn P (throw e : EStateM ε σ β) s := Iff.rfl
    rw [hbind]
    simp
  | ok a =>
    have hbind : FailsIn P (MonadExcept.ofExcept (.ok a) >>= k) s ↔ FailsIn P (k a) s := Iff.rfl
    rw [hbind]
    simp

/-- A function of C that works on a state and returns a code, where 0 is a success. -/
def ofCode {σ : Type} (f : σ → σ × Int) : EStateM Int σ PUnit := fun s =>
  if (f s).2 = 0 then .ok ⟨⟩ (f s).1 else .error (f s).2 (f s).1

theorem failsIn_ofCode {σ : Type} {P : σ → Prop} {f : σ → σ × Int} {s : σ} :
    FailsIn P (ofCode f) s ↔ (f s).2 = 0 ∨ P (f s).1 := by
  unfold FailsIn ofCode EStateM.run
  by_cases h : (f s).2 = 0
  · simp [h]
  · simp [h]

/-- A run that fails leaves the state, and what can be read from it. -/
def Intact {χ ρ : Type*} (p : EStateM ε σ α) (observe : σ → χ → ρ) (s : σ) : Prop :=
  FailsIn (fun s' => s' = s ∧ ∀ x, observe s' x = observe s x) p s

theorem intact_iff {χ ρ : Type*} {p : EStateM ε σ α} {observe : σ → χ → ρ} :
    Intact p observe s ↔ FailsIn (· = s) p s := by
  constructor
  · exact fun h e s' hrun => (h e s' hrun).1
  · intro h e s' hrun
    have heq := h e s' hrun
    exact ⟨heq, fun x => by rw [heq]⟩

end Backplane.Stores
