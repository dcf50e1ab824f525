import GridTalk.SheetError
import Mathlib.Control.Monad.Basic

/-!
# Computations that may fail

* `bind_eq_ok`, `map_eq_ok`: a success of a composite is taken apart into the successes of its
  steps; `bind_eq_error` finds the step that failed.
* `foldlM_invariant`, `exists_step_of_foldlM`: what every step of a loop keeps, the loop keeps; and
  a loop that succeeds has taken all its steps.
* `SameResult`: two computations succeed with the same value, or fail for causes of the same name.
-/

namespace GridTalk

section Success

variable {ε α β : Type}

theorem bind_eq_ok {x : Except ε α} {f : α → Except ε β} {b : β} :
    (x >>= f) = .ok b ↔ ∃ a, x = .ok a ∧ f a = .ok b := by
  cases x <;> simp [bind, Except.bind]

theorem bind_eq_error {x : Except ε α} {f : α → Except ε β} {e : ε} :
    (x >>= f) = .error e ↔ x = .error e ∨ ∃ a, x = .ok a ∧ f a = .error e := by
  cases x <;> simp [bind, Except.bind]

theorem map_eq_ok {x : Except ε α} {f : α → β} {b : β} :
    x.map f = .ok b ↔ ∃ a, x = .ok a ∧ f a = b := by
  cases x <;> simp [Except.map]

theorem pure_eq_ok {a b : α} : (pure a : Except ε α) = .ok b ↔ a = b := by
  simp [pure, Except.pure]

/-- What every step keeps, a run of steps keeps. -/
theorem foldlM_invariant {P : α → Prop} {step : α → β → Except ε α} {l : List β} {a a' : α}
    (hstep : ∀ b ∈ l, ∀ a a', P a → step a b = .ok a' → P a') (ha : P a)
    (h : l.foldlM step a = .ok a') : P a' := by
  induction l generalizing a with
  | nil =>
    obtain rfl := pure_eq_ok.1 h
    exact ha
  | cons b l ih =>
    obtain ⟨a₁, h₁, hrest⟩ := bind_eq_ok.1 h
    have hsteps := fun b' hb' => hstep b' (List.mem_cons_of_mem b hb')
    exact ih hsteps (hstep b (List.mem_cons_self ..) a a₁ ha h₁) hrest

/-- A run of steps that succeeds has taken every step. -/
theorem exists_step_of_foldlM {step : α → β → Except ε α} {l : List β} {a a' : α}
    (h : l.foldlM step a = .ok a') {b : β} (hb : b ∈ l) : ∃ a₁ a₂, step a₁ b = .ok a₂ := by
  induction l generalizing a with
  | nil => cases hb
  | cons b' l ih =>
    obtain ⟨a₁, h₁, hrest⟩ := bind_eq_ok.1 h
    rcases List.mem_cons.1 hb with rfl | hb
    · exact ⟨a, a₁, h₁⟩
    · exact ih hrest hb

end Success

/-- Both succeed with the same value, or both fail for causes of the same name. -/
def SameResult {α : Type} (x y : Except SheetError α) : Prop :=
  x.mapError SheetError.code = y.mapError SheetError.code

namespace SameResult

variable {α β : Type} {x y z : Except SheetError α}

theorem refl (x : Except SheetError α) : SameResult x x := rfl

theorem symm (h : SameResult x y) : SameResult y x := Eq.symm h

theorem trans (h : SameResult x y) (h' : SameResult y z) : SameResult x z := Eq.trans h h'

theorem error {e e' : SheetError} (h : e.code = e'.code) :
    SameResult (.error e : Except SheetError α) (.error e') :=
  congrArg Except.error h

/-- What agreement means, case by case. -/
theorem cases (h : SameResult x y) :
    (∃ a, x = .ok a ∧ y = .ok a) ∨
    (∃ e e', x = .error e ∧ y = .error e' ∧ e.code = e'.code) := by
  cases x <;> cases y <;> simp_all [SameResult, Except.mapError]

theorem bind {f f' : α → Except SheetError β} (h : SameResult x y)
    (hf : ∀ a, SameResult (f a) (f' a)) : SameResult (x >>= f) (y >>= f') := by
  rcases h.cases with ⟨a, rfl, rfl⟩ | ⟨e, e', rfl, rfl, he⟩
  · exact hf a
  · exact error he

/-- After the same first step it is enough to look at what follows its success. -/
theorem bind_congr {f f' : α → Except SheetError β}
    (hf : ∀ a, x = .ok a → SameResult (f a) (f' a)) : SameResult (x >>= f) (x >>= f') := by
  cases x with
  | error e => exact refl _
  | ok a => exact hf a rfl

end SameResult

end GridTalk
