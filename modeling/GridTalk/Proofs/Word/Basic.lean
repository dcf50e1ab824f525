import GridTalk.SheetError
import Mathlib.Algebra.Group.Nat.Defs
import Mathlib.Control.Monad.Basic

/-!
# Counting in machine words

Rows and columns are counted in words of 64 bits, in which a sum can be too great and a difference
would be below zero.  A computation in words stops where that happens.

* `Stop`, `Checked`: why a computation in words ends without a result, and such computations.
* `succ`, `pred`, `bounded`: the steps that can leave the words.
* `lift`: a computation that never leaves the words, as one in words.
* `lift_bind_congr`, `foldlM_eq_lift`: a sequence or a loop of steps that never leave the words
  never leaves them.
-/

namespace GridTalk.Word

/-- Why a computation in words ends without a result. -/
inductive Stop
  /-- It fails, with an error to report. -/
  | failed (e : SheetError)
  /-- A sum is too great for its word. -/
  | overflow
  /-- A difference is below zero. -/
  | underflow
  /-- A position that is written lies outside the grid. -/
  | outside
  deriving DecidableEq, Repr

/-- A computation in words. -/
abbrev Checked := Except Stop

/-- The next number in a word of so many bits. -/
def succ (bits n : Nat) : Checked Nat :=
  if n + 1 < 2 ^ bits then .ok (n + 1) else .error .overflow

/-- The number before. -/
def pred : (n : Nat) → Checked { m // m + 1 = n }
  | 0 => .error .underflow
  | m + 1 => .ok ⟨m, rfl⟩

/-- A number that is looked at before it is used; one that is too great for a word of 64 bits is an
error. -/
def bounded (e : SheetError) (n : Nat) : Checked Nat :=
  if n < 2 ^ 64 then .ok n else .error (.failed e)

/-- A computation that never leaves the words, as one in words. -/
def lift {α : Type} (x : Except SheetError α) : Checked α := x.mapError .failed

theorem succ_of_lt {bits n : Nat} (h : n + 1 < 2 ^ bits) : succ bits n = .ok (n + 1) := if_pos h

theorem pred_of_pos {n : Nat} (h : 0 < n) : pred n = .ok ⟨n - 1, Nat.sub_add_cancel h⟩ := by
  cases n with
  | zero => omega
  | succ m => rfl

/-- The greatest number of a word has no next one, and zero none before. -/
example : succ 64 (2 ^ 64 - 1) = .error .overflow ∧ pred 0 = .error .underflow := by decide

section Lift

variable {α β : Type}

@[simp] theorem lift_ok (a : α) : lift (.ok a) = .ok a := rfl

@[simp] theorem ok_bind (a : α) (f : α → Checked β) : (Except.ok a >>= f) = f a := rfl

@[simp] theorem error_bind (s : Stop) (f : α → Checked β) :
    ((.error s : Checked α) >>= f) = .error s := rfl

/-- One step after another. -/
theorem lift_bind_congr {x : Except SheetError α} {f : α → Checked β} {g : α → Except SheetError β}
    (h : ∀ a, x = .ok a → f a = lift (g a)) : (lift x >>= f) = lift (x >>= g) := by
  cases x with
  | error e => rfl
  | ok a => exact h a rfl

/-- A loop whose steps keep an invariant, under which they never leave the words. -/
theorem foldlM_eq_lift {P : α → Prop} {f : α → β → Checked α} {g : α → β → Except SheetError α}
    {l : List β} {a : α} (hstep : ∀ b ∈ l, ∀ a, P a → f a b = lift (g a b))
    (hkeep : ∀ b ∈ l, ∀ a a', P a → g a b = .ok a' → P a') (ha : P a) :
    l.foldlM f a = lift (l.foldlM g a) := by
  induction l generalizing a with
  | nil => rfl
  | cons b l ih =>
    rw [List.foldlM_cons, List.foldlM_cons, hstep b (List.mem_cons_self ..) a ha]
    refine lift_bind_congr fun a' ha' => ih ?_ ?_ (hkeep b (List.mem_cons_self ..) a a' ha ha')
    · exact fun b' hb' => hstep b' (List.mem_cons_of_mem b hb')
    · exact fun b' hb' => hkeep b' (List.mem_cons_of_mem b hb')

end Lift

end GridTalk.Word
