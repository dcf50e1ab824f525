import GridTalk.Decimal.Numeral
import GridTalk.Proofs.Text.Lower
import Mathlib.Algebra.Group.Nat.Defs
import Mathlib.Data.List.Induction

/-!
# Digits, read and written

Digits are read from the left, and zeros in front of a number make no difference to it.

* `toDigits_naturalOf`: digits are written as they have been read, but for the zeros in front.
* `naturalOf_toDigits`, `head?_toDigits`: a number is read as it has been written, and no zero is
  written in front of it.
* `naturalOf_append_zeros`, `naturalOf_zeros_append`: zeros behind a number and in front of it.
* `eq_or_eq_cons_signOf`: what stands in front of the digits.
-/

namespace GridTalk.Numeral

open Text

/-- A sign is one character or none. -/
theorem eq_or_eq_cons_signOf (s : List Char) :
    s = (signOf s).2 ∨ ∃ c ∈ ['+', '-'], s = c :: (signOf s).2 := by
  unfold signOf
  split
  · exact .inr ⟨'+', by simp, rfl⟩
  · exact .inr ⟨'-', by simp, rfl⟩
  · exact .inl rfl

theorem naturalOf_append_singleton (ds : List Char) (c : Char) :
    naturalOf (ds ++ [c]) = 10 * naturalOf ds + (c.toNat - '0'.toNat) := by
  simp [naturalOf]

/-- A digit is the one that its value picks, and only `0` is worth nothing. -/
theorem digitChar_of_isDigit {c : Char} (h : c.isDigit) :
    c.toNat - '0'.toNat < 10 ∧ (c.toNat - '0'.toNat).digitChar = c ∧
      (c.toNat - '0'.toNat = 0 ↔ c = '0') := by
  have hall : ∀ c : Char, c.toNat < 128 → c.isDigit → c.toNat - '0'.toNat < 10 ∧
      (c.toNat - '0'.toNat).digitChar = c ∧ (c.toNat - '0'.toNat = 0 ↔ c = '0') :=
    forall_ascii (by decide)
  exact hall c (lt_of_isAlphanum (isAlphanum_of_isDigit h)) h

/-- Only zeros stand for zero. -/
theorem eq_zero_of_naturalOf_eq_zero {ds : List Char} (h : ∀ c ∈ ds, c.isDigit)
    (hzero : naturalOf ds = 0) : ∀ c ∈ ds, c = '0' := by
  induction ds using List.reverseRecOn with
  | nil => simp
  | append_singleton ds c ih =>
    rw [naturalOf_append_singleton] at hzero
    intro d hd
    rcases List.mem_append.1 hd with hd | hd
    · exact ih (fun e he => h e (List.mem_append_left _ he)) (by omega) d hd
    · rw [List.mem_singleton.1 hd]
      exact (digitChar_of_isDigit (h c (by simp))).2.2.1 (by omega)

/-- Digits stand for a number, which is written with the same digits but the zeros in front. -/
theorem toDigits_naturalOf {ds : List Char} (h : ∀ c ∈ ds, c.isDigit) (hpos : 0 < naturalOf ds) :
    Nat.toDigits 10 (naturalOf ds) = ds.dropWhile (· == '0') := by
  induction ds using List.reverseRecOn with
  | nil => exact absurd hpos (by decide)
  | append_singleton ds c ih =>
    obtain ⟨hlt, hchar, hzero⟩ := digitChar_of_isDigit (h c (by simp))
    have hds : ∀ d ∈ ds, d.isDigit := fun d hd => h d (List.mem_append_left _ hd)
    rw [naturalOf_append_singleton] at hpos ⊢
    by_cases hfront : naturalOf ds = 0
    · -- nothing but zeros stand in front of the last digit
      have hzeros : ∀ d ∈ ds, (d == '0') = true := fun d hd =>
        beq_iff_eq.2 (eq_zero_of_naturalOf_eq_zero hds hfront d hd)
      have hc : (c == '0') = false := by
        rw [beq_eq_false_iff_ne]
        intro heq
        have hnil := hzero.2 heq
        omega
      rw [hfront, Nat.mul_zero, Nat.zero_add, Nat.toDigits_of_lt_base hlt, hchar,
        List.dropWhile_append_of_pos hzeros, List.dropWhile_cons_of_neg (by simpa using hc)]
    · have hrest := ih hds (by omega)
      have hne : ds.dropWhile (· == '0') ≠ [] := hrest ▸ Nat.toDigits_ne_nil
      rw [← Nat.toDigits_append_toDigits (by omega) (by omega) hlt, hrest,
        Nat.toDigits_of_lt_base hlt, hchar, List.dropWhile_append, if_neg (by simpa using hne)]

theorem naturalOf_toDigits (n : Nat) : naturalOf (Nat.toDigits 10 n) = n :=
  Nat.ofDigitChars_toDigits (by omega) (by omega)

theorem naturalOf_append_zeros (ds : List Char) (k : Nat) :
    naturalOf (ds ++ List.replicate k '0') = naturalOf ds * 10 ^ k := by
  induction k with
  | zero => simp
  | succ k ih =>
    calc naturalOf (ds ++ List.replicate (k + 1) '0')
        = naturalOf ((ds ++ List.replicate k '0') ++ ['0']) := by
          rw [List.replicate_succ', List.append_assoc]
      _ = 10 * (naturalOf ds * 10 ^ k) := by
          rw [naturalOf_append_singleton, ih]
          rfl
      _ = naturalOf ds * 10 ^ (k + 1) := by
          rw [Nat.mul_comm 10, Nat.mul_assoc, ← pow_succ]

theorem naturalOf_zeros_append (k : Nat) (ds : List Char) :
    naturalOf (List.replicate k '0' ++ ds) = naturalOf ds := by
  induction k with
  | zero => rfl
  | succ k ih => rw [List.replicate_succ]; exact ih

/-- The first digit of a number is not zero. -/
theorem head?_toDigits {n : Nat} (hpos : 0 < n) : (Nat.toDigits 10 n).head? ≠ some '0' := by
  have hdigits := toDigits_naturalOf
    (fun d hd => Nat.isDigit_of_mem_toDigits (by omega) (by omega) hd)
    (naturalOf_toDigits n ▸ hpos)
  rw [naturalOf_toDigits] at hdigits
  rw [hdigits]
  intro hhead
  simpa using eq_false_of_head?_dropWhile '0' hhead

end GridTalk.Numeral
