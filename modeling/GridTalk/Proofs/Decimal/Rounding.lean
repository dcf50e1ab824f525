import GridTalk.Decimal.Shortest
import Mathlib.Algebra.Order.Field.Power
import Mathlib.Tactic.FieldSimp
import Mathlib.Tactic.Linarith
import Mathlib.Tactic.NormNum
import Mathlib.Tactic.Positivity
import Mathlib.Tactic.Ring

/-!
# Rounding to a float

A number is rounded to the float in whose interval it lies.

* `Canonical`: the mantissa and the exponent of a positive float.
* `Span.Contains`: the numbers of an interval; `Span.Contains.bounds` tells its ends in units of the
  last digit.
* `Stands`: the number that a mantissa and two more bits stand for.
* `roundWithAccuracy_of_contains`: what such a number is rounded to.
-/

namespace GridTalk

open Float.Model Float.Model.UnpackedFloat

/-- Mantissa and exponent of a positive finite float.  The mantissa has all its digits, unless the
exponent is the least one. -/
structure Canonical (mantissa : Nat) (exponent : Int) : Prop where
  pos : 0 < mantissa
  lt : mantissa < 2 ^ 53
  least_le : -1074 ≤ exponent
  le_greatest : exponent ≤ 971
  full : exponent = -1074 ∨ 2 ^ 52 ≤ mantissa

/-- A natural and a whole exponent of two. -/
theorem two_pow_mul_zpow (n : Nat) (e : Int) : (2 : ℚ) ^ n * 2 ^ e = 2 ^ (n + e) := by
  rw [zpow_add₀ two_ne_zero, zpow_natCast]

/-! ### The interval of a float -/

namespace Span

/-- The number lies in the interval. -/
def Contains (s : Span) (v : ℚ) : Prop :=
  if s.closed then s.low * 2 ^ s.unit ≤ v ∧ v ≤ s.high * 2 ^ s.unit
  else s.low * 2 ^ s.unit < v ∧ v < s.high * 2 ^ s.unit

variable {m : Nat} {e : Int} {v : ℚ}

/-- The interval reaches half a unit of the last digit to both sides, but only a quarter down from a
power of two.  The ends belong to it if the last digit is even. -/
theorem Contains.bounds (h : (ofParts m e).Contains v) (hm : 0 < m) :
    (m - 1 / 2 ≤ v / 2 ^ e ∧ v / 2 ^ e ≤ m + 1 / 2) ∧
      (m % 2 = 1 → m - 1 / 2 < v / 2 ^ e ∧ v / 2 ^ e < m + 1 / 2) ∧
      (m = 2 ^ 52 → -1074 < e → m - 1 / 4 ≤ v / 2 ^ e) := by
  have hunit : (2 : ℚ) ^ (e - 2) = 2 ^ e / 4 := by
    rw [zpow_sub₀ two_ne_zero]
    norm_num
  have hpos : (0 : ℚ) < 2 ^ e := by positivity
  obtain ⟨w, rfl⟩ : ∃ w, v = w * 2 ^ e := ⟨v / 2 ^ e, by field_simp⟩
  rw [mul_div_cancel_right₀ w hpos.ne']
  -- what the interval reaches down, in quarters
  obtain ⟨d, hd⟩ : ∃ d, (if m = 1 <<< 52 ∧ e > -1074 then 1 else 2) = d := ⟨_, rfl⟩
  have hd_le : d ≤ 2 := by
    rw [← hd]
    split <;> omega
  have hquarter : m = 2 ^ 52 → -1074 < e → d = 1 := fun hm hleast => by
    rw [← hd, if_pos ⟨hm, hleast⟩]
  have hlow : ((4 * m - d : Nat) : ℚ) * 2 ^ (e - 2) = (m - d / 4) * 2 ^ e := by
    rw [hunit, Nat.cast_sub (by omega)]
    push_cast
    ring
  have hhigh : ((4 * m + 2 : Nat) : ℚ) * 2 ^ (e - 2) = (m + 1 / 2) * 2 ^ e := by
    rw [hunit]
    push_cast
    ring
  simp only [Contains, ofParts, hd, hlow, hhigh, mul_le_mul_iff_left₀ hpos,
    mul_lt_mul_iff_left₀ hpos] at h
  have hclosed : m - d / 4 ≤ w ∧ w ≤ m + 1 / 2 := by
    split at h
    · exact h
    · exact ⟨h.1.le, h.2.le⟩
  have hhalf : (d : ℚ) ≤ 2 := by exact_mod_cast hd_le
  refine ⟨⟨by linarith [hclosed.1], hclosed.2⟩, fun hodd => ?_, fun hm hleast => ?_⟩
  · rw [if_neg (by simp [hodd])] at h
    exact ⟨by linarith [h.1], h.2⟩
  · rw [hquarter hm hleast] at hclosed
    exact_mod_cast hclosed.1

/-- A float lies in its own interval. -/
theorem contains_self (hm : 0 < m) (e : Int) : (ofParts m e).Contains (m * 2 ^ e) := by
  have hunit : (m * 2 ^ e : ℚ) = (4 * m : Nat) * 2 ^ (e - 2) := by
    rw [zpow_sub₀ two_ne_zero]
    push_cast
    ring
  have hpos : (0 : ℚ) < 2 ^ (e - 2) := by positivity
  have hlow : ((ofParts m e).low : ℚ) < (4 * m : Nat) := by
    exact_mod_cast Nat.sub_lt (by omega) (by split <;> omega)
  have hhigh : ((4 * m : Nat) : ℚ) < (ofParts m e).high := by
    exact_mod_cast Nat.lt_add_of_pos_right (by omega)
  have hlow' := mul_lt_mul_of_pos_right hlow hpos
  have hhigh' := mul_lt_mul_of_pos_right hhigh hpos
  rw [hunit, Contains]
  split
  · exact ⟨hlow'.le, hhigh'.le⟩
  · exact ⟨hlow', hhigh'⟩

/-- The interval lies below the power of two that no mantissa reaches. -/
theorem Contains.lt_top (h : (ofParts m e).Contains v) (hc : Canonical m e) :
    v < 2 ^ (53 + e) := by
  obtain ⟨⟨-, hhigh⟩, -, -⟩ := h.bounds hc.pos
  have hm : (m : ℚ) + 1 ≤ 2 ^ 53 := by exact_mod_cast hc.lt
  rw [div_le_iff₀ (by positivity)] at hhigh
  calc v ≤ (m + 1 / 2) * 2 ^ e := hhigh
    _ < 2 ^ 53 * 2 ^ e := by
      gcongr
      linarith
    _ = 2 ^ (53 + e) := two_pow_mul_zpow 53 e

/-- Only the interval of a power of two reaches below that power, and it does not reach far. -/
theorem Contains.bottom_lt (h : (ofParts m e).Contains v) (hc : Canonical m e)
    (hleast : -1074 < e) : 2 ^ (51 + e) < v ∧ (v < 2 ^ (52 + e) → m = 2 ^ 52) := by
  obtain ⟨⟨hlow, -⟩, -, hquarter⟩ := h.bounds hc.pos
  have hpos : (0 : ℚ) < 2 ^ e := by positivity
  have hfull : 2 ^ 52 ≤ m := hc.full.resolve_left (by omega)
  have hpower : (2 : ℚ) ^ 52 * 2 ^ e = 2 ^ (52 + e) := two_pow_mul_zpow 52 e
  have hpower' : (2 : ℚ) ^ 51 * 2 ^ e = 2 ^ (51 + e) := two_pow_mul_zpow 51 e
  constructor
  · have hm : (2 : ℚ) ^ 52 ≤ m := by exact_mod_cast hfull
    rw [← hpower', ← lt_div_iff₀ hpos]
    linarith
  · intro hbelow
    rw [← hpower, ← div_lt_iff₀ hpos] at hbelow
    have hm : (m : ℚ) < 2 ^ 52 + 1 := by linarith
    have hm' : m < 2 ^ 52 + 1 := by exact_mod_cast hm
    omega

/-- No float is nearer to zero than the least one, and none is farther than the greatest. -/
theorem Contains.range (h : (ofParts m e).Contains v) (hc : Canonical m e) :
    2 ^ (-1075 : Int) ≤ v ∧ v < 2 ^ (1024 : Int) := by
  have htwo : (1 : ℚ) ≤ 2 := by norm_num
  have hleast := hc.least_le
  have hgreatest := hc.le_greatest
  constructor
  · obtain ⟨⟨hlow, -⟩, -, -⟩ := h.bounds hc.pos
    have hm : (1 : ℚ) ≤ m := by exact_mod_cast hc.pos
    rw [le_div_iff₀ (by positivity)] at hlow
    calc (2 : ℚ) ^ (-1075 : Int) ≤ 2 ^ (e - 1) := zpow_le_zpow_right₀ htwo (by omega)
      _ = 1 / 2 * 2 ^ e := by rw [zpow_sub_one₀ two_ne_zero]; ring
      _ ≤ (m - 1 / 2) * 2 ^ e := by gcongr; linarith
      _ ≤ v := hlow
  · exact (h.lt_top hc).trans_le (zpow_le_zpow_right₀ htwo (by omega))

end Span

/-! ### A mantissa with a rest -/

/-- The number that a mantissa stands for, together with the first bit behind it and whether any
other one is set. -/
def Stands : ExtendedMantissa → ℚ → Prop
  | ⟨m, false, false⟩, v => v = m
  | ⟨m, false, true⟩, v => m < v ∧ v < m + 1 / 2
  | ⟨m, true, false⟩, v => v = m + 1 / 2
  | ⟨m, true, true⟩, v => m + 1 / 2 < v ∧ v < m + 1

namespace Stands

variable {em : ExtendedMantissa} {v : ℚ} {n : Nat}

theorem bounds (h : Stands em v) : em.mantissa ≤ v ∧ v < em.mantissa + 1 := by
  rcases em with ⟨m, _ | _, _ | _⟩ <;> simp only [Stands] at h <;> constructor <;> linarith

theorem shiftRightOne (h : Stands em v) : Stands em.shiftRightOne (v / 2) := by
  rcases em with ⟨m, first, others⟩
  have hm : (m : ℚ) = 2 * (m / 2 : Nat) + (m % 2 : Nat) := by
    exact_mod_cast (Nat.div_add_mod m 2).symm
  rcases Nat.mod_two_eq_zero_or_one m with hbit | hbit <;> rw [hbit] at hm <;>
    cases first <;> cases others <;>
    simp [Stands, ExtendedMantissa.shiftRightOne, hbit] at h ⊢ <;>
    push_cast at hm <;> first | linarith | (constructor <;> linarith)

theorem shiftRight (h : Stands em v) (k : Nat) : Stands (em >>> k) (v / 2 ^ k) := by
  change Stands (k.repeat ExtendedMantissa.shiftRightOne em) _
  induction k with
  | zero => simpa [Nat.repeat] using h
  | succ k ih =>
    rw [Nat.repeat, pow_succ, ← div_div]
    exact ih.shiftRightOne

/-- The nearest whole number is taken, of two the even one. -/
theorem roundedMantissa_eq (h : Stands em v) (hlow : (n : ℚ) - 1 / 2 ≤ v) (hhigh : v ≤ n + 1 / 2)
    (hodd : n % 2 = 1 → (n : ℚ) - 1 / 2 < v ∧ v < n + 1 / 2) : em.roundedMantissa = n := by
  rcases em with ⟨m, _ | _, _ | _⟩ <;>
    simp only [Stands, ExtendedMantissa.roundedMantissa, ExtendedMantissa.accuracy,
      Accuracy.roundToNearestEven] at h ⊢
  · have hle : (n : ℚ) < m + 1 := by linarith
    have hge : (m : ℚ) < n + 1 := by linarith
    norm_cast at hle hge
    omega
  · have hle : (n : ℚ) < m + 1 := by linarith
    have hge : (m : ℚ) < n + 1 := by linarith
    norm_cast at hle hge
    omega
  · have hle : (n : ℚ) ≤ m + 1 := by linarith
    have hge : (m : ℚ) ≤ n := by linarith
    norm_cast at hle hge
    rcases Nat.mod_two_eq_zero_or_one n with heven | hone
    · omega
    · -- an odd number is not taken from half a unit away
      obtain ⟨hlow, hhigh⟩ := hodd hone
      have hle : (n : ℚ) < m + 1 := by linarith
      have hge : (m : ℚ) < n := by linarith
      norm_cast at hle hge
      omega
  · have hle : (n : ℚ) < m + 2 := by linarith
    have hge : (m : ℚ) < n := by linarith
    norm_cast at hle hge
    omega

end Stands

/-! ### Rounding -/

@[simp] theorem targetExponent_binary64 (t : Int) :
    Format.binary64.targetExponent t = max (t - 53) (-1074) := rfl

section Rounding

variable {M : Nat} {E : Int} {acc : Accuracy} {v : ℚ} {m : Nat} {e : Int}

/-- The mantissa of a float keeps its place. -/
theorem Canonical.targetExponent_eq (hc : Canonical m e) :
    Format.binary64.targetExponent (totalExponent m e) = e := by
  have hlt : m.log2 < 53 := (Nat.log2_lt hc.pos.ne').2 hc.lt
  have hleast := hc.least_le
  rw [targetExponent_binary64, totalExponent]
  rcases hc.full with rfl | hfull
  · omega
  · have hge : 52 ≤ m.log2 := (Nat.le_log2 hc.pos.ne').2 hfull
    omega

/-- A mantissa that has all its digits is not asked for more. -/
theorem le_targetExponent (hM : 2 ^ 52 ≤ M) :
    E ≤ Format.binary64.targetExponent (totalExponent M E) := by
  have hlog : 52 ≤ M.log2 := (Nat.le_log2 (by omega)).2 hM
  rw [targetExponent_binary64, totalExponent]
  omega

/-- The leading digit of a mantissa is that of the number that it stands for. -/
theorem Stands.totalExponent_bounds (h : Stands (.ofMantissaAndAccuracy M acc) (v / 2 ^ E)) :
    v < 2 ^ totalExponent M E ∧ (M ≠ 0 → 2 ^ (totalExponent M E - 1) ≤ v) := by
  have hmantissa : (ExtendedMantissa.ofMantissaAndAccuracy M acc).mantissa = M := by
    unfold ExtendedMantissa.ofMantissaAndAccuracy
    split <;> rfl
  obtain ⟨hle, hlt⟩ := h.bounds
  have hpos : (0 : ℚ) < 2 ^ E := by positivity
  rw [hmantissa, div_lt_iff₀ hpos] at hlt
  rw [hmantissa, le_div_iff₀ hpos] at hle
  constructor
  · have htop : (M : ℚ) + 1 ≤ 2 ^ (M.log2 + 1) := by exact_mod_cast Nat.lt_log2_self
    calc v < (M + 1) * 2 ^ E := hlt
      _ ≤ 2 ^ (M.log2 + 1) * 2 ^ E := by gcongr
      _ = 2 ^ totalExponent M E := two_pow_mul_zpow ..
  · intro hM
    have hbottom : (2 : ℚ) ^ M.log2 ≤ M := by exact_mod_cast Nat.log2_self_le hM
    calc (2 : ℚ) ^ (totalExponent M E - 1) = 2 ^ M.log2 * 2 ^ E := by
          rw [two_pow_mul_zpow, totalExponent, add_right_comm, add_sub_cancel_right]
      _ ≤ M * 2 ^ E := by gcongr
      _ ≤ v := hle

/-- The exponent is that of the float.  It is one less for a number that lies below the power of two
which the float is. -/
theorem targetExponent_cases (hc : Canonical m e) (hv : (Span.ofParts m e).Contains v)
    (h : Stands (.ofMantissaAndAccuracy M acc) (v / 2 ^ E))
    (hE : E ≤ Format.binary64.targetExponent (totalExponent M E)) :
    Format.binary64.targetExponent (totalExponent M E) = e ∨
      Format.binary64.targetExponent (totalExponent M E) = e - 1 ∧ m = 2 ^ 52 ∧ -1074 < e ∧
        v < 2 ^ (52 + e) := by
  obtain ⟨hlt, hge⟩ := h.totalExponent_bounds
  have htwo : (1 : ℚ) < 2 := by norm_num
  have hleast := hc.least_le
  rw [targetExponent_binary64] at hE ⊢
  have hM : -1074 < totalExponent M E - 53 → M ≠ 0 := by
    rintro hpos rfl
    rw [totalExponent, Nat.log2_zero] at hE hpos
    omega
  have htop : max (totalExponent M E - 53) (-1074) ≤ e := by
    by_cases hpos : -1074 < totalExponent M E - 53
    · have := (zpow_lt_zpow_iff_right₀ htwo).1 ((hge (hM hpos)).trans_lt (hv.lt_top hc))
      omega
    · omega
  by_cases hleast' : e = -1074
  · left
    omega
  obtain ⟨hbottom, hpower⟩ := hv.bottom_lt hc (by omega)
  by_cases hbelow : v < 2 ^ (52 + e)
  · have hle := (zpow_lt_zpow_iff_right₀ htwo).1 (hbottom.trans hlt)
    refine .inr ⟨?_, hpower hbelow, by omega, hbelow⟩
    by_cases hpos : -1074 < totalExponent M E - 53
    · have := (zpow_lt_zpow_iff_right₀ htwo).1 ((hge (hM hpos)).trans_lt hbelow)
      omega
    · omega
  · left
    have := (zpow_lt_zpow_iff_right₀ htwo).1 ((not_lt.1 hbelow).trans_lt hlt)
    omega

theorem shiftToTargetExponent_eq {t : Int}
    (ht : Format.binary64.targetExponent (totalExponent M E) = t) (hE : E ≤ t) (acc : Accuracy) :
    shiftToTargetExponent .binary64 M E acc
      = (ExtendedMantissa.ofMantissaAndAccuracy M acc >>> (t - E).toNat, t) := by
  rw [shiftToTargetExponent, shiftToExponent, ht, Int.toNat_of_nonneg (by omega), add_sub_cancel]

/-- The mantissa is shifted, rounded and shifted once more. -/
theorem roundWithAccuracy_eq {em em' : ExtendedMantissa} {t : Int} {n : Nat} (sign : Sign)
    (hfirst : shiftToTargetExponent .binary64 M E acc = (em, t)) (hround : em.roundedMantissa = n)
    (hsecond : shiftToTargetExponent .binary64 n t .exact = (em', e)) (hmantissa : em'.mantissa = m)
    (hpos : 0 < m) : roundWithAccuracy .binary64 sign M E acc = .finite sign m e hpos := by
  subst hmantissa
  rw [roundWithAccuracy, hfirst]
  dsimp only
  rw [hround, hsecond]
  exact dif_neg hpos.ne'

/-- **A number in the interval of a float** is rounded to the float, as long as the mantissa that is
given for it has enough digits. -/
theorem roundWithAccuracy_of_contains (hc : Canonical m e) (hv : (Span.ofParts m e).Contains v)
    (h : Stands (.ofMantissaAndAccuracy M acc) (v / 2 ^ E))
    (hE : E ≤ Format.binary64.targetExponent (totalExponent M E)) (sign : Sign) :
    roundWithAccuracy .binary64 sign M E acc = .finite sign m e hc.pos := by
  obtain ⟨⟨hlow, hhigh⟩, hodd, hquarter⟩ := hv.bounds hc.pos
  have hshift {t : Int} (ht : E ≤ t) :
      Stands (ExtendedMantissa.ofMantissaAndAccuracy M acc >>> (t - E).toNat) (v / 2 ^ t) := by
    have hpower : (2 : ℚ) ^ t = 2 ^ E * 2 ^ (t - E).toNat := by
      rw [mul_comm, two_pow_mul_zpow, Int.toNat_of_nonneg (by omega), sub_add_cancel]
    rw [hpower, ← div_div]
    exact h.shiftRight _
  rcases targetExponent_cases hc hv h hE with ht | ⟨ht, rfl, hleast, hbelow⟩
  · have hround := (hshift (ht ▸ hE)).roundedMantissa_eq hlow hhigh hodd
    have hsecond := shiftToTargetExponent_eq hc.targetExponent_eq le_rfl .exact
    rw [sub_self] at hsecond
    exact roundWithAccuracy_eq sign (shiftToTargetExponent_eq ht (ht ▸ hE) acc) hround hsecond rfl
      hc.pos
  · -- the number is rounded up to the power of two
    have hunit : (2 : ℚ) ^ e = 2 ^ (e - 1) * 2 := by
      rw [← zpow_add_one₀ two_ne_zero, sub_add_cancel]
    have hbelow' : v / 2 ^ (e - 1) < 2 ^ 53 := by
      have hpower : (2 : ℚ) ^ 53 * 2 ^ (e - 1) = 2 ^ (53 + (e - 1)) := two_pow_mul_zpow 53 (e - 1)
      rw [div_lt_iff₀ (by positivity), hpower]
      exact hbelow.trans_eq (congrArg _ (by ring))
    have hquarter' := hquarter rfl hleast
    rw [hunit, ← div_div, le_div_iff₀ two_pos] at hquarter'
    have hround := (hshift (ht ▸ hE)).roundedMantissa_eq (n := 2 ^ 53)
      (by push_cast at hquarter' ⊢; linarith) (by push_cast; linarith) (by norm_num)
    have htarget : Format.binary64.targetExponent (totalExponent (2 ^ 53) (e - 1)) = e := by
      rw [targetExponent_binary64, totalExponent, Nat.log2_two_pow]
      omega
    have hsecond := shiftToTargetExponent_eq htarget (by omega) .exact
    rw [show (e - (e - 1)).toNat = 1 by omega] at hsecond
    exact roundWithAccuracy_eq sign (shiftToTargetExponent_eq ht (ht ▸ hE) acc) hround hsecond rfl
      hc.pos

end Rounding

end GridTalk
