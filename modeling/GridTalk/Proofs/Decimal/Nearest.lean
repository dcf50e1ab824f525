import GridTalk.Decimal.Numeral
import GridTalk.Proofs.Decimal.Packing

/-!
# The float of a numeral

A numeral in the interval of a float is read as the float.

* `mul_of_contains`, `div_of_contains`: products and quotients of floats are rounded as one number.
* `ofScientific_short`, `ofScientific_long`: few digits are read with two floats, the digits and a
  power of ten, and all others with one exact mantissa.
* `Numeral.toFloat_of_contains`: the float of a numeral.
-/

namespace GridTalk

open Float.Model Float.Model.UnpackedFloat

/-! ### Products and quotients -/

section Operations

variable {m m₁ m₂ : Nat} {e e₁ e₂ : Int} {s₁ s₂ : Sign}

theorem mul_of_contains (hc : Canonical m e) (hfull : 2 ^ 52 ≤ m₁) (h₁ : 0 < m₁) (h₂ : 0 < m₂)
    (hv : (Span.ofParts m e).Contains (m₁ * 2 ^ e₁ * (m₂ * 2 ^ e₂))) :
    UnpackedFloat.mul .binary64 (.finite s₁ m₁ e₁ h₁) (.finite s₂ m₂ e₂ h₂)
      = .finite (s₁ * s₂) m e hc.pos := by
  have hdigits : 2 ^ 52 ≤ m₁ * m₂ := hfull.trans (Nat.le_mul_of_pos_right m₁ h₂)
  refine roundWithAccuracy_of_contains hc hv ?_ (le_targetExponent hdigits) _
  show _ / _ = _
  rw [zpow_add₀ two_ne_zero]
  push_cast
  field_simp

/-- The rest of a division is told by a comparison with half the divisor. -/
theorem stands_of_fraction {q r d : Nat} (hr : r < d) :
    Stands (.ofMantissaAndAccuracy q (accuracyOfFraction r d)) (q + r / d) := by
  have hd : (0 : ℚ) < d := by exact_mod_cast (by omega : 0 < d)
  unfold accuracyOfFraction
  by_cases hzero : r = 0
  · rw [if_pos hzero, hzero, Nat.cast_zero, zero_div, add_zero]
    rfl
  · have hpos : (0 : ℚ) < r / d := by
      have : (0 : ℚ) < r := by exact_mod_cast Nat.pos_of_ne_zero hzero
      positivity
    have hone : (r : ℚ) / d < 1 := by
      rw [div_lt_one hd]
      exact_mod_cast hr
    rw [if_neg hzero]
    rcases Nat.lt_trichotomy (2 * r) d with hlt | heq | hgt
    · have hhalf : (r : ℚ) / d < 1 / 2 := by
        rw [div_lt_div_iff₀ hd two_pos]
        exact_mod_cast (by omega : r * 2 < 1 * d)
      rw [Nat.compare_eq_lt.2 hlt]
      exact ⟨by linarith, by linarith⟩
    · have hhalf : (r : ℚ) / d = 1 / 2 := by
        rw [div_eq_div_iff hd.ne' two_ne_zero]
        exact_mod_cast (by omega : r * 2 = 1 * d)
      rw [Nat.compare_eq_eq.2 heq, hhalf]
      rfl
    · have hhalf : 1 / 2 < (r : ℚ) / d := by
        rw [div_lt_div_iff₀ two_pos hd]
        exact_mod_cast (by omega : 1 * d < r * 2)
      rw [Nat.compare_eq_gt.2 hgt]
      exact ⟨by linarith, by linarith⟩

/-- A quotient with so many zeros behind the dividend has all its digits. -/
theorem full_of_division {k : Nat} (h₁ : 0 < m₁) (h₂ : 0 < m₂) (hk : 53 + m₂.log2 ≤ m₁.log2 + k) :
    2 ^ 52 ≤ m₁ <<< k / m₂ := by
  refine (Nat.le_div_iff_mul_le h₂).2 ?_
  calc 2 ^ 52 * m₂ ≤ 2 ^ 52 * 2 ^ (m₂.log2 + 1) := by gcongr; exact Nat.lt_log2_self.le
    _ = 2 ^ (53 + m₂.log2) := by rw [← pow_add]; ring_nf
    _ ≤ 2 ^ (m₁.log2 + k) := Nat.pow_le_pow_right two_pos hk
    _ = 2 ^ m₁.log2 * 2 ^ k := pow_add ..
    _ ≤ m₁ * 2 ^ k := by gcongr; exact Nat.log2_self_le h₁.ne'
    _ = m₁ <<< k := (Nat.shiftLeft_eq ..).symm

theorem div_of_contains (hc : Canonical m e) (h₁ : 0 < m₁) (h₂ : 0 < m₂)
    (hv : (Span.ofParts m e).Contains (m₁ * 2 ^ e₁ / (m₂ * 2 ^ e₂))) :
    UnpackedFloat.div .binary64 (.finite s₁ m₁ e₁ h₁) (.finite s₂ m₂ e₂ h₂)
      = .finite (s₁ / s₂) m e hc.pos := by
  obtain ⟨t, ht⟩ : ∃ t, min (e₁ - e₂) (Format.binary64.targetExponent
    (totalExponent m₁ e₁ - totalExponent m₂ e₂)) = t := ⟨_, rfl⟩
  obtain ⟨k, hk⟩ : ∃ k, (e₁ - e₂ - t).toNat = k := ⟨_, rfl⟩
  simp only [UnpackedFloat.div, divCore]
  rw [ht, hk]
  refine roundWithAccuracy_of_contains hc hv ?_ ?_ _
  · have hshift : ((m₁ <<< k : Nat) : ℚ) = m₁ * 2 ^ (e₁ - e₂ - t) := by
      rw [Nat.shiftLeft_eq, ← hk]
      push_cast
      rw [← zpow_natCast, Int.toNat_of_nonneg (by omega)]
    have hdivision : ((m₁ <<< k : Nat) : ℚ)
        = m₂ * (m₁ <<< k / m₂ : Nat) + (m₁ <<< k % m₂ : Nat) := by
      exact_mod_cast (Nat.div_add_mod _ _).symm
    have hvalue : (m₁ * 2 ^ e₁ / (m₂ * 2 ^ e₂) / 2 ^ t : ℚ)
        = (m₁ <<< k / m₂ : Nat) + (m₁ <<< k % m₂ : Nat) / m₂ := by
      have hm₂ : (m₂ : ℚ) ≠ 0 := by exact_mod_cast h₂.ne'
      rw [zpow_sub₀ two_ne_zero, zpow_sub₀ two_ne_zero] at hshift
      field_simp at hshift ⊢
      rw [← hdivision, ← hshift]
      ring
    rw [hvalue]
    exact stands_of_fraction (Nat.mod_lt _ h₂)
  · by_cases hleast : t ≤ -1074
    · rw [targetExponent_binary64]
      omega
    · rw [targetExponent_binary64, totalExponent, totalExponent] at ht
      exact le_targetExponent (full_of_division h₁ h₂ (by omega))

end Operations

/-! ### Whole numbers and powers of ten -/

section Exact

variable {n j : Nat}

/-- A whole number with no more digits than a mantissa is a float. -/
theorem exists_toFloat (hpos : 0 < n) (hlt : n < 2 ^ 53) :
    ∃ m e, ∃ hc : Canonical m e, 2 ^ 52 ≤ m ∧ (m * 2 ^ e : ℚ) = n ∧
      n.toUInt64.toFloat = floatOf (.finite .positive m e hc.pos) := by
  have hlog : n.log2 < 53 := (Nat.log2_lt hpos.ne').2 hlt
  obtain ⟨k, hk⟩ : ∃ k, 52 - n.log2 = k := ⟨_, rfl⟩
  have hfull : 2 ^ 52 ≤ n <<< k := by
    calc 2 ^ 52 = 2 ^ n.log2 * 2 ^ k := by rw [← pow_add]; congr 1; omega
      _ ≤ n * 2 ^ k := by gcongr; exact Nat.log2_self_le hpos.ne'
      _ = n <<< k := (Nat.shiftLeft_eq ..).symm
  have htop : n <<< k < 2 ^ 53 := by
    calc n <<< k = n * 2 ^ k := Nat.shiftLeft_eq ..
      _ < 2 ^ (n.log2 + 1) * 2 ^ k := by gcongr; exact Nat.lt_log2_self
      _ = 2 ^ 53 := by rw [← pow_add]; congr 1; omega
  have hc : Canonical (n <<< k) (-k) := ⟨by omega, htop, by omega, by omega, .inr hfull⟩
  have hsize : n.toUInt64.toNat = n := by
    rw [Nat.toUInt64, UInt64.toNat_ofNat']
    omega
  have htarget : Format.binary64.targetExponent (totalExponent n 0) = -k := by
    rw [targetExponent_binary64, totalExponent]
    omega
  have hround : UnpackedFloat.round .binary64 .positive n 0
      = .finite .positive (n <<< k) (-k) hc.pos := by
    rw [UnpackedFloat.round, htarget, decreaseExponent]
    dsimp only
    rw [zero_sub, neg_neg, Int.toNat_natCast, zero_sub]
    refine roundWithAccuracy_of_contains hc (Span.contains_self hc.pos _) ?_
      hc.targetExponent_eq.ge _
    show _ / _ = _
    field_simp
  refine ⟨n <<< k, -k, hc, hfull, ?_, ?_⟩
  · rw [Nat.shiftLeft_eq, zpow_neg, zpow_natCast]
    push_cast
    field_simp
  · show floatOf (UnpackedFloat.normalize .binary64 (n.toUInt64.toNat : Int) 0 .positive) = _
    rw [hsize, UnpackedFloat.normalize, Int.compare_eq_gt.2 (by omega)]
    exact congrArg floatOf hround

/-- A power with a whole exponent as a fraction. -/
theorem zpow_eq_div {a : ℚ} (ha : a ≠ 0) (k : Int) : a ^ k = a ^ k.toNat / a ^ (-k).toNat := by
  rw [← zpow_natCast, ← zpow_natCast, ← zpow_sub₀ ha]
  congr 1
  omega

/-- The table of powers of ten is exact. -/
theorem powersOfTen_spec : ∀ j : Fin Float.exactlyRepresentablePowersOfTen.size,
    let x := Float.exactlyRepresentablePowersOfTen[j]
    let parts := partsOfBits x.toBits
    x.isFinite = true ∧ (x.toBits >>> 63 == 1) = false ∧
      parts.1 * 2 ^ parts.2.toNat = 10 ^ j.val * 2 ^ (-parts.2).toNat := by
  decide +kernel

theorem exists_powerOfTen (hj : j < Float.exactlyRepresentablePowersOfTen.size) :
    ∃ m e, ∃ hc : Canonical m e, (m * 2 ^ e : ℚ) = 10 ^ j ∧
      Float.exactlyRepresentablePowersOfTen[j] = floatOf (.finite .positive m e hc.pos) := by
  obtain ⟨x, hx⟩ : ∃ x, Float.exactlyRepresentablePowersOfTen[j] = x := ⟨_, rfl⟩
  have hspec := powersOfTen_spec ⟨j, hj⟩
  dsimp only [Fin.getElem_fin] at hspec
  rw [hx] at hspec ⊢
  rcases hparts : partsOfBits x.toBits with ⟨m, e⟩
  rw [hparts] at hspec
  obtain ⟨hfinite, hsign, hvalue⟩ := hspec
  have hpositive : signOfBits x.toBits = .positive := by
    rw [signOfBits, hsign]
    rfl
  rcases eq_floatOf hfinite hparts with ⟨rfl, -⟩ | ⟨hc, hfloat⟩
  · have hpos : 0 < 10 ^ j * 2 ^ (-e).toNat := by positivity
    rw [Nat.zero_mul] at hvalue
    exact absurd hvalue hpos.ne
  · refine ⟨m, e, hc, ?_, hpositive ▸ hfloat⟩
    rw [zpow_eq_div two_ne_zero, mul_div_assoc', div_eq_iff (by positivity)]
    exact_mod_cast hvalue

end Exact

/-! ### Digits and a power of ten -/

section Scientific

variable {m n : Nat} {e k : Int}

theorem ofScientific_short (hc : Canonical m e) (hpos : 0 < n)
    (hv : (Span.ofParts m e).Contains (n * 10 ^ k)) (hshort : n < 2 ^ 53 ∧ k.natAbs ≤ 22) :
    Float.ofScientific n (k < 0) k.natAbs = floatOf (.finite .positive m e hc.pos) := by
  obtain ⟨m₁, e₁, hc₁, hfull, hvalue₁, hfloat₁⟩ := exists_toFloat hpos hshort.1
  have hsize : k.natAbs < Float.exactlyRepresentablePowersOfTen.size := by
    simp [Float.exactlyRepresentablePowersOfTen]
    omega
  obtain ⟨m₂, e₂, hc₂, hvalue₂, hfloat₂⟩ := exists_powerOfTen hsize
  rw [Float.ofScientific, dif_pos hshort, hfloat₁, hfloat₂]
  by_cases hk : k < 0
  · have habs : (10 : ℚ) ^ k = (10 ^ k.natAbs)⁻¹ := by
      rw [← zpow_natCast, ← zpow_neg]
      congr 1
      omega
    rw [habs, ← div_eq_mul_inv, ← hvalue₁, ← hvalue₂] at hv
    rw [if_pos (by simpa using hk), floatOf_div (hc₁.packs _) (hc₂.packs _),
      div_of_contains hc hc₁.pos hc₂.pos hv]
    rfl
  · have habs : (10 : ℚ) ^ k = 10 ^ k.natAbs := by
      rw [← zpow_natCast]
      congr 1
      omega
    rw [habs, ← hvalue₁, ← hvalue₂] at hv
    rw [if_neg (by simpa using hk), floatOf_mul (hc₁.packs _) (hc₂.packs _),
      mul_of_contains hc hfull hc₁.pos hc₂.pos hv]
    rfl

theorem ofScientific_long (hc : Canonical m e) (hpos : 0 < n)
    (hv : (Span.ofParts m e).Contains (n * 10 ^ k)) (hle : k ≤ 2048)
    (hge : -(2048 + n.log2) ≤ k) :
    UnpackedFloat.ofScientific .binary64 n k = .finite .positive m e hc.pos := by
  have hbits : (2 : Int) ^ Format.binary64.exponentBits = 2048 := rfl
  rw [UnpackedFloat.ofScientific, dif_neg hpos.ne', hbits, if_neg (by omega), if_neg (by omega)]
  by_cases hk : 0 ≤ k
  · have hpower : (10 : ℚ) ^ k = (10 ^ k.toNat : Nat) := by
      push_cast
      rw [← zpow_natCast, Int.toNat_of_nonneg hk]
    have hdigits : (n : ℚ) = (n <<< 53 : Nat) * 2 ^ (-(53 : Int)) := by
      rw [Nat.shiftLeft_eq]
      push_cast
      rw [mul_assoc, zpow_neg]
      norm_num
    rw [if_pos hk]
    refine mul_of_contains hc ?_ _ _ ?_
    · show 2 ^ 52 ≤ n <<< 53
      rw [Nat.shiftLeft_eq]
      omega
    · rw [hdigits, hpower] at hv
      rw [zpow_zero, mul_one]
      exact hv
  · have hpower : (10 : ℚ) ^ k = ((10 ^ (-k).toNat : Nat) : ℚ)⁻¹ := by
      push_cast
      rw [← zpow_natCast, ← zpow_neg, Int.toNat_of_nonneg (by omega), neg_neg]
    rw [if_neg hk]
    refine div_of_contains hc _ _ ?_
    rw [hpower, ← div_eq_mul_inv] at hv
    rwa [zpow_zero, mul_one, mul_one]

theorem ofScientific_of_contains (hc : Canonical m e) (hpos : 0 < n)
    (hv : (Span.ofParts m e).Contains (n * 10 ^ k)) (hle : k ≤ 2048)
    (hge : -(2048 + n.log2) ≤ k) :
    Float.ofScientific n (k < 0) k.natAbs = floatOf (.finite .positive m e hc.pos) := by
  by_cases hshort : n < 2 ^ 53 ∧ k.natAbs ≤ 22
  · exact ofScientific_short hc hpos hv hshort
  · have hexponent :
        (if decide (k < 0) then Int.negOfNat k.natAbs else Int.ofNat k.natAbs) = k := by
      rw [Int.negOfNat_eq, Int.ofNat_eq_natCast]
      by_cases hk : k < 0
      · rw [if_pos (by simpa using hk)]
        omega
      · rw [if_neg (by simpa using hk)]
        omega
    rw [Float.ofScientific, dif_neg hshort]
    dsimp only
    rw [hexponent]
    exact congrArg floatOf (ofScientific_long hc hpos hv hle hge)

end Scientific

/-! ### Numerals -/

namespace Numeral

variable {x : Numeral} {m : Nat} {e : Int}

/-- The number that a numeral is, without its sign. -/
def value (x : Numeral) : ℚ := x.digits * 10 ^ x.exponent

theorem lt_pow_width (n : Nat) : n < 10 ^ width n := by
  by_cases hzero : n = 0
  · simp [width, hzero]
  · rw [width, if_neg hzero, ← Nat.length_toDigits_le_iff (by omega) Nat.length_toDigits_pos]

theorem width_pos {n : Nat} (hpos : 0 < n) : 0 < width n := by
  rw [width, if_neg hpos.ne']
  exact Nat.length_toDigits_pos

theorem pow_width_le {n : Nat} (hpos : 0 < n) : 10 ^ (width n - 1) ≤ n := by
  have hwidth := width_pos hpos
  rw [width, if_neg hpos.ne'] at hwidth ⊢
  by_contra hlt
  by_cases hone : (Nat.toDigits 10 n).length = 1
  · rw [hone] at hlt
    omega
  · have := (Nat.length_toDigits_le_iff (by omega) (by omega)).2 (not_le.1 hlt)
    omega

/-- A numeral of the size of a float has its first digit where a float can have it. -/
theorem width_add_exponent (hpos : 0 < x.digits) (hlow : 2 ^ (-1075 : Int) ≤ x.value)
    (hhigh : x.value < 2 ^ (1024 : Int)) :
    -324 < width x.digits + x.exponent ∧ width x.digits + x.exponent ≤ 309 := by
  have hten : (1 : ℚ) < 10 := by norm_num
  have hwidth := width_pos hpos
  constructor
  · have hdigits : (x.digits : ℚ) < 10 ^ width x.digits := by exact_mod_cast lt_pow_width _
    have hpowers : (2 : ℚ) ^ 1075 < 10 ^ 324 := by
      exact_mod_cast (by decide +kernel : 2 ^ 1075 < 10 ^ 324)
    have hlead : (10 : ℚ) ^ (-324 : Int) < 10 ^ ((width x.digits : Int) + x.exponent) := by
      calc (10 : ℚ) ^ (-324 : Int) = (10 ^ 324)⁻¹ := by rw [zpow_neg]; rfl
        _ < (2 ^ 1075)⁻¹ := by gcongr
        _ = 2 ^ (-1075 : Int) := by rw [zpow_neg]; rfl
        _ ≤ x.digits * 10 ^ x.exponent := hlow
        _ < 10 ^ width x.digits * 10 ^ x.exponent := by gcongr
        _ = 10 ^ ((width x.digits : Int) + x.exponent) := by
          rw [zpow_add₀ (by norm_num), zpow_natCast]
    exact (zpow_lt_zpow_iff_right₀ hten).1 hlead
  · have hdigits : (10 : ℚ) ^ (width x.digits - 1) ≤ x.digits := by
      exact_mod_cast pow_width_le hpos
    have hlead : (10 : ℚ) ^ ((width x.digits - 1 : Nat) + x.exponent) < 10 ^ (309 : Int) := by
      calc (10 : ℚ) ^ ((width x.digits - 1 : Nat) + x.exponent)
          = 10 ^ (width x.digits - 1) * 10 ^ x.exponent := by
            rw [zpow_add₀ (by norm_num), zpow_natCast]
        _ ≤ x.digits * 10 ^ x.exponent := by gcongr
        _ < 2 ^ (1024 : Int) := hhigh
        _ < 10 ^ (309 : Int) := by exact_mod_cast (by decide +kernel : 2 ^ 1024 < 10 ^ 309)
    have := (zpow_lt_zpow_iff_right₀ hten).1 hlead
    omega

theorem magnitude_of_contains (hc : Canonical m e) (hpos : 0 < x.digits)
    (hv : (Span.ofParts m e).Contains x.value) :
    x.magnitude = floatOf (.finite .positive m e hc.pos) := by
  obtain ⟨hlow, hhigh⟩ := hv.range hc
  obtain ⟨hleast, hgreatest⟩ := width_add_exponent hpos hlow hhigh
  have hwidth := width_pos hpos
  have hlog : width x.digits - 1 ≤ x.digits.log2 := by
    refine (Nat.le_log2 hpos.ne').2 (le_trans ?_ (pow_width_le hpos))
    exact Nat.pow_le_pow_left (by omega) _
  rw [magnitude, if_neg hpos.ne', if_neg (by omega), if_neg (by omega)]
  exact ofScientific_of_contains hc hpos hv (by omega) (by omega)

/-- The sign of a numeral as that of a float. -/
def sign (x : Numeral) : Sign := if x.negative then .negative else .positive

theorem toFloat_of_zero (hzero : x.digits = 0) : x.toFloat = floatOf (.zero x.sign) := by
  have hmagnitude : x.magnitude = 0.0 := by rw [magnitude, if_pos hzero]
  rw [toFloat, sign, hmagnitude]
  cases x.negative <;> decide +kernel

/-- **A numeral in the interval of a float** is read as the float. -/
theorem toFloat_of_contains (hc : Canonical m e) (hv : (Span.ofParts m e).Contains x.value) :
    x.toFloat = floatOf (.finite x.sign m e hc.pos) := by
  have hpos : 0 < x.digits := by
    refine Nat.pos_of_ne_zero fun hzero => ?_
    have hle := (hv.range hc).1
    rw [value, hzero, Nat.cast_zero, zero_mul] at hle
    exact absurd hle (not_le.2 (by positivity))
  rw [toFloat, sign, magnitude_of_contains hc hpos hv]
  cases x.negative with
  | false => rfl
  | true => exact neg_floatOf (hc.packs _)

end Numeral

end GridTalk
