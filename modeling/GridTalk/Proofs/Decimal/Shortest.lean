import GridTalk.Proofs.Decimal.Nearest

/-!
# The shortest numeral

The shortest numeral of a float lies in its interval, so that it is read as the float again.

* `Span.holds_iff`: a point of a grid is looked up in exact integers.
* `Span.last_grid_fine`: the last of the grids is so fine that it has a point in the interval.
* `Span.contains_shortest`: the numeral that is taken.
* `Numeral.SameValue`: numerals that are the same number.
* `Numeral.toFloat_of_sameValue`: a float is found again from its shortest numeral.
-/

namespace GridTalk

namespace Span

variable {s : Span} {m n units : Nat} {e k unit : Int} {tie : TieRule}

/-! ### One grid -/

/-- Both sides of a comparison are taken as many times. -/
theorem scaled_eq (unit k : Int) (n units : Nat) :
    ((scaled unit k n units).1 : ℚ) = n * 10 ^ k * (10 ^ (-k).toNat * 2 ^ (-unit).toNat) ∧
      ((scaled unit k n units).2 : ℚ)
        = units * 2 ^ unit * (10 ^ (-k).toNat * 2 ^ (-unit).toNat) := by
  rw [zpow_eq_div (by norm_num) k, zpow_eq_div (by norm_num) unit]
  simp only [scaled, Nat.shiftLeft_eq, Nat.pow_eq]
  push_cast
  constructor <;> field_simp

theorem scaled_snd_le_fst :
    (scaled unit k n units).2 ≤ (scaled unit k n units).1 ↔
      units * 2 ^ unit ≤ (n * 10 ^ k : ℚ) := by
  obtain ⟨hfst, hsnd⟩ := scaled_eq unit k n units
  rw [← @Nat.cast_le ℚ, hfst, hsnd, mul_le_mul_iff_left₀ (by positivity)]

theorem scaled_fst_le_snd :
    (scaled unit k n units).1 ≤ (scaled unit k n units).2 ↔
      (n * 10 ^ k : ℚ) ≤ units * 2 ^ unit := by
  obtain ⟨hfst, hsnd⟩ := scaled_eq unit k n units
  rw [← @Nat.cast_le ℚ, hfst, hsnd, mul_le_mul_iff_left₀ (by positivity)]

/-- **A point of a grid** is looked up in the interval. -/
theorem holds_iff : s.holds k n = true ↔ s.Contains (n * 10 ^ k) := by
  have hlow := @scaled_snd_le_fst n s.low k s.unit
  have hhigh := @scaled_fst_le_snd n s.high k s.unit
  have hlow' := not_congr (@scaled_fst_le_snd n s.low k s.unit)
  have hhigh' := not_congr (@scaled_snd_le_fst n s.high k s.unit)
  rw [not_le, not_le] at hlow' hhigh'
  simp only [holds, Contains]
  by_cases hclosed : s.closed = true
  · rw [if_pos hclosed, if_pos hclosed, Bool.and_eq_true, decide_eq_true_eq, decide_eq_true_eq]
    exact and_congr hlow hhigh
  · rw [if_neg hclosed, if_neg hclosed, Bool.and_eq_true, decide_eq_true_eq, decide_eq_true_eq]
    exact and_congr hlow' hhigh'

/-- The point that is taken lies in the interval. -/
theorem contains_of_pointOn? (h : s.pointOn? tie k = some n) : s.Contains (n * 10 ^ k) := by
  rw [← holds_iff]
  unfold pointOn? at h
  dsimp only at h
  split at h
  · next hbelow habove =>
    split at h
    · cases h
      exact hbelow
    · cases h
      exact habove
    · split at h
      · cases h
        exact hbelow
      · cases h
        exact habove
  · next hbelow _ =>
    cases h
    exact hbelow
  · next _ habove =>
    cases h
    exact habove
  · cases h

theorem exists_pointOn? (h : s.holds k (s.below k) = true) (tie : TieRule) :
    ∃ n, s.pointOn? tie k = some n := by
  unfold pointOn?
  dsimp only
  rw [h]
  cases s.holds k (s.below k + 1) with
  | false => exact ⟨_, rfl⟩
  | true =>
    cases s.halfway k with
    | lt | gt => exact ⟨_, rfl⟩
    | eq =>
      dsimp only
      split <;> exact ⟨_, rfl⟩

/-- The value lies less than one step above the point below it. -/
theorem below_bounds (s : Span) (k : Int) :
    (s.below k * 10 ^ k : ℚ) ≤ s.value * 2 ^ s.unit ∧
      (s.value * 2 ^ s.unit : ℚ) < (s.below k + 1) * 10 ^ k := by
  obtain ⟨hstep, hvalue⟩ := scaled_eq s.unit k 1 s.value
  obtain ⟨c, hc⟩ : ∃ c : ℚ, 10 ^ (-k).toNat * 2 ^ (-s.unit).toNat = c := ⟨_, rfl⟩
  have hpos : 0 < c := hc ▸ by positivity
  rw [hc] at hstep hvalue
  have hsteppos : 0 < (scaled s.unit k 1 s.value).1 := by
    rw [← @Nat.cast_pos ℚ, hstep]
    positivity
  have hle : ((scaled s.unit k 1 s.value).1 * s.below k : ℚ) ≤ (scaled s.unit k 1 s.value).2 := by
    exact_mod_cast Nat.mul_div_le ..
  have hlt : ((scaled s.unit k 1 s.value).2 : ℚ)
      < (scaled s.unit k 1 s.value).1 * (s.below k + 1) := by
    exact_mod_cast Nat.lt_mul_div_succ _ hsteppos
  rw [hstep, hvalue, Nat.cast_one, one_mul, mul_right_comm, mul_le_mul_iff_left₀ hpos,
    mul_comm] at hle
  rw [hstep, hvalue, Nat.cast_one, one_mul, mul_right_comm _ c, mul_lt_mul_iff_left₀ hpos,
    mul_comm (10 ^ k)] at hlt
  exact ⟨hle, hlt⟩

/-- The point below the value lies in the interval if the grid is finer than the interval. -/
theorem holds_below (hm : 0 < m) (hfine : (10 : ℚ) ^ k < 2 ^ (e - 2)) :
    (ofParts m e).holds k ((ofParts m e).below k) = true := by
  have hpos : (0 : ℚ) < 2 ^ (e - 2) := by positivity
  have hunit : (ofParts m e).unit = e - 2 := rfl
  have hlow : ((ofParts m e).low : ℚ) + 1 ≤ (ofParts m e).value := by
    have hnat : (ofParts m e).low + 1 ≤ (ofParts m e).value := by
      simp only [ofParts]
      split <;> omega
    exact_mod_cast hnat
  have hhigh : ((ofParts m e).value : ℚ) < (ofParts m e).high := by
    exact_mod_cast Nat.lt_add_of_pos_right (by omega)
  obtain ⟨hle, hlt⟩ := (ofParts m e).below_bounds k
  have habove : ((ofParts m e).low * 2 ^ (ofParts m e).unit : ℚ)
      < (ofParts m e).below k * 10 ^ k := by
    have hone := mul_le_mul_of_nonneg_right hlow hpos.le
    rw [hunit] at hlt ⊢
    linarith
  have hbelow : ((ofParts m e).below k * 10 ^ k : ℚ)
      < (ofParts m e).high * 2 ^ (ofParts m e).unit :=
    hle.trans_lt (mul_lt_mul_of_pos_right hhigh hpos)
  rw [holds_iff, Contains]
  split
  · exact ⟨habove.le, hbelow.le⟩
  · exact ⟨habove, hbelow⟩

/-! ### All grids -/

/-- A power of ten is less than a power of two if `10 ^ 3 < 2 ^ 10` tells so or, below one,
`2 ^ 63 < 10 ^ 19`. -/
theorem ten_zpow_lt {j u : Int} (h : 0 ≤ j ∧ 10 * j < 3 * u ∨ j < 0 ∧ 63 * j < 19 * u) :
    (10 : ℚ) ^ j < 2 ^ u := by
  have htwo : (1 : ℚ) < 2 := by norm_num
  rcases h with ⟨hj, hlt⟩ | ⟨hj, hlt⟩
  · refine lt_of_pow_lt_pow_left₀ 3 (by positivity) ?_
    calc ((10 : ℚ) ^ j) ^ 3 = (10 ^ 3) ^ j := by
          rw [← zpow_natCast, ← zpow_mul, mul_comm, zpow_mul, zpow_natCast]
      _ ≤ (2 ^ 10) ^ j := zpow_le_zpow_left₀ hj (by norm_num) (by norm_num)
      _ = 2 ^ (10 * j) := by rw [zpow_mul]; rfl
      _ < 2 ^ (3 * u) := (zpow_lt_zpow_iff_right₀ htwo).2 hlt
      _ = (2 ^ u) ^ 3 := by rw [mul_comm, zpow_mul]; rfl
  · refine lt_of_pow_lt_pow_left₀ 19 (by positivity) ?_
    have hinv : ((10 : ℚ) ^ 19) ^ j ≤ (2 ^ 63) ^ j := by
      obtain ⟨i, rfl⟩ : ∃ i : Nat, j = -i := ⟨j.natAbs, by omega⟩
      rw [zpow_neg, zpow_neg, zpow_natCast, zpow_natCast]
      gcongr
      norm_num
    calc ((10 : ℚ) ^ j) ^ 19 = (10 ^ 19) ^ j := by
          rw [← zpow_natCast, ← zpow_mul, mul_comm, zpow_mul, zpow_natCast]
      _ ≤ (2 ^ 63) ^ j := hinv
      _ = 2 ^ (63 * j) := by rw [zpow_mul]; rfl
      _ < 2 ^ (19 * u) := (zpow_lt_zpow_iff_right₀ htwo).2 hlt
      _ = (2 ^ u) ^ 19 := by rw [mul_comm, zpow_mul]; rfl

/-- The last of the grids is finer than the interval. -/
theorem last_grid_fine (hc : Canonical m e) :
    (10 : ℚ) ^ ((ofParts m e).topExponent - 19) < 2 ^ (e - 2) := by
  have hleast := hc.least_le
  have hgreatest := hc.le_greatest
  have hlog : (4 * m).log2 < 55 := by
    have hpos := hc.pos
    have hlt := hc.lt
    exact (Nat.log2_lt (by omega)).2 (by omega)
  refine ten_zpow_lt ?_
  simp only [topExponent, ofParts]
  omega

/-- **The numeral that is taken** lies in the interval. -/
theorem contains_shortest (hc : Canonical m e) (tie : TieRule) :
    (ofParts m e).Contains
      (((ofParts m e).shortest tie).1 * 10 ^ ((ofParts m e).shortest tie).2) := by
  have hlast : ∃ n, (ofParts m e).pointOn? tie ((ofParts m e).topExponent - 19) = some n :=
    exists_pointOn? (holds_below hc.pos (last_grid_fine hc)) tie
  revert hlast
  generalize ofParts m e = s
  rintro ⟨n, hn⟩
  rw [shortest]
  cases hfind : ((List.range 20).map fun i : Nat => s.topExponent - (i : Int)).findSome? fun k =>
      (s.pointOn? tie k).map (·, k) with
  | none =>
    rw [List.findSome?_eq_none_iff] at hfind
    have hnone := hfind (s.topExponent - 19) (List.mem_map.2 ⟨19, by simp, rfl⟩)
    rw [hn] at hnone
    cases hnone
  | some p =>
    obtain ⟨k, -, hp⟩ := List.exists_of_findSome?_eq_some hfind
    obtain ⟨n, hn, rfl⟩ := Option.map_eq_some_iff.1 hp
    exact contains_of_pointOn? hn

end Span

/-! ### The numeral of a float -/

namespace Numeral

/-- The numerals are the same number, with the same sign. -/
structure SameValue (x y : Numeral) : Prop where
  negative_eq : y.negative = x.negative
  value_eq : y.value = x.value

variable {x : Float} {y : Numeral} {tie : TieRule} {m : Nat} {e : Int}

theorem ofFloat_eq (hparts : partsOfBits x.toBits = (m, e)) :
    ofFloat tie x = ⟨x.toBits >>> 63 == 1,
      (if m = 0 then (0, 0) else (Span.ofParts m e).shortest tie).1,
      (if m = 0 then (0, 0) else (Span.ofParts m e).shortest tie).2⟩ := by
  simp only [ofFloat, hparts]

/-- **A float is found again** from its shortest numeral, and from every other numeral that is the
same number. -/
theorem toFloat_of_sameValue (hfinite : x.isFinite = true) (h : SameValue (ofFloat tie x) y) :
    y.toFloat = x := by
  rcases hparts : partsOfBits x.toBits with ⟨m, e⟩
  have hvalue := h.value_eq
  have hsign : y.sign = signOfBits x.toBits := by
    rw [sign, h.negative_eq]
    rfl
  rw [value, value, ofFloat_eq hparts] at hvalue
  rcases eq_floatOf hfinite hparts with ⟨rfl, hfloat⟩ | ⟨hc, hfloat⟩
  · have hzero : y.digits = 0 := by
      rw [if_pos rfl, Nat.cast_zero, zero_mul] at hvalue
      have hne : (10 : ℚ) ^ y.exponent ≠ 0 := by positivity
      exact_mod_cast (mul_eq_zero.1 hvalue).resolve_right hne
    rw [toFloat_of_zero hzero, hsign, ← hfloat]
  · have hv : (Span.ofParts m e).Contains y.value := by
      rw [value, hvalue, if_neg hc.pos.ne']
      exact Span.contains_shortest hc tie
    rw [toFloat_of_contains hc hv, hsign, ← hfloat]

end Numeral

end GridTalk
