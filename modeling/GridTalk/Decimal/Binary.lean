/-!
# The exact value of a float

A finite float is a whole number, its mantissa, times a power of two, with a sign.

* `partsOfBits`: mantissa and exponent, read off the bits.
* `nearestQuotient`: a quotient rounded to a whole number.
* `roundWhole`: a float rounded to a whole number.
-/

namespace GridTalk

/-- Mantissa and exponent of the finite float with these bits, the sign left out.  An infinity and
what is not a number get the exponent 972. -/
def partsOfBits (bits : UInt64) : Nat × Int :=
  let field := ((bits >>> 52) &&& 0x7FF).toNat
  let fraction := (bits &&& 0xFFFFFFFFFFFFF).toNat
  if field = 0 then (fraction, -1074) else (1 <<< 52 + fraction, field - 1075)

/-- The whole number nearest to `n / d`, of two the greater. -/
def nearestQuotient (n d : Nat) : Nat := (2 * n + d) / (2 * d)

/-- The whole number is at most half a unit away from the quotient. -/
theorem nearestQuotient_bounds (n : Nat) {d : Nat} (hd : 0 < d) :
    2 * d * nearestQuotient n d ≤ 2 * n + d ∧ 2 * n < 2 * d * nearestQuotient n d + d := by
  have hq := Nat.div_add_mod (2 * n + d) (2 * d)
  have hr := Nat.mod_lt (2 * n + d) (show 0 < 2 * d by omega)
  unfold nearestQuotient
  omega

/-- The nearest whole number, a half rounded away from zero.  The sign stays, also that of a zero;
floats without a fraction stay, and so do infinities and what is not a number. -/
def roundWhole (x : Float) : Float :=
  let (mantissa, exponent) := partsOfBits x.toBits
  if exponent ≥ 0 then x
  else
    let y := Float.ofNat (nearestQuotient mantissa (1 <<< exponent.natAbs))
    if x.toBits >>> 63 == 1 then -y else y

end GridTalk
