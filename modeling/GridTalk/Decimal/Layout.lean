import GridTalk.Decimal.Shortest

/-!
# Written numbers

How a float is written, given as a value of `NumberStyle`.

* `NumberStyle.write`: a numeral in a style, positional or with an exponent.
* `NumberStyle.writeFloat`: a float in a style, by its shortest numeral.
-/

namespace GridTalk

/-- The decisions of a number format that the value itself leaves open. -/
structure NumberStyle where
  /-- Which digits stand for a value halfway between two equally short numerals. -/
  tie : TieRule
  /-- Is the sign of a negative zero written? -/
  signedZero : Bool
  /-- What follows a whole number. -/
  wholeEnd : String
  /-- Is a number whose first digit has this decimal exponent written without an exponent? -/
  positional : Int → Bool
  /-- The texts of the floats that are not numbers, of infinity and of its negative. -/
  nan : String
  infinity : String
  negativeInfinity : String

namespace NumberStyle

/-- The digits of a numeral with the point where it belongs and zeros where digits are missing. -/
def positionalText (style : NumberStyle) (digits : List Char) (exponent : Int) : List Char :=
  let places := (-exponent).toNat
  if exponent ≥ 0 then
    digits ++ List.replicate exponent.toNat '0' ++ style.wholeEnd.toList
  else if places < digits.length then
    digits.take (digits.length - places) ++ '.' :: digits.drop (digits.length - places)
  else
    '0' :: '.' :: List.replicate (places - digits.length) '0' ++ digits

/-- One digit, the others behind a point, and the exponent of the first digit with its sign. -/
def exponentText (digits : List Char) (first : Int) : List Char :=
  digits.take 1 ++ (if digits.length > 1 then '.' :: digits.drop 1 else [])
    ++ 'e' :: (if first < 0 then '-' else '+') :: Nat.toDigits 10 first.natAbs

/-- The text of a numeral. -/
def write (style : NumberStyle) (x : Numeral) : List Char :=
  let digits := Nat.toDigits 10 x.digits
  let exponent := if x.digits = 0 then 0 else x.exponent
  let first := exponent + digits.length - 1
  let sign := if x.negative ∧ (x.digits ≠ 0 ∨ style.signedZero) then ['-'] else []
  sign ++
    if style.positional first then style.positionalText digits exponent
    else exponentText digits first

/-- The text of a float. -/
def writeFloat (style : NumberStyle) (x : Float) : List Char :=
  if x.isNaN then style.nan.toList
  else if x.isInf then (if x < 0.0 then style.negativeInfinity else style.infinity).toList
  else style.write (Numeral.ofFloat style.tie x)

end NumberStyle

end GridTalk
