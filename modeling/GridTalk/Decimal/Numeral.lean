/-!
# Decimal numerals

A numeral is an exact decimal number, a whole number of some power of ten with a sign.

* `Numeral.toFloat`: the nearest floating-point number, infinite when it is out of range.
* `Numeral.ofText?`: the numeral that a text spells, `some` only if all of the text is used.
* `Numeral.naturalOf`: the value of a run of digits.
* `finiteOf?`: the finite number that a text spells.
-/

namespace GridTalk

/-- The decimal number `± digits * 10 ^ exponent`.  A negative zero is told from zero. -/
structure Numeral where
  negative : Bool
  digits : Nat
  exponent : Int
  deriving DecidableEq, Repr

namespace Numeral

/-- The value of a run of decimal digits, read from the left. -/
def naturalOf (ds : List Char) : Nat :=
  ds.foldl (fun n d => 10 * n + (d.toNat - '0'.toNat)) 0

/-- How many decimal digits a number has; zero has none. -/
def width (n : Nat) : Nat := if n = 0 then 0 else (Nat.toDigits 10 n).length

/-- The nearest float without the sign.  Beyond `10 ^ 310` all numerals are infinite, and below
`10 ^ (-400)` all are zero, so neither huge exponent is ever carried out. -/
def magnitude (x : Numeral) : Float :=
  let top := width x.digits + x.exponent
  if x.digits = 0 then 0.0
  else if top > 310 then 1.0 / 0.0
  else if top < -400 then 0.0
  else Float.ofScientific x.digits (x.exponent < 0) x.exponent.natAbs

/-- The nearest float. -/
def toFloat (x : Numeral) : Float :=
  if x.negative then -x.magnitude else x.magnitude

/-- A sign in front, if there is one, and the rest. -/
def signOf : List Char → Bool × List Char
  | '+' :: r => (false, r)
  | '-' :: r => (true, r)
  | s => (false, s)

/-- The exponent that a text spells after the mantissa: nothing, or `e`, a sign and digits. -/
def exponentOf? : List Char → Option Int
  | [] => some 0
  | e :: r =>
    if e = 'e' ∨ e = 'E' then
      let (negative, ds) := signOf r
      if ds.isEmpty ∨ ¬ds.all Char.isDigit then none
      else some (if negative then -(naturalOf ds : Int) else naturalOf ds)
    else none

/-- The numeral that a whole text spells: a sign, digits with at most one point among them and at
least one digit in all, and an exponent; the sign, the point and the exponent can be missing. -/
def ofText? (s : List Char) : Option Numeral :=
  let (negative, body) := signOf s
  let (whole, r) := body.span Char.isDigit
  let (part, r) :=
    match r with
    | '.' :: r => r.span Char.isDigit
    | _ => ([], r)
  if whole.isEmpty ∧ part.isEmpty then none
  else (exponentOf? r).map fun e => ⟨negative, naturalOf (whole ++ part), e - part.length⟩

end Numeral

/-- The nearest float of a numeral, `none` if the numeral is out of range. -/
def Numeral.toFinite? (x : Numeral) : Option Float :=
  if x.toFloat.isFinite then some x.toFloat else none

theorem Numeral.isFinite_of_toFinite? {n : Numeral} {x : Float} (h : n.toFinite? = some x) :
    x.isFinite := by
  obtain ⟨hfinite, rfl⟩ := Option.ite_some_none_eq_some.1 h
  exact hfinite

/-- The finite number that a text spells with a point or a comma, `none` if it spells none or one
out of range. -/
def finiteOf? (s : List Char) : Option Float :=
  (Numeral.ofText? (s.map fun c => if c = ',' then '.' else c)).bind Numeral.toFinite?

/-- A text spells finite numbers only, not even `inf` or `nan`. -/
theorem isFinite_of_finiteOf? {s : List Char} {x : Float} (h : finiteOf? s = some x) :
    x.isFinite := by
  obtain ⟨n, -, hx⟩ := Option.bind_eq_some_iff.1 h
  exact Numeral.isFinite_of_toFinite? hx

end GridTalk
