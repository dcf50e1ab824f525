import GridTalk.Decimal.Binary
import GridTalk.Decimal.Numeral

/-!
# The shortest numeral of a float

A finite float stands for all real numbers that are nearer to it than to its neighbours.  Among the
numerals in that interval the shortest one is the point of the coarsest decimal grid that has a
point there; of two points of that grid the nearer one is taken.

* `Span`: the interval, in exact integers.
* `Span.pointOn?`: the point of one grid, if the grid has one in the interval.
* `Span.shortest`: the point of the coarsest grid.
* `Numeral.ofFloat`: the shortest numeral of a finite float.
-/

namespace GridTalk

/-- Which neighbour is taken when the value lies exactly between two points of a grid. -/
inductive TieRule
  | upper
  | even
  deriving DecidableEq, Repr

/-- A positive float with the ends of its interval, all three in units of `2 ^ unit`.  The ends
belong to the interval when `closed` says so. -/
structure Span where
  low : Nat
  value : Nat
  high : Nat
  unit : Int
  closed : Bool

namespace Span

/-- The interval of the positive float `mantissa * 2 ^ exponent`.  Below a power of two floats lie
twice as dense, unless it is the least one. -/
def ofParts (mantissa : Nat) (exponent : Int) : Span where
  low := 4 * mantissa - (if mantissa = 1 <<< 52 ∧ exponent > -1074 then 1 else 2)
  value := 4 * mantissa
  high := 4 * mantissa + 2
  unit := exponent - 2
  closed := mantissa % 2 == 0

/-- Grid point number `n` of spacing `10 ^ k` and a number of units, on one common scale. -/
def scaled (unit k : Int) (n units : Nat) : Nat × Nat :=
  ((n * Nat.pow 10 k.toNat) <<< (-unit).toNat, (units * Nat.pow 10 (-k).toNat) <<< unit.toNat)

/-- Does point number `n` of the grid of spacing `10 ^ k` lie in the interval? -/
def holds (s : Span) (k : Int) (n : Nat) : Bool :=
  let (p, low) := scaled s.unit k n s.low
  let (_, high) := scaled s.unit k n s.high
  if s.closed then low ≤ p && p ≤ high else low < p && p < high

/-- The greatest grid point that is not above the value. -/
def below (s : Span) (k : Int) : Nat :=
  let (step, value) := scaled s.unit k 1 s.value
  value / step

/-- Twice the distance of the value from the grid point below it, compared with the spacing. -/
def halfway (s : Span) (k : Int) : Ordering :=
  let (step, value) := scaled s.unit k 1 s.value
  compare (2 * (value % step)) step

/-- The point of the grid that lies in the interval, the nearer one if two do. -/
def pointOn? (s : Span) (tie : TieRule) (k : Int) : Option Nat :=
  let n := s.below k
  match s.holds k n, s.holds k (n + 1) with
  | true, true =>
    match s.halfway k with
    | .lt => some n
    | .gt => some (n + 1)
    | .eq => some (if tie = .even ∧ n % 2 = 0 then n else n + 1)
  | true, false => some n
  | false, true => some (n + 1)
  | false, false => none

/-- A power of ten that no number of the interval reaches the double of. -/
def topExponent (s : Span) : Int :=
  (Nat.log2 s.value + 1 + s.unit) * 30103 / 100000 + 1

/-- The point of the coarsest grid that has one in the interval.  Seventeen digits always suffice,
and the first grid tried is at most two digits too coarse, so the twenty grids tried are enough. -/
def shortest (s : Span) (tie : TieRule) : Nat × Int :=
  let grids := (List.range 20).map fun i : Nat => s.topExponent - (i : Int)
  (grids.findSome? fun k => (s.pointOn? tie k).map (·, k)).getD (0, 0)

end Span

namespace Numeral

/-- The shortest numeral that reads back as the finite float. -/
def ofFloat (tie : TieRule) (x : Float) : Numeral :=
  let bits := x.toBits
  let (mantissa, exponent) := partsOfBits bits
  let (digits, k) := if mantissa = 0 then (0, 0) else (Span.ofParts mantissa exponent).shortest tie
  ⟨bits >>> 63 == 1, digits, k⟩

end Numeral

end GridTalk
