import GridTalk.Decimal.Layout
import GridTalk.Text.Blank

/-!
# Cells

A cell is empty or holds a number, a truth value or a text.

* `Cell.isEmpty`, `Cell.isBlank`: nothing in it, and nothing to see in it.
* `Cell.toNumber?`: its value in arithmetic, the only coercion there is.
* `Cell.asText`: what is shown and exported.
-/

namespace GridTalk

/-- One entry of a grid. -/
inductive Cell
  | empty
  | number (x : Float)
  | boolean (b : Bool)
  | text (s : String)
  deriving DecidableEq, Repr

/-- Numbers are shown with all their digits in place, whole ones without a point, and a zero has no
sign. -/
def Cell.numberStyle : NumberStyle where
  tie := .upper
  signedZero := false
  wholeEnd := ""
  positional _ := true
  nan := "NaN"
  infinity := "inf"
  negativeInfinity := "-inf"

namespace Cell

/-- Does the cell hold nothing? -/
def isEmpty : Cell → Bool
  | empty => true
  | _ => false

/-- Does the cell hold nothing, or an empty text? -/
def isBlank : Cell → Bool
  | empty => true
  | text s => s.isEmpty
  | _ => false

/-- The number that a text stands for, blanks around it allowed. -/
def numberOfText? (s : String) : Option Float := finiteOf? (Text.trim s.toList)

/-- The value in arithmetic: a finite number, or that of a text which spells one.  Truth values
have none. -/
def toNumber? : Cell → Option Float
  | number x => if x.isFinite then some x else none
  | text s => numberOfText? s
  | _ => none

/-- The text that is shown and exported. -/
def asText : Cell → String
  | empty => ""
  | number x => String.ofList (numberStyle.writeFloat x)
  | boolean b => if b then "TRUE" else "FALSE"
  | text s => s

end Cell

end GridTalk
