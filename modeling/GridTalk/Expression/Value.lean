import GridTalk.Expression.Reading
import GridTalk.Grid

/-!
# The value of an expression

An expression is evaluated on a grid, in the row that is being written.  An address outside the
grid makes the grid grow to it, and the growth stays even if a later address of the same expression
is refused; so evaluation returns the grid beside its outcome.

* `roundNumber`: two decimals, which every computed number is rounded to.
* `arithmetic`: an operation on two operands that may have no numeric value.
* `Expression.evaluate`, `evaluateText`: the cell that an expression stands for.
* `numericValue`: the number that an expression stands for.
-/

namespace GridTalk

/-- The distance from 1 to the next float. -/
def floatEpsilon : Float := 2.220446049250313e-16

/-- Two decimals, a half rounded away from zero, after a nudge up that makes up for sums such as
`0.1 + 0.2`. -/
def roundNumber (x : Float) : Float := roundWhole ((x + floatEpsilon) * 100.0) / 100.0

/-- A computed number as a cell: rounded, or empty if that is out of range. -/
def computedCell (x : Float) : Cell :=
  if (roundNumber x).isFinite then .number (roundNumber x) else .empty

/-- An operation on two operands; the cell is empty if one of them has no numeric value. -/
def arithmetic (left : Option Float) (op : Operator) (right : Option Float) : Cell :=
  match left, right with
  | some x, some y => computedCell (op.apply x y)
  | _, _ => .empty

/-- The position of an address, and the grid grown to it. -/
def Reference.resolve (r : Reference) (g : Grid) : Except SheetError Coord × Grid :=
  match Coord.ofParts r.letters r.digits with
  | .error e => (.error e, g)
  | .ok p =>
    match g.ensureRows (p.row + 1) (max g.colCount (p.col + 1)) with
    | .error e => (.error e, g)
    | .ok g => (.ok p, g)

/-- The numeric value of a column in a row.  The grid does not grow, and a label that names no
column has no value. -/
def columnNumber? (label : String) (row : Nat) (g : Grid) : Option Float :=
  match Column.ofLabel label with
  | .error _ => none
  | .ok col => (g.get row col).toNumber?

namespace Expression

/-- The cell that an expression stands for in a row, and the grid with every address it names. -/
def evaluate (e : Expression) (row : Nat) (g : Grid) : Except SheetError Cell × Grid :=
  match e with
  | quoted text => (.ok (.text text), g)
  | blank => (.ok .empty, g)
  | cell source =>
    match source.resolve g with
    | (.error e, g) => (.error e, g)
    | (.ok p, g) => (.ok (g.getAt p), g)
  | number x => (.ok (.number x), g)
  | columns left op right =>
    (.ok (arithmetic (columnNumber? left row g) op (columnNumber? right row g)), g)
  | cells left op right =>
    match left.resolve g with
    | (.error e, g) => (.error e, g)
    | (.ok p, g) =>
      match right.resolve g with
      | (.error e, g) => (.error e, g)
      | (.ok q, g) => (.ok (arithmetic (g.getAt p).toNumber? op (g.getAt q).toNumber?), g)
  | cellNumber left op y =>
    match left.resolve g with
    | (.error e, g) => (.error e, g)
    | (.ok p, g) => (.ok (arithmetic (g.getAt p).toNumber? op (some y)), g)
  | label text => (.ok (.text (String.ofList (Text.capitalizeWords text.toList))), g)

end Expression

/-- The cell that the text of an expression stands for. -/
def evaluateText (text : String) (row : Nat) (g : Grid) : Except SheetError Cell × Grid :=
  match Expression.ofText text with
  | .error e => (.error e, g)
  | .ok e => e.evaluate row g

/-- The number that the text of an expression stands for. -/
def numericValue (text : String) (row : Nat) (g : Grid) : Except SheetError Float × Grid :=
  match evaluateText text row g with
  | (.error e, g) => (.error e, g)
  | (.ok v, g) =>
    match v.toNumber? with
    | some x => (.ok x, g)
    | none => (.error (.notNumeric (String.ofList (Text.trim text.toList))), g)

end GridTalk
