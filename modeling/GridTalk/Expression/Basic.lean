/-!
# Expressions

What an instruction can ask to be written into a cell.

* `Operator`: the four operations; a division by zero is zero.
* `Reference`: a cell's address as it was typed.
* `Expression`: the eight shapes of an expression.
-/

namespace GridTalk

/-- The arithmetic operations. -/
inductive Operator
  | add
  | sub
  | mul
  | div
  deriving DecidableEq, Repr

namespace Operator

/-- The operation with this sign. -/
def ofSymbol? : Char → Option Operator
  | '+' => some add
  | '-' => some sub
  | '*' => some mul
  | '/' => some div
  | _ => none

/-- The sign of the operation. -/
def symbol : Operator → Char
  | add => '+'
  | sub => '-'
  | mul => '*'
  | div => '/'

/-- The result of the operation.  Whatever is divided by zero gives zero. -/
def apply : Operator → Float → Float → Float
  | add, x, y => x + y
  | sub, x, y => x - y
  | mul, x, y => x * y
  | div, x, y => if y == 0.0 then 0.0 else x / y

theorem ofSymbol?_symbol (op : Operator) : ofSymbol? op.symbol = some op := by cases op <;> rfl

end Operator

/-- A cell's address as it was typed: letters, then digits. -/
structure Reference where
  letters : String
  digits : String
  deriving DecidableEq, Repr

/-- The address with its letters in capitals. -/
def Reference.display (r : Reference) : String :=
  String.ofList (r.letters.toList.map Char.toUpper) ++ r.digits

/-- The shapes of an expression. -/
inductive Expression
  /-- A text in quotes, kept as it is. -/
  | quoted (text : String)
  /-- A word for nothing. -/
  | blank
  /-- The content of a cell. -/
  | cell (source : Reference)
  /-- A number. -/
  | number (x : Float)
  /-- Two columns, both read in the row that is being written. -/
  | columns (left : String) (op : Operator) (right : String)
  /-- Two cells. -/
  | cells (left : Reference) (op : Operator) (right : Reference)
  /-- A cell and a number. -/
  | cellNumber (left : Reference) (op : Operator) (right : Float)
  /-- Any other text, which will be capitalised. -/
  | label (text : String)
  deriving DecidableEq, Repr

end GridTalk
