import GridTalk.Address

/-!
# Intents

What an instruction asks for, with its operands.

* `Adjustment`: the verbs that change a column of numbers by an amount.
* `IntentKind`: the six kinds of edit.
* `Intent`: an edit with its operands.
-/

namespace GridTalk

/-- The verbs that change a number by an amount. -/
inductive Adjustment
  | increase
  | increment
  | decrease
  | reduce
  | multiply
  | divide
  deriving DecidableEq, Repr

namespace Adjustment

/-- All verbs, in the order in which they are tried. -/
def all : List Adjustment := [increase, increment, decrease, reduce, multiply, divide]

/-- The verb in small letters. -/
def word : Adjustment → String
  | increase => "increase"
  | increment => "increment"
  | decrease => "decrease"
  | reduce => "reduce"
  | multiply => "multiply"
  | divide => "divide"

/-- The verb that is spelled so. -/
def ofWord? (w : String) : Option Adjustment := all.find? fun a => a.word == w

/-- A value changed by an amount. -/
def apply : Adjustment → Float → Float → Float
  | increase, x, y => x + y
  | increment, x, y => x + y
  | decrease, x, y => x - y
  | reduce, x, y => x - y
  | multiply, x, y => x * y
  | divide, x, y => x / y

theorem ofWord?_word (a : Adjustment) : ofWord? a.word = some a := by cases a <;> decide

end Adjustment

/-- The kinds of edit. -/
inductive IntentKind
  | setCell
  | adjustColumn
  | addColumn
  | fillColumn
  | renameColumn
  | clearColumn
  deriving DecidableEq, Repr

namespace IntentKind

/-- The name of the kind, for programs. -/
def name : IntentKind → String
  | setCell => "setCell"
  | adjustColumn => "adjustColumn"
  | addColumn => "addColumn"
  | fillColumn => "fillColumn"
  | renameColumn => "renameColumn"
  | clearColumn => "clearColumn"

/-- The name of the kind, for people. -/
def title : IntentKind → String
  | setCell => "set cell"
  | adjustColumn => "adjust column"
  | addColumn => "add column"
  | fillColumn => "fill column"
  | renameColumn => "rename column"
  | clearColumn => "clear column"

end IntentKind

/-- An edit with its operands.  Columns and rows are counted from 0. -/
inductive Intent
  /-- The value of an expression goes into one cell. -/
  | setCell (target : Coord) (expression : String)
  /-- The numbers of a column change by an amount. -/
  | adjustColumn (action : Adjustment) (column : Nat) (amount : String)
  /-- A column becomes the sum or the difference of two columns. -/
  | addColumn (target left right : Nat) (subtract : Bool)
  /-- The blank cells of a column get the value of an expression. -/
  | fillColumn (column : Nat) (expression : String)
  /-- A column gets a new title. -/
  | renameColumn (column : Nat) (title : String)
  /-- The data of a column is removed. -/
  | clearColumn (column : Nat)
  deriving DecidableEq, Repr

/-- The kind of an edit. -/
def Intent.kind : Intent → IntentKind
  | setCell .. => .setCell
  | adjustColumn .. => .adjustColumn
  | addColumn .. => .addColumn
  | fillColumn .. => .fillColumn
  | renameColumn .. => .renameColumn
  | clearColumn .. => .clearColumn

/-- The columns that an edit names. -/
def Intent.columns : Intent → List Nat
  | setCell target _ => [target.col]
  | adjustColumn _ column _ | fillColumn column _ | renameColumn column _
  | clearColumn column => [column]
  | addColumn target left right _ => [target, left, right]

end GridTalk
