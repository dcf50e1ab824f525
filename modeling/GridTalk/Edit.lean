import GridTalk.Expression.Value
import GridTalk.Intent.Reading

/-!
# Edits

Carrying out an intent on a grid.  An edit returns a new grid and the message that confirms it, or
it fails and there is no new grid.

* `setCell`, `adjustColumn`, `addColumn`, `fillColumn`, `renameColumn`, `clearColumn`: one edit for
  each kind of intent.
* `Intent.execute`: the edit of an intent, and the grid it leaves padded to a rectangle.
* `applyInstruction`: an instruction read and carried out.
-/

namespace GridTalk

/-- A grid after an edit, what to tell about it, and the kind of edit it was. -/
structure Edit where
  grid : Grid
  message : String
  kind : IntentKind
  deriving DecidableEq, Repr

/-- The outcome of an edit: the grid that it leaves and its message. -/
abbrev EditResult := Except SheetError (Grid × String)

/-- The value of the expression goes into the target cell.  It is evaluated in the target's row,
after the grid has grown to that row. -/
def setCell (g : Grid) (target : Coord) (expression : String) : EditResult := do
  let g ← g.ensureRows (target.row + 1) g.colCount
  match evaluateText expression target.row g with
  | (.error e, _) => throw e
  | (.ok v, g) =>
    let g ← g.set target.row target.col v
    return (g, "Set " ++ target.a1 ++ " to " ++ v.asText)

/-- What an adjustment makes of a cell: a cell without a numeric value stays, and so does one whose
new value is out of range. -/
def adjusted (action : Adjustment) (factor : Float) (v : Cell) : Cell :=
  match v.toNumber? with
  | none => v
  | some x =>
    let y := roundNumber (action.apply x factor)
    if y.isFinite then .number y else v

/-- The numeric data of a column changes by an amount, which is evaluated once, in the first data
row. -/
def adjustColumn (g : Grid) (action : Adjustment) (column : Nat) (amount : String) :
    EditResult := do
  let g ← g.ensureCols (column + 1)
  match numericValue amount 1 g with
  | (.error e, _) => throw e
  | (.ok factor, g) =>
    if action = .divide ∧ factor == 0.0 then throw (.divisionByZero (Column.label column))
    let verb := String.ofList (Text.capitalizeFirst action.word.toList)
    return (g.mapData column (adjusted action factor),
      verb ++ " column " ++ Column.label column ++ " by " ++ (Cell.number factor).asText)

/-- The sum or the difference of two cells of a row, rounded.  It is empty if one of the cells has
no numeric value or if the result is out of range. -/
def combined (g : Grid) (row left right : Nat) (subtract : Bool) : Cell :=
  match (g.get row left).toNumber?, (g.get row right).toNumber? with
  | some x, some y =>
    let z := roundNumber (if subtract then x - y else x + y)
    if z.isFinite then .number z else .empty
  | _, _ => .empty

/-- The indices of the data rows. -/
def Grid.dataRows (g : Grid) : List Nat := List.range' 1 (g.rowCount - 1)

/-- The target column becomes the sum or the difference of two columns, row by row from the top,
and its title tells which. -/
def addColumn (g : Grid) (target left right : Nat) (subtract : Bool) : EditResult := do
  let g ← g.ensureCols (max (max target left) right + 1)
  let sign := if subtract then "-" else "+"
  let l := Column.label left
  let r := Column.label right
  let g ← g.set 0 target (.text (l ++ sign ++ r))
  let g ← g.dataRows.foldlM
    (fun g row => g.set row target (combined g row left right subtract)) g
  return (g, "Computed column " ++ Column.label target ++ " from " ++ l ++ " " ++ sign ++ " " ++ r)

/-- One step of filling: the cell in this row gets the value of the expression if it is blank. -/
def fillRow (e : Expression) (column row : Nat) (g : Grid) : Except SheetError Grid :=
  if (g.get row column).isBlank then
    match e.evaluate row g with
    | (.error e, _) => .error e
    | (.ok v, g) => g.set row column v
  else .ok g

/-- Filling from a row on.  A row that an evaluation adds is visited as well; `fuel` bounds the
number of rows visited. -/
def fillFrom (e : Expression) (column : Nat) : (fuel row : Nat) → Grid → Except SheetError Grid
  | 0, _, g => .ok g
  | fuel + 1, row, g =>
    if row < g.rowCount then do
      let g ← fillRow e column row g
      fillFrom e column fuel (row + 1) g
    else .ok g

/-- The blank cells in the data of a column get the value of an expression, from the top.  No
evaluation makes the grid longer than `maxRows` unless it was, so the rows visited are bounded. -/
def fillColumn (g : Grid) (column : Nat) (expression : String) : EditResult := do
  let g ← g.ensureCols (column + 1)
  let e ← Expression.ofText expression
  let g ← fillFrom e column (max g.rowCount Grid.maxRows) 1 g
  return (g, "Filled empty cells in column " ++ Column.label column)

/-- A column gets a new title, every word of it capitalised. -/
def renameColumn (g : Grid) (column : Nat) (title : String) : EditResult := do
  let g ← g.ensureCols (column + 1)
  let title := String.ofList (Text.capitalizeWords (Text.trim title.toList))
  let g ← g.set 0 column (.text title)
  return (g, "Renamed column " ++ Column.label column ++ " to " ++ title)

/-- The data of a column is removed; its title stays. -/
def clearColumn (g : Grid) (column : Nat) : EditResult := do
  let g ← g.ensureCols (column + 1)
  return (g.mapData column fun _ => .empty, "Cleared column " ++ Column.label column)

namespace Intent

/-- The edit that an intent asks for, before its grid is padded. -/
def perform (intent : Intent) (g : Grid) : EditResult :=
  match intent with
  | .setCell target expression => GridTalk.setCell g target expression
  | .adjustColumn action column amount => GridTalk.adjustColumn g action column amount
  | .addColumn target left right subtract => GridTalk.addColumn g target left right subtract
  | .fillColumn column expression => GridTalk.fillColumn g column expression
  | .renameColumn column title => GridTalk.renameColumn g column title
  | .clearColumn column => GridTalk.clearColumn g column

/-- An intent carried out. -/
def execute (intent : Intent) (g : Grid) : Except SheetError Edit := do
  let (g, message) ← intent.perform g
  return ⟨g.normalized, message, intent.kind⟩

end Intent

/-- An instruction read and carried out. -/
def applyInstruction (g : Grid) (text : String) : Except SheetError Edit := do
  let intent ← Intent.ofText text
  intent.execute g

end GridTalk
