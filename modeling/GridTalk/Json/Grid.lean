import GridTalk.Grid
import GridTalk.Json.Reading

/-!
# Grids as JSON

A cell is a JSON scalar and a grid an array of arrays of cells.

* `Cell.toJson`, `Cell.ofJson?`: a cell, written and read.
* `Grid.toJson`, `Grid.ofJson?`: a grid; rows of different lengths are padded when read.
* `Grid.jsonText`, `Grid.ofJsonText?`: the same as text.
-/

namespace GridTalk

namespace Cell

/-- A cell as a scalar; a number that is not finite is written as `null`. -/
def toJson : Cell → Json
  | empty => .null
  | number x => Json.ofFloat x
  | boolean b => .boolean b
  | text s => .string s

/-- The cell that a scalar stands for, `none` for what is no scalar and for a number out of
range. -/
def ofJson? : Json → Option Cell
  | .null => some empty
  | .boolean b => some (boolean b)
  | .integer n => (Numeral.toFinite? ⟨n < 0, n.natAbs, 0⟩).map number
  | .number x => x.toFinite?.map number
  | .string s => some (text s)
  | _ => none

end Cell

/-- Rows of cells as an array of arrays. -/
def rowsToJson (rows : List (List Cell)) : Json :=
  .array (rows.map fun row => .array (row.map Cell.toJson))

/-- The row that an array stands for. -/
def rowOfJson? : Json → Option (List Cell)
  | .array items => items.mapM Cell.ofJson?
  | _ => none

/-- The rows that an array of arrays stands for. -/
def rowsOfJson? : Json → Option (List (List Cell))
  | .array items => items.mapM rowOfJson?
  | _ => none

namespace Grid

/-- A grid as an array of arrays. -/
def toJson (g : Grid) : Json := rowsToJson g.rows

/-- The grid that an array of arrays stands for. -/
def ofJson? (x : Json) : Option Grid := (rowsOfJson? x).map ofRows

/-- The compact text of a grid. -/
def jsonText (g : Grid) : String := String.ofList g.toJson.render

/-- The grid that a text stands for. -/
def ofJsonText? (text : String) : Option Grid := (Json.ofText? text).bind ofJson?

end Grid

end GridTalk
