import GridTalk.Edit
import GridTalk.Log

/-!
# Sessions

One person's work on one grid: the grid, where it came from, and the messages of the edits made to
it since it was loaded.

* `Session.load`, `Session.loadUpload`: another dataset, and the log starts anew.
* `Session.run`: one instruction; only a success changes the session.
* `Session.exportName`: the name under which the edited grid is saved.
* `Preset`: the built-in dataset and examples.
-/

namespace GridTalk

/-- A grid, if one is loaded, with its names and its log. -/
structure Session where
  grid : Option Grid
  sheetName : String
  fileName : String
  log : Log
  deriving DecidableEq, Repr

namespace Session

/-- A session without a dataset, whose log keeps this many messages (0 for all). -/
def new (limit : Nat) : Session := ⟨none, "", "", Log.empty limit⟩

/-- The endings of file names that are dropped. -/
def uploadEndings : List String := [".xlsx", ".xls", ".csv"]

/-- A file name without its ending, which may be in any case. -/
def dropEnding (name : String) : String :=
  let s := name.toList
  match uploadEndings.find? fun e => e.toList.isSuffixOf (s.map Char.toLower) with
  | some e => String.ofList (s.take (s.length - e.toList.length))
  | none => name

/-- A new dataset; the log is cleared. -/
def load (session : Session) (rows : List (List Cell)) (sheetName fileName : String) : Session :=
  ⟨some (Grid.ofRows rows), sheetName, fileName, session.log.clear⟩

/-- A new dataset from a file, whose name loses its ending. -/
def loadUpload (session : Session) (rows : List (List Cell)) (sheetName fileName : String) :
    Session :=
  session.load rows sheetName (dropEnding fileName)

/-- One instruction.  A success replaces the grid and logs the message. -/
def run (session : Session) (text : String) : Except SheetError Edit × Session :=
  match session.grid with
  | none => (.error .noDataset, session)
  | some g =>
    match applyInstruction g text with
    | .error e => (.error e, session)
    | .ok edit =>
      (.ok edit, { session with grid := some edit.grid, log := session.log.record edit.message })

/-- The file name used when there is none. -/
def defaultFileName : String := "excel-agent"

/-- The name, without an ending, under which the edited grid is saved. -/
def exportName (session : Session) : String :=
  (if session.fileName = "" then defaultFileName else session.fileName) ++ "-updated"

end Session

namespace Preset

/-- The sheet name of the built-in dataset. -/
def sheetName : String := "Workforce"

/-- The file name of the built-in dataset. -/
def fileName : String := "sample-workforce"

/-- A row of the built-in dataset, its total still to be computed. -/
def record (employee department : String) (hours rate : Float) : List Cell :=
  [.text employee, .text department, .number hours, .number rate, .empty]

/-- The built-in dataset: hours and rates of four people. -/
def rows : List (List Cell) :=
  [["Employee", "Department", "Hours", "Rate", "Total"].map Cell.text,
    record "Anita" "Finance" 32 45,
    record "Rohan" "Marketing" 40 38,
    record "Zoya" "Finance" 28 52,
    record "Karan" "Sales" 45 41]

/-- Instructions to try on the built-in dataset. -/
def examples : List String :=
  ["set cell e2 to c2 * d2",
    "increment column c by 5",
    "rename column e to payroll",
    "fill empty cells in column e with c * d",
    "add column f as sum of c and e",
    "clear column d"]

end Preset

/-- The built-in dataset loaded. -/
def Session.loadSample (session : Session) : Session :=
  session.load Preset.rows Preset.sheetName Preset.fileName

end GridTalk
