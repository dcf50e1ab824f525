import GridTalk.Grid

/-!
# Comma-separated values

Rows of fields as text: commas between the fields of a record, line ends between records, and quotes
around a field that has one of these or a quote in it.

* `Csv.read`: the records of a text; they may have different lengths, and reading never fails.
* `Csv.write`: records as text, and `Csv.uneven?`: what keeps records from being written.
* `Csv.readRows`, `Csv.writeGrid`, `Csv.exportGrid`: the same with cells.

Reading takes one character after the other.  A quote opens a quoted field only at its start; there
two quotes stand for one, and what follows the closing quote belongs to the field as it is.  Line
ends between records are skipped, so that blank lines are no records.
-/

namespace GridTalk.Csv

/-- Where in a record the reader is. -/
inductive Place
  /-- Between records. -/
  | recordStart
  /-- Before the first character of a field. -/
  | fieldStart
  /-- In a field outside quotes. -/
  | plain
  /-- In a field inside quotes. -/
  | quoted
  /-- After a quote inside quotes. -/
  | quoteSeen
  deriving DecidableEq, Repr

/-- What has been read: the open field from its end to its start, the fields of the open record from
the last to the first, and the finished records from the last to the first. -/
structure State where
  place : Place
  field : List Char
  fields : List (List Char)
  records : List (List (List Char))
  deriving DecidableEq, Repr

namespace State

/-- Nothing read yet. -/
def start : State := ⟨.recordStart, [], [], []⟩

/-- A character added to the open field. -/
def push (st : State) (place : Place) (c : Char) : State :=
  { st with place := place, field := c :: st.field }

/-- The open field finished. -/
def endField (st : State) : State :=
  { st with place := .fieldStart, field := [], fields := st.field.reverse :: st.fields }

/-- The open field and the open record finished. -/
def endRecord (st : State) : State :=
  let st := st.endField
  { st with place := .recordStart, fields := [], records := st.fields.reverse :: st.records }

/-- A character outside quotes. -/
def plainStep (st : State) (c : Char) : State :=
  if c = ',' then st.endField
  else if c = '\n' ∨ c = '\r' then st.endRecord
  else st.push .plain c

/-- One character read. -/
def step (st : State) (c : Char) : State :=
  match st.place with
  | .recordStart =>
    if c = '\n' ∨ c = '\r' then st
    else if c = '"' then { st with place := .quoted }
    else st.plainStep c
  | .fieldStart => if c = '"' then { st with place := .quoted } else st.plainStep c
  | .plain => st.plainStep c
  | .quoted => if c = '"' then { st with place := .quoteSeen } else st.push .quoted c
  | .quoteSeen => if c = '"' then st.push .quoted c else st.plainStep c

/-- The records when the text ends here. -/
def finish (st : State) : List (List (List Char)) :=
  (if st.place = .recordStart then st else st.endRecord).records.reverse

end State

/-- A mark of the byte order in front of a text is not part of it. -/
def dropMark : List Char → List Char
  | '\ufeff' :: s => s
  | s => s

/-- The records of a text. -/
def read (s : List Char) : List (List (List Char)) :=
  ((dropMark s).foldl State.step State.start).finish

/-- Has the field a character that takes quotes around it? -/
def needsQuotes (field : List Char) : Bool :=
  field.any fun c => c = ',' || c = '"' || c = '\n' || c = '\r'

/-- A field as text; inside quotes a quote is written twice. -/
def writeField (field : List Char) : List Char :=
  if needsQuotes field then
    '"' :: (field.flatMap fun c => if c = '"' then ['"', '"'] else [c]) ++ ['"']
  else field

/-- A record as text.  One of which nothing would be seen is a pair of quotes, so that it is no
blank line. -/
def writeRecord (fields : List (List Char)) : List Char :=
  let line := [','].intercalate (fields.map writeField)
  (if line = [] then ['"', '"'] else line) ++ ['\n']

/-- Records as text. -/
def write (records : List (List (List Char))) : List Char := records.flatMap writeRecord

/-- The numbers of fields of a record and of the first record, when they differ. -/
structure Uneven where
  found : Nat
  expected : Nat
  deriving DecidableEq, Repr

/-- The first record that has not as many fields as the record at the front. -/
def uneven? : List (List (List Char)) → Option Uneven
  | [] => none
  | first :: rest =>
    (rest.find? fun r => r.length ≠ first.length).map fun r => ⟨r.length, first.length⟩

/-- A field as a cell. -/
def cellOf (field : List Char) : Cell :=
  if field = [] then .empty else .text (String.ofList field)

/-- The rows of a text. -/
def readRows (text : String) : List (List Cell) := (read text.toList).map (·.map cellOf)

/-- The fields of a grid. -/
def fieldsOf (g : Grid) : List (List (List Char)) := g.textRows.map (·.map String.toList)

/-- A grid as text. -/
def writeGrid (g : Grid) : String := String.ofList (write (fieldsOf g))

/-- A grid as text; rows of different lengths are refused. -/
def exportGrid (g : Grid) : Except Uneven String :=
  match uneven? (fieldsOf g) with
  | some uneven => .error uneven
  | none => .ok (writeGrid g)

end GridTalk.Csv
