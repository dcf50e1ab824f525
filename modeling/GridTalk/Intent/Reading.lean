import GridTalk.Intent.Basic
import GridTalk.Phrase
import GridTalk.Text.Case

/-!
# Reading instructions

An instruction is a line of text.  It is looked through for six phrases in a fixed order, and the
first phrase that is found decides what is asked for, even if its operands turn out to be unusable.

* `Instruction.ofText`: the trimmed text and the same in lower case.
* `IntentKind.phrase`: the phrase of each kind of edit.
* `Intent.ofSegments`: the edit that a found phrase asks for.
* `Intent.ofInstruction`: the edit that an instruction asks for.

The phrase for adjustments is looked for in the text in lower case, the others in the text as typed.
-/

namespace GridTalk

/-- An instruction without blanks at its ends, as typed and in lower case. -/
structure Instruction where
  typed : String
  lowered : String
  deriving DecidableEq, Repr

/-- The instruction with this text, unless the text is blank. -/
def Instruction.ofText (text : String) : Except SheetError Instruction :=
  let s := Text.trim text.toList
  if s = [] then .error .emptyInstruction
  else .ok ⟨String.ofList s, String.ofList (Text.lower s)⟩

namespace IntentKind

/-- The kinds in the order in which their phrases are tried. -/
def all : List IntentKind :=
  [setCell, adjustColumn, addColumn, fillColumn, renameColumn, clearColumn]

/-- The phrase that asks for an edit of this kind. -/
def phrase : IntentKind → Phrase
  | setCell =>
    ⟨true, [.word ["set", "update"], .blanks, .word ["cell"], .blanks, .operand .letters,
      .operand .digits, .blanks, .word ["to", "as"], .blanks, .operand .line]⟩
  | adjustColumn =>
    ⟨false, [.word (Adjustment.all.map Adjustment.word), .blanks, .word ["column"], .blanks,
      .operand .letters, .blanks, .word ["by", "with"], .blanks, .operand .amount]⟩
  | addColumn =>
    ⟨true, [.word ["add"], .blanks, .word ["column"], .blanks, .operand .letters, .blanks,
      .word ["as", "with"], .blanks, .word ["sum", "total", "difference", "value"], .blanks,
      .word ["of"], .blanks, .operand .letters, .blanks, .word ["and", "minus"], .blanks,
      .operand .letters]⟩
  | fillColumn =>
    ⟨true, [.word ["fill"], .blanks, .maybe "empty", .word ["cells", "cell"], .blanks, .maybe "in",
      .word ["column"], .blanks, .operand .letters, .blanks, .word ["with", "using"], .blanks,
      .operand .line]⟩
  | renameColumn =>
    ⟨true, [.word ["rename"], .blanks, .word ["column"], .blanks, .operand .letters, .blanks,
      .word ["to", "as"], .blanks, .operand .line]⟩
  | clearColumn =>
    ⟨true, [.word ["clear"], .blanks, .word ["column"], .blanks, .operand .letters]⟩

/-- The text that the phrase of this kind is looked for in. -/
def source (kind : IntentKind) (instruction : Instruction) : String :=
  if kind.phrase.anyCase then instruction.typed else instruction.lowered

end IntentKind

/-- The column with these letters. -/
def columnOf (letters : List Char) : Except SheetError Nat := Column.ofLabel (String.ofList letters)

/-- Does a text, put in lower case, have the word `minus` in it? -/
def mentionsMinus (s : List Char) : Bool := Text.hasInfix "minus".toList (Text.lower s)

namespace Intent

/-- The edit that the segments of a phrase ask for.  A sum turns into a difference when the word
`minus` is found anywhere in the phrase. -/
def ofSegments (kind : IntentKind) (segments : List (List Char)) : Except SheetError Intent :=
  match kind, segments with
  | .setCell, [_, _, _, _, letters, digits, _, _, _, expression] => do
    let target ← Coord.ofParts (String.ofList letters) (String.ofList digits)
    return setCell target (String.ofList expression)
  | .adjustColumn, [verb, _, _, _, letters, _, _, _, amount] =>
    match Adjustment.ofWord? (String.ofList verb) with
    | none => .error (.unrecognized (String.ofList segments.flatten))
    | some action => do
      let column ← columnOf letters
      return adjustColumn action column (String.ofList amount)
  | .addColumn, [_, _, _, _, target, _, _, _, _, _, _, _, left, _, _, _, right] => do
    let target ← columnOf target
    let left ← columnOf left
    let right ← columnOf right
    return addColumn target left right (mentionsMinus segments.flatten)
  | .fillColumn, [_, _, _, _, _, _, _, _, letters, _, _, _, expression] => do
    let column ← columnOf letters
    return fillColumn column (String.ofList expression)
  | .renameColumn, [_, _, _, _, letters, _, _, _, title] => do
    let column ← columnOf letters
    return renameColumn column (String.ofList (Text.trim title))
  | .clearColumn, [_, _, _, _, letters] => do
    let column ← columnOf letters
    return clearColumn column
  | _, _ => .error (.unrecognized (String.ofList segments.flatten))

/-- The phrase of one kind in an instruction, at its leftmost place. -/
def find? (instruction : Instruction) (kind : IntentKind) : Option (IntentKind × Finding) :=
  (kind.phrase.search? (kind.source instruction).toList).map (kind, ·)

/-- The edit that an instruction asks for. -/
def ofInstruction (instruction : Instruction) : Except SheetError Intent :=
  match IntentKind.all.findSome? (find? instruction) with
  | some (kind, finding) => ofSegments kind finding.segments
  | none => .error (.unrecognized instruction.typed)

/-- The edit that a text asks for. -/
def ofText (text : String) : Except SheetError Intent := do
  ofInstruction (← Instruction.ofText text)

end Intent

end GridTalk
