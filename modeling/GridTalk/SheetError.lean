/-!
# What can go wrong with an instruction

* `SheetError`: the causes, each with what the message needs.
* `SheetError.code`: the name of a cause for programs.
* `SheetError.message`: the sentence for people.
-/

namespace GridTalk

/-- The part of an address that was refused. -/
inductive ReferenceKind
  | column
  | row
  | cell
  deriving DecidableEq, Repr

/-- The word for the part of the address. -/
def ReferenceKind.word : ReferenceKind → String
  | column => "column"
  | row => "row"
  | cell => "cell"

/-- The causes of failure.  Each ends the whole instruction. -/
inductive SheetError
  /-- An address that cannot exist. -/
  | invalidReference (kind : ReferenceKind) (token : String)
  /-- The amount of an adjustment has no numeric value. -/
  | notNumeric (expression : String)
  /-- A column was to be divided by zero. -/
  | divisionByZero (column : String)
  /-- The instruction has none of the known forms. -/
  | unrecognized (instruction : String)
  /-- The instruction is blank. -/
  | emptyInstruction
  /-- There is no grid to work on. -/
  | noDataset
  /-- The text cannot be read, because a keyword in it would end inside a character. -/
  | splitCharacter
  deriving DecidableEq, Repr

namespace SheetError

/-- An unusable column label. -/
abbrev column (token : String) : SheetError := invalidReference .column token

/-- An unusable row number. -/
abbrev row (token : String) : SheetError := invalidReference .row token

/-- The name of the cause, for programs. -/
def code : SheetError → String
  | invalidReference .. => "INVALID_REFERENCE"
  | notNumeric _ => "NOT_NUMERIC"
  | divisionByZero _ => "DIVISION_BY_ZERO"
  | unrecognized _ => "UNRECOGNIZED"
  | emptyInstruction => "EMPTY_INSTRUCTION"
  | noDataset => "NO_DATASET"
  | splitCharacter => "SPLIT_CHARACTER"

/-- The sentence that tells the cause. -/
def message : SheetError → String
  | invalidReference kind token => "Invalid " ++ kind.word ++ " reference: " ++ token
  | notNumeric expression => "Expected a numeric value from \"" ++ expression ++ "\"."
  | divisionByZero _ => "Cannot divide by zero."
  | unrecognized _ => "Instruction not recognized. Try a simpler sentence."
  | emptyInstruction => "Instruction cannot be empty."
  | noDataset => "Upload a sheet before running instructions."
  | splitCharacter => "A keyword ends inside a character."

end SheetError

end GridTalk
