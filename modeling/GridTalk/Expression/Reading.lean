import GridTalk.Expression.Basic
import GridTalk.SheetError
import GridTalk.Decimal.Numeral
import GridTalk.Text.Case

/-!
# Reading expressions

The whole text, blanks at its ends dropped, has to have a shape; a text of no other shape is a
label, so that reading all but never fails.

* Each `…Head?` reads a piece from the front of a text and returns it with the rest.
* `Expression.shape?`: the shape of a text that is neither quoted nor a keyword nor a label.
* `Expression.ofText`: the expression of any text.

A keyword takes as many bytes from the text as it has letters.  The Kelvin sign is the letter k in
upper case but takes three bytes, so a text that spells a keyword with it cannot be divided after
the keyword, and is refused.
-/

namespace GridTalk.Expression

open Text

/-- The spaces that may stand around an operator. -/
def isSpace (c : Char) : Bool := c = ' ' || c = '\t' || c = '\r' || c = '\n'

/-- The words for nothing. -/
def keywords : List (List Char) :=
  ["blank".toList, "empty".toList, "null".toList, "none".toList]

/-- Does the text start with the word, letters being compared in lower case? -/
def startsWith (word s : List Char) : Bool :=
  word.length ≤ s.length && (word.zip s).all fun p => toLower p.1 == toLower p.2

/-- Is the text a word for nothing? -/
def isKeyword (s : List Char) : Bool :=
  keywords.any fun w => w.length == s.length && startsWith w s

/-- Does the text start with a keyword that has a letter of several bytes among its letters? -/
def splitsCharacter (s : List Char) : Bool :=
  keywords.any fun w => startsWith w s && (s.take w.length).any fun c => c.utf8Size > 1

/-- A text between two equal quotes; what is between them may hold quotes as well. -/
def quoted? : List Char → Option (List Char)
  | [] => none
  | q :: r =>
    if (q = '"' ∨ q = '\x27') ∧ r.getLast? = some q then some r.dropLast else none

/-- Letters at the front. -/
def lettersHead? (s : List Char) : Option (String × List Char) :=
  let (letters, r) := s.span Char.isAlpha
  if letters = [] then none else some (String.ofList letters, r)

/-- Letters and digits at the front. -/
def referenceHead? (s : List Char) : Option (Reference × List Char) :=
  (lettersHead? s).bind fun (letters, r) =>
    let (digits, r) := r.span Char.isDigit
    if digits = [] then none else some (⟨letters, String.ofList digits⟩, r)

/-- An operator at the front, with the spaces around it. -/
def operatorHead? (s : List Char) : Option (Operator × List Char) :=
  match s.dropWhile isSpace with
  | [] => none
  | c :: r => (Operator.ofSymbol? c).map (·, r.dropWhile isSpace)

/-- The point of a number, which may be a comma. -/
def isPoint (c : Char) : Bool := c = '.' || c = ','

/-- The text of a number without a sign at the front: digits, which a point and digits may follow,
or a point and digits. -/
def numberTextHead? (s : List Char) : Option (List Char × List Char) :=
  let (whole, r) := s.span Char.isDigit
  match r with
  | [] => if whole = [] then none else some (whole, [])
  | c :: t =>
    if isPoint c then
      let (part, u) := t.span Char.isDigit
      if whole = [] ∧ part = [] then none else some (whole ++ c :: part, u)
    else if whole = [] then none else some (whole, r)

/-- A finite number without a sign at the front. -/
def unsignedHead? (s : List Char) : Option (Float × List Char) :=
  (numberTextHead? s).bind fun (text, r) => (finiteOf? text).map (·, r)

/-- The value of a text that is a number, with or without a sign. -/
def signed? (s : List Char) : Option Float :=
  let (_, body) := Numeral.signOf s
  (unsignedHead? body).bind fun (_, r) => if r = [] then finiteOf? s else none

/-- What a reader makes of a whole text. -/
def whole? {α : Type} (read? : List Char → Option (α × List Char)) (s : List Char) : Option α :=
  (read? s).bind fun (a, r) => if r = [] then some a else none

/-- A left operand, an operator and a right operand. -/
def operationHead? {α β : Type} (left? : List Char → Option (α × List Char))
    (right? : List Char → Option (β × List Char)) (s : List Char) :
    Option ((α × Operator × β) × List Char) :=
  (left? s).bind fun (a, r) =>
    (operatorHead? r).bind fun (op, r) =>
      (right? r).map fun (b, r) => ((a, op, b), r)

/-- The expression that a whole text is, unless it is a quoted text, a keyword or a label. -/
def shape? (s : List Char) : Option Expression :=
  ((whole? referenceHead? s).map Expression.cell)
    <|> ((signed? s).map Expression.number)
    <|> ((whole? (operationHead? lettersHead? lettersHead?) s).map
          fun (l, op, r) => Expression.columns l op r)
    <|> ((whole? (operationHead? referenceHead? referenceHead?) s).map
          fun (l, op, r) => Expression.cells l op r)
    <|> ((whole? (operationHead? referenceHead? unsignedHead?) s).map
          fun (l, op, x) => Expression.cellNumber l op x)

/-- The expression of a text. -/
def ofText (text : String) : Except SheetError Expression :=
  let s := trim text.toList
  match quoted? s with
  | some inner => .ok (.quoted (String.ofList inner))
  | none =>
    if splitsCharacter s then .error .splitCharacter
    else if isKeyword s then .ok .blank
    else .ok ((shape? s).getD (.label (String.ofList s)))

end GridTalk.Expression
