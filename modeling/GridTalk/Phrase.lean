import GridTalk.Text.Blank
import GridTalk.Text.WordChar

/-!
# Phrases

A phrase is a sequence of pieces: fixed words, blanks between them and operands.  It is looked for
anywhere in a text.

* `Piece`, `Phrase`: what a phrase is made of.
* `Piece.Spelled`: which texts a piece stands for.
* `Phrase.matchAt?`: the phrase at the start of a text, piece by piece.  Every piece takes as much
  as it can and gives characters back, one at a time, if the rest of the phrase cannot be matched.
* `Phrase.search?`: the leftmost place where the phrase is found.
-/

namespace GridTalk

open Text

/-- The kinds of operand, each a longest possible run of at least one character. -/
inductive Operand
  /-- A column's letters. -/
  | letters
  /-- A row's digits. -/
  | digits
  /-- An amount: word characters, spaces, points and the signs of arithmetic. -/
  | amount
  /-- The rest of the line. -/
  | line
  deriving DecidableEq, Repr

/-- What a phrase is made of. -/
inductive Piece
  /-- One of several words, tried in this order. -/
  | word (choices : List String)
  /-- Blanks, at least one. -/
  | blanks
  /-- A word and blanks, which can both be missing. -/
  | maybe (word : String)
  /-- An operand. -/
  | operand (kind : Operand)
  deriving DecidableEq, Repr

/-- A sequence of pieces.  The words are in small letters, and with `anyCase` they match in any
case. -/
structure Phrase where
  anyCase : Bool
  pieces : List Piece
  deriving DecidableEq, Repr

/-- Does a character of the text stand for this letter of a word?  In any case the Kelvin sign
stands for k and the long s for s as well. -/
def letterAgrees (anyCase : Bool) (letter c : Char) : Bool :=
  if anyCase then
    c.toLower == letter || (letter == 'k' && c == '\u212a') || (letter == 's' && c == '\u017f')
  else c == letter

/-- Does a text spell this word and nothing more? -/
def spellsWord (anyCase : Bool) (word s : List Char) : Bool :=
  word.length == s.length && (word.zip s).all fun p => letterAgrees anyCase p.1 p.2

/-- Can a character be part of the operand?  Without `anyCase` column letters are small. -/
def Operand.accepts (anyCase : Bool) : Operand → Char → Bool
  | letters, c => if anyCase then c.isAlpha else c.isLower
  | digits, c => c.isDigit
  | amount, c => isWordChar c || " ./*+-".toList.contains c
  | line, c => c != '\n'

/-- The texts that a piece stands for. -/
def Piece.Spelled (anyCase : Bool) : Piece → List Char → Prop
  | word choices, s => ∃ w ∈ choices, spellsWord anyCase w.toList s
  | blanks, s => s ≠ [] ∧ ∀ c ∈ s, isBlank c
  | maybe w, s =>
    s = [] ∨ ∃ t b, s = t ++ b ∧ spellsWord anyCase w.toList t ∧ b ≠ [] ∧ ∀ c ∈ b, isBlank c
  | operand k, s => s ≠ [] ∧ ∀ c ∈ s, k.accepts anyCase c

/-- The word at the start of a text and what follows it. -/
def wordHead? (anyCase : Bool) (word s : List Char) : Option (List Char × List Char) :=
  if spellsWord anyCase word (s.take word.length) then
    some (s.take word.length, s.drop word.length)
  else none

/-- The first success when `n`, `n - 1`, … and at last one character are taken from a text. -/
def longestFirst {α : Type} (next : List Char → List Char → Option α) (s : List Char) :
    Nat → Option α
  | 0 => none
  | n + 1 => next (s.take (n + 1)) (s.drop (n + 1)) <|> longestFirst next s n

/-- The first success when part of the run at the start of a text is taken, longer parts first. -/
def takeRun {α : Type} (accepts : Char → Bool) (next : List Char → List Char → Option α)
    (s : List Char) : Option α :=
  longestFirst next s (s.takeWhile accepts).length

/-- The pieces at the start of a text: the segments that they take, and what is left. -/
def matchPieces (anyCase : Bool) : List Piece → List Char → Option (List (List Char) × List Char)
  | [], s => some ([], s)
  | .word choices :: ps, s =>
    choices.findSome? fun w =>
      (wordHead? anyCase w.toList s).bind fun (t, r) =>
        (matchPieces anyCase ps r).map fun (ts, u) => (t :: ts, u)
  | .blanks :: ps, s =>
    takeRun isBlank (fun t r => (matchPieces anyCase ps r).map fun (ts, u) => (t :: ts, u)) s
  | .maybe w :: ps, s =>
    ((wordHead? anyCase w.toList s).bind fun (t, r) =>
        takeRun isBlank
          (fun b r => (matchPieces anyCase ps r).map fun (ts, u) => ((t ++ b) :: ts, u)) r)
      <|> (matchPieces anyCase ps s).map fun (ts, u) => ([] :: ts, u)
  | .operand k :: ps, s =>
    takeRun (k.accepts anyCase)
      (fun t r => (matchPieces anyCase ps r).map fun (ts, u) => (t :: ts, u)) s

/-- A place where a phrase was found: what stands before it, what each piece took, and what stands
after it. -/
structure Finding where
  before : List Char
  segments : List (List Char)
  after : List Char

/-- The text of the phrase itself. -/
def Finding.text (f : Finding) : List Char := f.segments.flatten

namespace Phrase

/-- The phrase at the start of a text. -/
def matchAt? (p : Phrase) (s : List Char) : Option (List (List Char) × List Char) :=
  matchPieces p.anyCase p.pieces s

/-- The leftmost place of the phrase in a text, of which `before` has been passed in vain and is
given from its end to its start. -/
def searchFrom? (p : Phrase) (before : List Char) : List Char → Option Finding
  | [] => (p.matchAt? []).map fun (ts, u) => ⟨before.reverse, ts, u⟩
  | c :: r =>
    match p.matchAt? (c :: r) with
    | some (ts, u) => some ⟨before.reverse, ts, u⟩
    | none => p.searchFrom? (c :: before) r

/-- The leftmost place of the phrase in a text. -/
def search? (p : Phrase) (s : List Char) : Option Finding := p.searchFrom? [] s

end Phrase

end GridTalk
