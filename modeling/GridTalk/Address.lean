import GridTalk.SheetError
import GridTalk.Decimal.Numeral
import GridTalk.Text.Blank

/-!
# Addresses

Columns are counted in letters, A to Z, AA to AZ, and so on: a numeration in base 26 whose digits
are worth 1 to 26, so that it has no zero.  Rows are counted from 1.  Inside the library both are
counted from 0.

* `Column.label`, `Column.ofLabel`: a column's letters, written and read.
* `Row.ofNumber`: a row number, read.
* `Coord`: a position, with `Coord.a1` and `Coord.ofA1` for its usual spelling such as `B7`.
-/

namespace GridTalk

/-- The greatest number that a column label or a row number may stand for. -/
def maxNumber : Nat := UInt64.size - 1

namespace Column

/-- The letters of column number `n`, counted from 1. -/
def letters (n : Nat) : List Char :=
  if n = 0 then []
  else letters ((n - 1) / 26) ++ [Char.ofNat ('A'.toNat + (n - 1) % 26)]
termination_by n
decreasing_by omega

/-- The letters of the column with this index. -/
def label (index : Nat) : String := String.ofList (letters (index + 1))

/-- What a letter is worth: A and a are 1, Z and z are 26. -/
def letterValue (c : Char) : Nat := c.toUpper.toNat - 'A'.toNat + 1

/-- The number of the column with these letters, counted from 1. -/
def number (s : List Char) : Nat := s.foldl (fun n c => 26 * n + letterValue c) 0

theorem number_append_singleton (s : List Char) (c : Char) :
    number (s ++ [c]) = 26 * number s + letterValue c := by
  simp [number]

theorem letterValue_ofNat {k : Nat} (h : k < 26) :
    letterValue (Char.ofNat ('A'.toNat + k)) = k + 1 := by
  have all : ∀ k < 26, letterValue (Char.ofNat ('A'.toNat + k)) = k + 1 := by decide
  exact all k h

/-- The letters of a number stand for that number. -/
theorem number_letters (n : Nat) : number (letters n) = n := by
  induction n using Nat.strongRecOn with
  | _ n ih =>
    rw [letters]
    split
    · simp_all [number]
    · have digit := letterValue_ofNat (Nat.mod_lt (n - 1) (show 0 < 26 by omega))
      rw [number_append_singleton, ih _ (by omega), digit]
      omega

/-- The index of the column with this label.  Blanks around it are allowed; a label that is not
made of ASCII letters, or whose number is too great, is refused as it was given. -/
def ofLabel (label : String) : Except SheetError Nat :=
  let s := Text.trim label.toList
  if s ≠ [] ∧ s.all Char.isAlpha ∧ number s ≤ maxNumber then .ok (number s - 1)
  else .error (.column label)

theorem ofLabel_error {label : String} {e : SheetError} (h : ofLabel label = .error e) :
    e = .column label := by
  dsimp only [ofLabel] at h
  split at h
  · cases h
  · cases h
    rfl

end Column

/-- The index of the row with this number.  Blanks around it are allowed; a number that is not made
of ASCII digits, is zero or is too great is refused as it was given. -/
def Row.ofNumber (digits : String) : Except SheetError Nat :=
  let s := Text.trim digits.toList
  let n := Numeral.naturalOf s
  if s ≠ [] ∧ s.all Char.isDigit ∧ 1 ≤ n ∧ n ≤ maxNumber then .ok (n - 1)
  else .error (.row digits)

theorem Row.ofNumber_error {digits : String} {e : SheetError} (h : ofNumber digits = .error e) :
    e = .row digits := by
  dsimp only [ofNumber] at h
  split at h
  · cases h
  · cases h
    rfl

/-- A position in a grid, both indices counted from 0. -/
structure Coord where
  row : Nat
  col : Nat
  deriving DecidableEq, Repr

namespace Coord

/-- The position with these column letters and this row number; of two faults the column's is
reported. -/
def ofParts (letters digits : String) : Except SheetError Coord :=
  match Column.ofLabel letters with
  | .error e => .error e
  | .ok col =>
    match Row.ofNumber digits with
    | .error e => .error e
    | .ok row => .ok ⟨row, col⟩

theorem ofParts_eq_ok {letters digits : String} {p : Coord} :
    ofParts letters digits = .ok p ↔
      Column.ofLabel letters = .ok p.col ∧ Row.ofNumber digits = .ok p.row := by
  obtain ⟨row, col⟩ := p
  rw [ofParts]
  cases Column.ofLabel letters with
  | error e => simp
  | ok col' => cases Row.ofNumber digits <;> simp [and_comm]

/-- An address is refused for its letters or for its digits, and these are reported. -/
theorem ofParts_eq_error {letters digits : String} {e : SheetError}
    (h : ofParts letters digits = .error e) :
    (Column.ofLabel letters = .error e ∧ e = .column letters) ∨
      (Row.ofNumber digits = .error e ∧ e = .row digits) := by
  unfold ofParts at h
  split at h
  · next hletters =>
    cases h
    exact .inl ⟨hletters, Column.ofLabel_error hletters⟩
  · split at h
    · next hdigits =>
      cases h
      exact .inr ⟨hdigits, Row.ofNumber_error hdigits⟩
    · cases h

/-- The position that a text such as `b7` names: what stands before the first digit is the column,
and both parts must be there. -/
def ofA1 (address : String) : Except SheetError Coord :=
  let s := Text.trim address.toList
  let (letters, digits) := s.span fun c => !c.isDigit
  if letters = [] ∨ digits = [] then .error (.invalidReference .cell (String.ofList s))
  else ofParts (String.ofList letters) (String.ofList digits)

/-- The usual spelling of a position, such as `B7`. -/
def a1 (p : Coord) : String := Column.label p.col ++ toString (p.row + 1)

end Coord

end GridTalk
