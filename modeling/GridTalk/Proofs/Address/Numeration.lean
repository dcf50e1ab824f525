import GridTalk.Proofs.Word.Address
import Mathlib.Data.Nat.Digits.Defs

/-!
# Columns and rows, counted

The letters of a column are the digits of its number in base 26.  The digits are worth 1 to 26, and
since none of them is zero, each number has one spelling.  Rows have decimal numbers, which can be
written with zeros in front.

* `Column.number_eq_ofDigits`: reading from left to right gives the number with these digits.
* `Column.ofLabel_eq_ok_iff_number`, `Row.ofNumber_eq_ok_iff_number`: the texts that are read.
* `Row.IsNumber`, `Column.IsLabel`: the same texts, told without the readers.
* `Column.ofLabel_eq_ok_iff_digits`: which texts are labels, and of which columns.
-/

namespace GridTalk

open Text

/-! ### Rows -/

namespace Row

/-- Digits whose number is neither zero nor too great are a row number, and so is no other text. -/
theorem ofNumber_eq_ok_iff_number {s : String} {row : Nat} :
    ofNumber s = .ok row ↔ IsRun Char.isDigit (trim s.toList) ∧
      row + 1 = Numeral.naturalOf (trim s.toList) ∧
      Numeral.naturalOf (trim s.toList) ≤ maxNumber := by
  rw [ofNumber]
  constructor
  · intro h
    split at h
    · next hs =>
      obtain ⟨hne, hall, hpos, hle⟩ := hs
      rw [Except.ok.injEq] at h
      exact ⟨⟨hne, List.all_eq_true.1 hall⟩, by omega, hle⟩
    · cases h
  · rintro ⟨⟨hne, hall⟩, hrow, hle⟩
    rw [if_pos ⟨hne, List.all_eq_true.2 hall, by omega, hle⟩, ← hrow]
    rfl

/-- The text is ASCII digits, and their decimal number is not zero and can be counted. -/
def IsNumber (ds : List Char) : Prop :=
  IsRun Char.isDigit ds ∧ 0 < Nat.ofDigitChars 10 ds 0 ∧ Nat.ofDigitChars 10 ds 0 ≤ maxNumber

/-- The row numbers are the texts that are read as rows. -/
theorem isNumber_iff {s : String} (htrim : trim s.toList = s.toList) :
    IsNumber s.toList ↔ ∃ row, ofNumber s = .ok row := by
  simp only [ofNumber_eq_ok_iff_number, htrim]
  constructor
  · rintro ⟨hdigits, hpos, hle⟩
    exact ⟨_, hdigits, Nat.sub_add_cancel hpos, hle⟩
  · rintro ⟨row, hdigits, hrow, hle⟩
    exact ⟨hdigits, Nat.lt_of_lt_of_eq (Nat.succ_pos row) hrow, hle⟩

end Row

/-! ### Columns -/

namespace Column

/-- Letters whose number is not too great are a label, and so is no other text. -/
theorem ofLabel_eq_ok_iff_number {s : String} {col : Nat} :
    ofLabel s = .ok col ↔ IsRun Char.isAlpha (trim s.toList) ∧
      col + 1 = number (trim s.toList) ∧ number (trim s.toList) ≤ maxNumber := by
  rw [ofLabel]
  constructor
  · intro h
    split at h
    · next hs =>
      obtain ⟨hne, hall, hle⟩ := hs
      have hpos := number_pos hne
      rw [Except.ok.injEq] at h
      exact ⟨⟨hne, List.all_eq_true.1 hall⟩, by omega, hle⟩
    · cases h
  · rintro ⟨⟨hne, hall⟩, hcol, hle⟩
    rw [if_pos ⟨hne, List.all_eq_true.2 hall, hle⟩, ← hcol]
    rfl

/-- Read from left to right, letters stand for the number whose digits they are. -/
theorem number_eq_ofDigits (s : List Char) :
    number s = Nat.ofDigits 26 (s.map letterValue).reverse := by
  induction s using List.reverseRecOn with
  | nil => rfl
  | append_singleton s c ih =>
    rw [number_append_singleton, List.map_append, List.reverse_append, ih]
    show _ = Nat.ofDigits 26 (letterValue c :: (s.map letterValue).reverse)
    rw [Nat.ofDigits_cons, Nat.add_comm]

/-- The text is ASCII letters with blanks around them or not, and the number whose digits they are
in base 26 can be counted. -/
def IsLabel (s : List Char) : Prop :=
  IsRun Char.isAlpha (trim s) ∧
    Nat.ofDigits 26 ((trim s).map letterValue).reverse ≤ maxNumber

/-- The labels are the texts that are read as columns. -/
theorem isLabel_iff {s : String} : IsLabel s.toList ↔ ∃ col, ofLabel s = .ok col := by
  simp only [ofLabel_eq_ok_iff_number, IsLabel, ← number_eq_ofDigits]
  constructor
  · rintro ⟨hletters, hle⟩
    exact ⟨_, hletters, Nat.sub_add_cancel (number_pos hletters.1), hle⟩
  · rintro ⟨col, hletters, -, hle⟩
    exact ⟨hletters, hle⟩

/-- **Columns and labels answer to each other.**  Each column that can be counted is read from its
own label.  The labels are the texts of ASCII letters in either case, with blanks around them or
not, whose number in base 26 can be counted; they are, in capitals, the labels of the columns they
are read as, and any other text is refused as it was given.  Counting letter by letter in words of
64 bits comes to the same, however long the label is. -/
theorem ofLabel_eq_ok_iff_digits :
    (∀ col < 2 ^ 64 - 1, ofLabel (label col) = .ok col) ∧
    ∀ s : String,
      let letters := trim s.toList
      let n := Nat.ofDigits 26 (letters.map letterValue).reverse
      (∀ col, ofLabel s = .ok col ↔
        IsRun Char.isAlpha letters ∧ col + 1 = n ∧ n ≤ 2 ^ 64 - 1) ∧
      (∀ col, ofLabel s = .ok col → label col = String.ofList (letters.map Char.toUpper)) ∧
      ((∀ col, ofLabel s ≠ .ok col) → ofLabel s = .error (.invalidReference .column s)) ∧
      Word.ofLabel s = Word.lift (ofLabel s) := by
  refine ⟨fun col hcol => ofLabel_label hcol, fun s => ?_⟩
  intro letters n
  have hn : n = number letters := (number_eq_ofDigits letters).symm
  refine ⟨fun col => ?_, fun col hcol => ?_, fun hnone => ?_, Word.ofLabel_eq_lift s⟩
  · rw [hn]
    exact ofLabel_eq_ok_iff_number
  · rw [← label_of_ofLabel hcol, String.ofList_toList]
  · cases h : ofLabel s with
    | ok col => exact absurd h (hnone col)
    | error e => rw [ofLabel_error h]

/-- Two letters in different case with a blank behind them, the last column that can be counted, and
letters that are too many. -/
theorem ofLabel_eq_ok_iff_digits_long :
    18446744073709551614 < 2 ^ 64 - 1 ∧ ofLabel "zZ " = .ok 701 ∧ label 701 = "ZZ" ∧
      ofLabel (label 18446744073709551614) = .ok 18446744073709551614 ∧
      ofLabel "zzzzzzzzzzzzzz" = .error (.column "zzzzzzzzzzzzzz") := by
  obtain ⟨hround, hread⟩ := ofLabel_eq_ok_iff_digits
  have hletters : ofLabel "zZ " = .ok 701 := ((hread "zZ ").1 701).2
    ⟨⟨by decide, by decide⟩, by decide, by decide⟩
  have hlabel : label 701 = "ZZ" := ((hread _).2.1 701 hletters).trans (by decide)
  refine ⟨by decide, hletters, hlabel, hround _ (by decide), ?_⟩
  refine (hread _).2.2.1 fun col hcol => ?_
  obtain ⟨-, -, hle⟩ := ((hread _).1 col).1 hcol
  revert hle
  decide

end Column

end GridTalk
