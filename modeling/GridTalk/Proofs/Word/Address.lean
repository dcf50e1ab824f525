import GridTalk.Proofs.Address.RoundTrip
import GridTalk.Proofs.Word.Basic

/-!
# Addresses in machine words

A label or a row number is as long as its author likes.  What is read from it is an index that has a
next one in a word of 64 bits, and whatever cannot be counted there is refused on the way.

* `ofLabel`, `ofNumber`, `ofParts`, `columnOf`: reading, step by step.
* `letters`, `label`, `a1`: writing, with the column counted in 128 bits.
* `ofLabel_eq_lift`, `ofNumber_eq_lift`, `label_eq`, `a1_eq`: none of this leaves the words.
-/

namespace GridTalk.Word

/-! ### Reading -/

/-- A letter more, unless the number gets too great. -/
def addLetter (label : String) (n : Nat) (c : Char) : Checked Nat :=
  if c.isAlpha then do
    let shifted ← bounded (.column label) (26 * n)
    bounded (.column label) (shifted + Column.letterValue c)
  else .error (.failed (.column label))

/-- The index of the column with this label. -/
def ofLabel (label : String) : Checked Nat := do
  let s := Text.trim label.toList
  if s = [] then throw (.failed (.column label))
  let n ← s.foldlM (addLetter label) 0
  return (← pred n).1

/-- The index of the row with this number. -/
def ofNumber (digits : String) : Checked Nat :=
  let s := Text.trim digits.toList
  if s ≠ [] ∧ s.all Char.isDigit then do
    let n ← bounded (.row digits) (Numeral.naturalOf s)
    if 1 ≤ n then return (← pred n).1
    else .error (.failed (.row digits))
  else .error (.failed (.row digits))

/-- The position with these column letters and this row number. -/
def ofParts (letters digits : String) : Checked Coord := do
  let col ← ofLabel letters
  let row ← ofNumber digits
  return ⟨row, col⟩

/-- The column with these letters. -/
def columnOf (letters : List Char) : Checked Nat := ofLabel (String.ofList letters)

/-- Both checks together are one check of the number with the letter. -/
theorem addLetter_eq (label : String) (n : Nat) (c : Char) :
    addLetter label n c
      = if c.isAlpha ∧ 26 * n + Column.letterValue c ≤ maxNumber
        then .ok (26 * n + Column.letterValue c) else .error (.failed (.column label)) := by
  have hmax : maxNumber = 2 ^ 64 - 1 := rfl
  unfold addLetter bounded
  by_cases hc : c.isAlpha
  · rw [if_pos hc]
    by_cases hshifted : 26 * n < 2 ^ 64
    · rw [if_pos hshifted, ok_bind]
      by_cases hnext : 26 * n + Column.letterValue c < 2 ^ 64
      · rw [if_pos hnext, if_pos ⟨hc, by omega⟩]
      · rw [if_neg hnext, if_neg (by omega)]
    · rw [if_neg hshifted, error_bind, if_neg (by omega)]
  · rw [if_neg hc, if_neg fun h => hc h.1]

theorem le_foldl_letterValue (s : List Char) (n : Nat) :
    n ≤ s.foldl (fun n c => 26 * n + Column.letterValue c) n := by
  induction s generalizing n with
  | nil => exact Nat.le_refl n
  | cons c s ih =>
    have hrest := ih (26 * n + Column.letterValue c)
    rw [List.foldl_cons]
    omega

/-- The number only grows, so that it is enough to look at the end. -/
theorem foldlM_addLetter (label : String) (s : List Char) {n : Nat} (hn : n ≤ maxNumber) :
    s.foldlM (addLetter label) n
      = if s.all Char.isAlpha ∧ s.foldl (fun n c => 26 * n + Column.letterValue c) n ≤ maxNumber
        then .ok (s.foldl (fun n c => 26 * n + Column.letterValue c) n)
        else .error (.failed (.column label)) := by
  induction s generalizing n with
  | nil => simp [hn, pure, Except.pure]
  | cons c s ih =>
    have hgrow := le_foldl_letterValue s (26 * n + Column.letterValue c)
    rw [List.foldlM_cons, List.foldl_cons, List.all_cons, addLetter_eq]
    by_cases hnext : c.isAlpha ∧ 26 * n + Column.letterValue c ≤ maxNumber
    · rw [if_pos hnext, ok_bind, ih hnext.2, hnext.1, Bool.true_and]
    · rw [if_neg hnext, error_bind, if_neg]
      rintro ⟨hall, hle⟩
      exact hnext ⟨(Bool.and_eq_true_iff.1 hall).1, Nat.le_trans hgrow hle⟩

/-- Reading a label never leaves the words. -/
theorem ofLabel_eq_lift (label : String) : ofLabel label = lift (Column.ofLabel label) := by
  dsimp only [ofLabel, Column.ofLabel]
  by_cases hne : Text.trim label.toList = []
  · rw [if_pos hne, if_neg fun h => h.1 hne]
    rfl
  · rw [if_neg hne, foldlM_addLetter label _ (Nat.zero_le _), ← Column.number]
    simp only [ne_eq, hne, not_false_iff, true_and]
    split
    · rw [ok_bind, pred_of_pos (Column.number_pos hne)]
      rfl
    · rfl

/-- Reading a row number never leaves the words. -/
theorem ofNumber_eq_lift (digits : String) : ofNumber digits = lift (Row.ofNumber digits) := by
  have hmax : maxNumber = 2 ^ 64 - 1 := rfl
  dsimp only [ofNumber, Row.ofNumber]
  generalize Text.trim digits.toList = s
  by_cases hs : s ≠ [] ∧ s.all Char.isDigit
  · rw [if_pos hs, bounded]
    by_cases hword : Numeral.naturalOf s < 2 ^ 64
    · rw [if_pos hword, ok_bind]
      by_cases hpos : 1 ≤ Numeral.naturalOf s
      · rw [if_pos hpos, pred_of_pos hpos, if_pos ⟨hs.1, hs.2, hpos, by omega⟩]
        rfl
      · rw [if_neg hpos, if_neg fun h => hpos h.2.2.1]
        rfl
    · rw [if_neg hword, if_neg fun h => hword (by omega)]
      rfl
  · rw [if_neg hs, if_neg fun h => hs ⟨h.1, h.2.1⟩]
    rfl

theorem ofParts_eq_lift (letters digits : String) :
    ofParts letters digits = lift (Coord.ofParts letters digits) := by
  rw [ofParts, Coord.ofParts, ofLabel_eq_lift, ofNumber_eq_lift]
  cases Column.ofLabel letters with
  | error e => rfl
  | ok col => cases Row.ofNumber digits <;> rfl

/-! ### Writing -/

/-- The letters of column number `n`. -/
def letters (n : Nat) : Checked (List Char) :=
  if n = 0 then .ok []
  else do
    let ⟨m, _⟩ ← pred n
    let front ← letters (m / 26)
    return front ++ [Char.ofNat ('A'.toNat + m % 26)]
termination_by n
decreasing_by omega

/-- The letters of the column with this index, which is counted in 128 bits. -/
def label (index : Nat) : Checked String := do
  let n ← succ 128 index
  return String.ofList (← letters n)

/-- The usual spelling of a position. -/
def a1 (p : Coord) : Checked String := do
  let letters ← label p.col
  let row ← succ 64 p.row
  return letters ++ toString row

theorem letters_eq (n : Nat) : letters n = .ok (Column.letters n) := by
  induction n using Nat.strongRecOn with
  | _ n ih =>
    rw [letters, Column.letters]
    split
    · rfl
    · next hn =>
      rw [pred_of_pos (by omega), ok_bind]
      dsimp only
      rw [ih _ (by omega)]
      rfl

theorem label_eq {index : Nat} (h : index ≤ maxNumber) :
    label index = .ok (Column.label index) := by
  have hmax : maxNumber = 2 ^ 64 - 1 := rfl
  rw [label, succ_of_lt (by omega), ok_bind, letters_eq]
  rfl

theorem a1_eq {p : Coord} (hrow : p.row < maxNumber) (hcol : p.col ≤ maxNumber) :
    a1 p = .ok p.a1 := by
  have hmax : maxNumber = 2 ^ 64 - 1 := rfl
  rw [a1, label_eq hcol, ok_bind, succ_of_lt (by omega), ok_bind]
  rfl

end GridTalk.Word
