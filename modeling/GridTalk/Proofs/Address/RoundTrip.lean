import GridTalk.Address
import GridTalk.Proofs.Decimal.Digits
import Mathlib.Data.List.Induction

/-!
# Addresses, written and read

The letters of a number are capitals, and reading them gives the number back.  Letters in any case
that are read as a number are, as capitals, the letters of that number.

* `Column.letters_number`: the letters of the number that letters stand for.
* `Column.ofLabel_label`, `Column.label_of_ofLabel`: a column's label, written and read.
* `Row.ofNumber_toString`: a row's number, written and read.
* `Column.lt_of_ofLabel`, `Row.lt_of_ofNumber`: there is room behind every index that was read.
* `Coord.ofParts_a1`: a position, written and read.
-/

namespace GridTalk

open Text

namespace Column

/-- The capital of an ASCII letter is the one that its value picks. -/
theorem ofNat_letterValue {c : Char} (h : c.isAlpha) :
    letterValue c - 1 < 26 ∧ 0 < letterValue c ∧
      Char.ofNat ('A'.toNat + (letterValue c - 1)) = c.toUpper := by
  have hall : ∀ c : Char, c.toNat < 128 → c.isAlpha → letterValue c - 1 < 26 ∧
      0 < letterValue c ∧ Char.ofNat ('A'.toNat + (letterValue c - 1)) = c.toUpper :=
    forall_ascii (by decide)
  exact hall c (lt_of_isAlpha h) h

theorem number_pos {s : List Char} (h : s ≠ []) : 0 < number s := by
  induction s using List.reverseRecOn with
  | nil => exact absurd rfl h
  | append_singleton s c =>
    rw [number_append_singleton, letterValue]
    omega

/-- The letters of the number that letters stand for are these letters as capitals. -/
theorem letters_number {s : List Char} (h : ∀ c ∈ s, c.isAlpha) :
    letters (number s) = s.map Char.toUpper := by
  induction s using List.reverseRecOn with
  | nil =>
    rw [letters]
    rfl
  | append_singleton s c ih =>
    obtain ⟨hlt, hpos, hc⟩ := ofNat_letterValue (h c (by simp))
    have hs := ih fun d hd => h d (List.mem_append_left _ hd)
    rw [number_append_singleton, letters, if_neg (by omega),
      show (26 * number s + letterValue c - 1) / 26 = number s by omega,
      show (26 * number s + letterValue c - 1) % 26 = letterValue c - 1 by omega, hs, hc,
      List.map_append]
    rfl

theorem isUpper_of_mem_letters {n : Nat} {c : Char} (h : c ∈ letters n) : c.isUpper := by
  induction n using Nat.strongRecOn with
  | _ n ih =>
    rw [letters] at h
    split at h
    · cases h
    · rcases List.mem_append.1 h with h | h
      · exact ih _ (by omega) h
      · have hall : ∀ k < 26, (Char.ofNat ('A'.toNat + k)).isUpper := by decide
        rw [List.mem_singleton.1 h]
        exact hall _ (Nat.mod_lt _ (by omega))

theorem letters_ne_nil {n : Nat} (h : n ≠ 0) : letters n ≠ [] := by
  rw [letters, if_neg h]
  simp

/-- One letter more reaches 26 times as far, and 26 beyond. -/
theorem length_letters_le_succ {m k : Nat} (h : ∀ n ≤ m, (letters n).length ≤ k) :
    ∀ n ≤ 26 * m + 26, (letters n).length ≤ k + 1 := by
  intro n hn
  rw [letters]
  split
  · simp
  · have hrest := h ((n - 1) / 26) (by omega)
    simpa using hrest

/-- The labels of 18278 columns have at most three letters. -/
theorem length_letters_le {n : Nat} (h : n ≤ 18278) : (letters n).length ≤ 3 := by
  have hzero : ∀ n ≤ 0, (letters n).length ≤ 0 := by
    intro n hn
    rw [letters, if_pos (by omega)]
    rfl
  exact length_letters_le_succ (length_letters_le_succ (length_letters_le_succ hzero)) n (by omega)

theorem toList_label (i : Nat) : (label i).toList = letters (i + 1) := String.toList_ofList

/-! ### Labels -/

/-- A label is made of letters. -/
theorem isRun_label (i : Nat) : IsRun Char.isAlpha (label i).toList := by
  rw [toList_label]
  exact ⟨letters_ne_nil (by omega), fun c hc => isAlpha_iff.2 (.inl (isUpper_of_mem_letters hc))⟩

theorem isAlpha_of_mem_label {i : Nat} {c : Char} (h : c ∈ (label i).toList) : c.isAlpha :=
  (isRun_label i).2 c h

theorem isWord_label (i : Nat) : IsWord (label i).toList :=
  isWord_of_isAlpha (isRun_label i)

/-- **A column's label is read** as that column. -/
theorem ofLabel_label {i : Nat} (h : i < maxNumber) : ofLabel (label i) = .ok i := by
  have hword := isWord_label i
  rw [ofLabel, trim_of_isWord hword, if_pos]
  · rw [toList_label, number_letters]
    rfl
  · refine ⟨hword.1, List.all_eq_true.2 fun c hc => isAlpha_of_mem_label hc, ?_⟩
    rw [toList_label, number_letters]
    omega

/-- There is room behind every column that was read. -/
theorem lt_of_ofLabel {label : String} {col : Nat} (h : ofLabel label = .ok col) :
    col < maxNumber := by
  dsimp only [ofLabel] at h
  split at h
  · next hs =>
    have hpos := number_pos hs.1
    cases h
    omega
  · cases h

/-- However far to the right a column is, its label is read as no other one. -/
theorem eq_of_ofLabel_label {i j : Nat} (h : ofLabel (label i) = .ok j) : j = i := by
  dsimp only [ofLabel] at h
  split at h
  · cases h
    rw [trim_of_isWord (isWord_label i), toList_label, number_letters]
    rfl
  · cases h

/-- **A label that is read** as a column is, in capitals, the label of this column. -/
theorem label_of_ofLabel {s : String} {i : Nat} (h : ofLabel s = .ok i) :
    (label i).toList = (trim s.toList).map Char.toUpper := by
  dsimp only [ofLabel] at h
  split at h
  · next hs =>
    obtain ⟨hne, hall, -⟩ := hs
    cases h
    rw [List.all_eq_true] at hall
    rw [toList_label, Nat.sub_add_cancel (number_pos hne), letters_number hall]
  · cases h

end Column

namespace Row

theorem toList_toString (n : Nat) : (toString n).toList = Nat.toDigits 10 n := Nat.toList_repr

/-- A number is made of digits. -/
theorem isRun_toString (n : Nat) : IsRun Char.isDigit (toString n).toList := by
  rw [toList_toString]
  exact ⟨Nat.toDigits_ne_nil, fun c hc => Nat.isDigit_of_mem_toDigits (by omega) (by omega) hc⟩

theorem isDigit_of_mem_toString {n : Nat} {c : Char} (h : c ∈ (toString n).toList) : c.isDigit :=
  (isRun_toString n).2 c h

theorem isWord_toString (n : Nat) : IsWord (toString n).toList :=
  isWord_of_isDigit (isRun_toString n)

theorem naturalOf_toString (n : Nat) : Numeral.naturalOf (toString n).toList = n := by
  rw [toList_toString, Numeral.naturalOf_toDigits]

/-- **A row's number is read** as that row. -/
theorem ofNumber_toString {r : Nat} (h : r < maxNumber) : ofNumber (toString (r + 1)) = .ok r := by
  have hword := isWord_toString (r + 1)
  rw [ofNumber, trim_of_isWord hword, naturalOf_toString, if_pos]
  · rfl
  · exact ⟨hword.1, List.all_eq_true.2 fun c hc => isDigit_of_mem_toString hc, by omega, by omega⟩

/-- There is room behind every row that was read. -/
theorem lt_of_ofNumber {digits : String} {row : Nat} (h : ofNumber digits = .ok row) :
    row < maxNumber := by
  dsimp only [ofNumber] at h
  split at h
  · cases h
    omega
  · cases h

theorem eq_of_ofNumber_toString {r q : Nat} (h : ofNumber (toString (r + 1)) = .ok q) : q = r := by
  dsimp only [ofNumber] at h
  split at h
  · cases h
    rw [trim_of_isWord (isWord_toString (r + 1)), naturalOf_toString]
    rfl
  · cases h

end Row

namespace Coord

theorem toList_a1 (p : Coord) :
    p.a1.toList = (Column.label p.col).toList ++ (toString (p.row + 1)).toList :=
  String.toList_append

/-- **A position is read** from its spelling. -/
theorem ofParts_a1 {p : Coord} (hrow : p.row < maxNumber) (hcol : p.col < maxNumber) :
    ofParts (Column.label p.col) (toString (p.row + 1)) = .ok p := by
  rw [ofParts, Column.ofLabel_label hcol, Row.ofNumber_toString hrow]

/-- A spelling that is read at all is read as the position it spells. -/
theorem eq_of_ofParts_a1 {p q : Coord}
    (h : ofParts (Column.label p.col) (toString (p.row + 1)) = .ok q) : q = p := by
  obtain ⟨hcol, hrow⟩ := ofParts_eq_ok.1 h
  have hcols : q.col = p.col := Column.eq_of_ofLabel_label hcol
  have hrows : q.row = p.row := Row.eq_of_ofNumber_toString hrow
  cases p
  cases q
  simp_all

end Coord

end GridTalk
