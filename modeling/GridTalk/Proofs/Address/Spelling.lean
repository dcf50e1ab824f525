import GridTalk.Proofs.Address.Numeration

/-!
# The spelling of an address

A text such as `b7` is divided at its first digit.  What stands before it should be a label, and the
rest a row number; of two faults the label's is reported.

* `Parts`: a text of letters, blanks and digits.
* `Coord.ofA1_of_digit`, `Coord.ofA1_of_forall`: a text is divided, or there is no digit in it.
* `Coord.Fault`: what is wrong with any other text, and the error it is refused with.
* `Coord.ofA1_eq_ok_iff`: the texts that are read, and all others with their faults.
-/

namespace GridTalk

open Text

/-- The text is letters and digits, and between them there can be blanks. -/
structure Parts (t letters blanks digits : List Char) : Prop where
  text_eq : t = letters ++ (blanks ++ digits)
  letters : IsRun Char.isAlpha letters
  blanks : ∀ c ∈ blanks, isBlank c = true
  digits : IsRun Char.isDigit digits

namespace Coord

/-! ### The first digit -/

variable {s : String}

/-- A text without digits is no address. -/
theorem ofA1_of_forall (h : ∀ c ∈ trim s.toList, c.isDigit = false) :
    ofA1 s = .error (.invalidReference .cell (String.ofList (trim s.toList))) := by
  have hspan : (trim s.toList).span (fun c => !c.isDigit) = (trim s.toList, []) :=
    span_eq_iff.2 ⟨(List.append_nil _).symm, fun c hc => by simp [h c hc], by simp⟩
  rw [ofA1, hspan]
  exact if_pos (.inr rfl)

section Digit

variable {before r : List Char} {c : Char} (htext : trim s.toList = before ++ c :: r)
include htext

/-- A text is divided at its first digit. -/
theorem ofA1_of_digit (hbefore : ∀ d ∈ before, d.isDigit = false) (hc : c.isDigit = true) :
    ofA1 s = if before = [] then .error (.invalidReference .cell (String.ofList (trim s.toList)))
      else ofParts (String.ofList before) (String.ofList (c :: r)) := by
  have hspan : (trim s.toList).span (fun c => !c.isDigit) = (before, c :: r) :=
    span_eq_iff.2 ⟨htext, fun d hd => by simp [hbefore d hd], by simpa using hc⟩
  rw [ofA1, hspan]
  simp

/-- The row number of an address has no blanks at its ends. -/
theorem trim_behind (hc : c.isDigit = true) : trim (c :: r) = c :: r := by
  have hends : Trimmed (before ++ c :: r) := htext ▸ trimmed_trim s.toList
  refine trim_eq_self_iff.2 ⟨?_, fun d hd => hends.2 d ?_⟩
  · simpa using isBlank_of_isAlphanum (isAlphanum_of_isDigit hc)
  · rwa [List.getLast?_append_of_ne_nil _ (by simp)]

/-- The label of an address has at most blanks behind it. -/
theorem exists_blanks_behind_label (hne : before ≠ []) :
    ∃ blanks, before = trim before ++ blanks ∧ ∀ c ∈ blanks, isBlank c = true := by
  have hends : Trimmed (before ++ c :: r) := htext ▸ trimmed_trim s.toList
  refine exists_trim_append fun d hd => hends.1 d ?_
  rwa [head?_append_of_ne_nil hne]

end Digit

/-- Either there is no digit in a text, or there is a first one. -/
theorem exists_first_digit (t : List Char) :
    (∀ c ∈ t, c.isDigit = false) ∨ ∃ before c r, t = before ++ c :: r ∧
      (∀ d ∈ before, d.isDigit = false) ∧ c.isDigit = true := by
  cases h : t.find? Char.isDigit with
  | none => exact .inl fun c hc => by simpa using List.find?_eq_none.1 h c hc
  | some c =>
    obtain ⟨hc, before, r, htext, hbefore⟩ := List.find?_eq_some_iff_append.1 h
    exact .inr ⟨before, c, r, htext, fun d hd => by simpa using hbefore d hd, hc⟩

/-! ### The parts of an address -/

section Divided

variable {letters blanks digits : List Char} (h : Parts (trim s.toList) letters blanks digits)
include h

/-- A text of letters, blanks and digits is divided before the digits. -/
theorem ofA1_of_parts :
    ofA1 s = ofParts (String.ofList (letters ++ blanks)) (String.ofList digits) := by
  obtain ⟨htext, hletters, hblanks, hdigits⟩ := h
  obtain ⟨c, r, rfl⟩ := List.exists_cons_of_ne_nil hdigits.1
  rw [← List.append_assoc] at htext
  have hbefore : ∀ d ∈ letters ++ blanks, d.isDigit = false := by
    intro d hd
    rw [Bool.eq_false_iff]
    intro hdigit
    rcases List.mem_append.1 hd with hd | hd
    · have halpha := hletters.2 d hd
      rw [isAlpha_of_isDigit hdigit] at halpha
      cases halpha
    · have hblank := hblanks d hd
      rw [isBlank_of_isAlphanum (isAlphanum_of_isDigit hdigit)] at hblank
      cases hblank
  rw [ofA1_of_digit htext hbefore (hdigits.2 c (List.mem_cons_self ..)),
    if_neg (by simp [hletters.1])]

/-- It is read as the position that the letters and the digits stand for. -/
theorem ofA1_of_parts_eq_ok {p : Coord} :
    ofA1 s = .ok p ↔ p.col + 1 = Column.number letters ∧ Column.number letters ≤ maxNumber ∧
      p.row + 1 = Numeral.naturalOf digits ∧ Numeral.naturalOf digits ≤ maxNumber := by
  have hlabel : trim (letters ++ blanks) = letters :=
    trim_append_of_isBlank (isWord_of_isAlpha h.letters).trimmed h.letters.1 h.blanks
  have hnumber : trim digits = digits := trim_of_isWord (isWord_of_isDigit h.digits)
  rw [ofA1_of_parts h, ofParts_eq_ok, Column.ofLabel_eq_ok_iff_number,
    Row.ofNumber_eq_ok_iff_number, String.toList_ofList, String.toList_ofList, hlabel, hnumber]
  exact ⟨fun ⟨hcol, hrow⟩ => ⟨hcol.2.1, hcol.2.2, hrow.2⟩,
    fun ⟨hcol, hle, hrow⟩ => ⟨⟨h.letters, hcol, hle⟩, h.digits, hrow⟩⟩

/-- What it is read as is spelled with capitals, and without zeros in front of the digits. -/
theorem a1_of_parts {p : Coord} (hp : ofA1 s = .ok p) :
    p.a1 = String.ofList (letters.map Char.toUpper ++ digits.dropWhile (· == '0')) := by
  obtain ⟨hcol, -, hrow, -⟩ := (ofA1_of_parts_eq_ok h).1 hp
  rw [← String.ofList_toList (s := p.a1), toList_a1, Column.toList_label, hcol,
    Column.letters_number h.letters.2, Row.toList_toString, hrow,
    Numeral.toDigits_naturalOf h.digits.2 (by omega)]

end Divided

/-- The usual spelling of a position has the parts that it is made of. -/
theorem parts_a1 (p : Coord) :
    Parts (trim p.a1.toList) (Column.label p.col).toList [] (toString (p.row + 1)).toList := by
  have hlabel := Column.isWord_label p.col
  have hnumber := Row.isWord_toString (p.row + 1)
  rw [toList_a1, trim_of_isWord (hlabel.append hnumber)]
  exact ⟨rfl, Column.isRun_label p.col, by simp, Row.isRun_toString (p.row + 1)⟩

/-- **A position is read** from its usual spelling. -/
theorem ofA1_a1 {p : Coord} (hrow : p.row < maxNumber) (hcol : p.col < maxNumber) :
    ofA1 p.a1 = .ok p := by
  rw [ofA1_of_parts_eq_ok (parts_a1 p), Column.toList_label, Column.number_letters,
    Row.naturalOf_toString]
  omega

/-- Every address that is read is letters, blanks and digits. -/
theorem exists_parts {p : Coord} (hp : ofA1 s = .ok p) :
    ∃ letters blanks digits, Parts (trim s.toList) letters blanks digits := by
  rcases exists_first_digit (trim s.toList) with hnone | ⟨before, c, r, htext, hbefore, hc⟩
  · rw [ofA1_of_forall hnone] at hp
    cases hp
  · rw [ofA1_of_digit htext hbefore hc] at hp
    split at hp
    · cases hp
    · next hne =>
      obtain ⟨hcol, hrow⟩ := ofParts_eq_ok.1 hp
      have hletters := (Column.ofLabel_eq_ok_iff_number.1 hcol).1
      have hdigits := (Row.ofNumber_eq_ok_iff_number.1 hrow).1
      rw [String.toList_ofList] at hletters hdigits
      rw [trim_behind htext hc] at hdigits
      obtain ⟨blanks, hlabel, hblanks⟩ := exists_blanks_behind_label htext hne
      refine ⟨trim before, blanks, c :: r, ?_, hletters, hblanks, hdigits⟩
      rw [← List.append_assoc, ← hlabel, htext]

/-! ### Faults -/

/-- What can be wrong with the text of an address, and how it is refused. -/
inductive Fault (t : List Char) : SheetError → Prop
  /-- There is no digit. -/
  | noDigit : (∀ c ∈ t, c.isDigit = false) →
      Fault t (.invalidReference .cell (String.ofList t))
  /-- There is nothing before the first digit. -/
  | noLabel {c : Char} {r : List Char} : t = c :: r → c.isDigit = true →
      Fault t (.invalidReference .cell (String.ofList t))
  /-- What stands before the first digit is not a label. -/
  | label {w r : List Char} {c : Char} : t = w ++ c :: r →
      (∀ d ∈ w, d.isDigit = false) → c.isDigit = true → w ≠ [] → ¬Column.IsLabel w →
      Fault t (.invalidReference .column (String.ofList w))
  /-- The label is right, but what begins with the first digit is not a row number. -/
  | number {w r : List Char} {c : Char} : t = w ++ c :: r →
      (∀ d ∈ w, d.isDigit = false) → c.isDigit = true → Column.IsLabel w →
      ¬Row.IsNumber (c :: r) →
      Fault t (.invalidReference .row (String.ofList (c :: r)))

/-- A label is refused as it was given, and a row number behind a label. -/
theorem ofParts_eq_error_iff {letters digits : List Char} {e : SheetError}
    (htrim : trim digits = digits) :
    ofParts (String.ofList letters) (String.ofList digits) = .error e ↔
      (¬Column.IsLabel letters ∧ e = .column (String.ofList letters)) ∨
        (Column.IsLabel letters ∧ ¬Row.IsNumber digits ∧ e = .row (String.ofList digits)) := by
  have hlabel := Column.isLabel_iff (s := String.ofList letters)
  have hnumber := Row.isNumber_iff (s := String.ofList digits) (by rwa [String.toList_ofList])
  rw [String.toList_ofList] at hlabel hnumber
  rw [hlabel, hnumber]
  unfold ofParts
  cases hcol : Column.ofLabel (String.ofList letters) with
  | error e' =>
    obtain rfl := Column.ofLabel_error hcol
    simp [eq_comm]
  | ok col =>
    cases hrow : Row.ofNumber (String.ofList digits) with
    | error e' =>
      obtain rfl := Row.ofNumber_error hrow
      simp [eq_comm]
    | ok row => simp

/-- A text that is not read has one of the faults. -/
theorem ofA1_eq_error_iff {e : SheetError} : ofA1 s = .error e ↔ Fault (trim s.toList) e := by
  constructor
  · intro he
    rcases exists_first_digit (trim s.toList) with hnone | ⟨before, c, r, htext, hbefore, hc⟩
    · rw [ofA1_of_forall hnone] at he
      cases he
      exact .noDigit hnone
    · rw [ofA1_of_digit htext hbefore hc] at he
      split at he
      · next hempty =>
        cases he
        exact .noLabel (by rw [htext, hempty]; rfl) hc
      · next hne =>
        obtain ⟨hlabel, rfl⟩ | ⟨hlabel, hnumber, rfl⟩ :=
          (ofParts_eq_error_iff (trim_behind htext hc)).1 he
        · exact .label htext hbefore hc hne hlabel
        · exact .number htext hbefore hc hlabel hnumber
  · intro hfault
    cases hfault with
    | noDigit hnone => exact ofA1_of_forall hnone
    | @noLabel c r htext hc =>
      have hsplit : trim s.toList = [] ++ c :: r := htext
      exact ofA1_of_digit hsplit (by simp) hc
    | label htext hbefore hc hne hlabel =>
      rw [ofA1_of_digit htext hbefore hc, if_neg hne]
      exact (ofParts_eq_error_iff (trim_behind htext hc)).2 (.inl ⟨hlabel, rfl⟩)
    | @number before r c htext hbefore hc hlabel hnumber =>
      have hne : before ≠ [] := by
        rintro rfl
        exact hlabel.1.1 (by decide)
      rw [ofA1_of_digit htext hbefore hc, if_neg hne]
      exact (ofParts_eq_error_iff (trim_behind htext hc)).2 (.inr ⟨hlabel, hnumber, rfl⟩)

/-- **Addresses are read as they are spelled.**  Each position that can be counted is read from its
usual spelling.  The texts that are read, blanks at their ends dropped, are ASCII letters and ASCII
digits with blanks between them or not, whose numbers can be counted and the digits' is not zero;
and the usual spelling of what is read has the letters in capitals and no zeros in front of the
digits.  Any other text has one of four faults, and the error tells which. -/
theorem ofA1_eq_ok_iff :
    (∀ p : Coord, p.row < 2 ^ 64 - 1 → p.col < 2 ^ 64 - 1 → ofA1 p.a1 = .ok p) ∧
    ∀ s : String,
      let t := trim s.toList
      (∀ p, ofA1 s = .ok p ↔ ∃ letters blanks digits, Parts t letters blanks digits ∧
        p.col + 1 = Nat.ofDigits 26 (letters.map Column.letterValue).reverse ∧
        p.col + 1 ≤ 2 ^ 64 - 1 ∧
        p.row + 1 = Nat.ofDigitChars 10 digits 0 ∧ p.row + 1 ≤ 2 ^ 64 - 1) ∧
      (∀ p letters blanks digits, ofA1 s = .ok p → Parts t letters blanks digits →
        p.a1 = String.ofList (letters.map Char.toUpper ++ digits.dropWhile (· == '0'))) ∧
      ∀ e, ofA1 s = .error e ↔ Fault t e := by
  have hread : ∀ {s : String} {letters blanks digits : List Char} {p : Coord},
      Parts (trim s.toList) letters blanks digits → (ofA1 s = .ok p ↔
        p.col + 1 = Nat.ofDigits 26 (letters.map Column.letterValue).reverse ∧
        p.col + 1 ≤ 2 ^ 64 - 1 ∧
        p.row + 1 = Nat.ofDigitChars 10 digits 0 ∧ p.row + 1 ≤ 2 ^ 64 - 1) := by
    intro s letters blanks digits p hparts
    have hmax : maxNumber = 2 ^ 64 - 1 := rfl
    have hdigits : Nat.ofDigitChars 10 digits 0 = Numeral.naturalOf digits := rfl
    rw [ofA1_of_parts_eq_ok hparts, Column.number_eq_ofDigits, hdigits]
    omega
  refine ⟨fun p hrow hcol => ofA1_a1 hrow hcol, fun s => ⟨fun p => ⟨fun hp => ?_, ?_⟩, ?_, ?_⟩⟩
  · obtain ⟨letters, blanks, digits, hparts⟩ := exists_parts hp
    exact ⟨letters, blanks, digits, hparts, (hread hparts).1 hp⟩
  · rintro ⟨letters, blanks, digits, hparts, hnumbers⟩
    exact (hread hparts).2 hnumbers
  · intro p letters blanks digits hp hparts
    exact a1_of_parts hparts hp
  · exact fun e => ofA1_eq_error_iff

/-- The last position that can be counted, an address with a blank and with zeros in it, and each of
the faults. -/
theorem ofA1_eq_ok_iff_blank :
    (⟨18446744073709551614, 18446744073709551614⟩ : Coord).row < 2 ^ 64 - 1 ∧
      ofA1 (a1 ⟨18446744073709551614, 18446744073709551614⟩)
        = .ok ⟨18446744073709551614, 18446744073709551614⟩ ∧
      ofA1 " aA\u00a0007 " = .ok ⟨6, 26⟩ ∧ (⟨6, 26⟩ : Coord).a1 = "AA7" ∧
      ofA1 "\u0661" = .error (.invalidReference .cell "\u0661") ∧
      ofA1 "7a" = .error (.invalidReference .cell "7a") ∧
      ofA1 "a-b0" = .error (.column "a-b") ∧ ofA1 "b0" = .error (.row "0") := by
  obtain ⟨hround, hread⟩ := ofA1_eq_ok_iff
  have hparts : Parts (trim " aA\u00a0007 ".toList) "aA".toList "\u00a0".toList "007".toList :=
    ⟨by decide, ⟨by decide, by decide⟩, by decide, ⟨by decide, by decide⟩⟩
  have haddress : ofA1 " aA\u00a0007 " = .ok ⟨6, 26⟩ := ((hread _).1 _).2
    ⟨_, _, _, hparts, by decide, by decide, by decide, by decide⟩
  refine ⟨by decide, hround _ (by decide) (by decide), haddress,
    (hread _).2.1 _ _ _ _ haddress hparts, ?_, ?_, ?_, ?_⟩
  · exact ((hread _).2.2 _).2 (.noDigit (by decide))
  · exact ((hread _).2.2 _).2 (.noLabel (c := '7') (r := ['a']) (by decide) (by decide))
  · refine ((hread _).2.2 _).2 (.label (w := "a-b".toList) (c := '0') (r := []) (by decide)
      (by decide) (by decide) (by decide) fun hlabel => ?_)
    exact absurd (hlabel.1.2 '-' (by decide)) (by decide)
  · refine ((hread _).2.2 _).2 (.number (w := ['b']) (c := '0') (r := []) (by decide)
      (by decide) (by decide) ⟨⟨by decide, by decide⟩, by decide⟩ fun hnumber => ?_)
    exact absurd hnumber.2.1 (by decide)

end Coord

end GridTalk
