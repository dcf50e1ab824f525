import GridTalk.Proofs.Address.Numeration
import GridTalk.Proofs.Expression.Evaluation
import GridTalk.Proofs.Expression.Unambiguous

/-!
# The addresses of an expression

An expression can name cells by their addresses.  They decide how far the grid grows when the
expression is evaluated, and whether it can be evaluated at all.

* `Expression.addresses`: the cells that an expression names.  The columns of a formula are not
  among them.
* `Reference.rowNumber`, `Reference.columnNumber`: what the digits and the letters of an address
  stand for, however many there are.
* `Reference.exists_locate_iff`: the addresses that can be located.
* `Expression.exists_locate_of_outcome`, `Expression.exists_address_of_outcome`: where there is a
  value all addresses can be located, and where there is an error it is that of an address.
* `Expression.shape_evaluate`: the shape of the grid after an evaluation.
* `evaluateText_padded`, `evaluateText_eq_error_iff`: the same for the text of an expression.
-/

namespace GridTalk

open Grid Text

/-! ### Letters and digits -/

namespace Column

/-- Letters are read as a column as long as their number is not too great. -/
theorem ofLabel_eq_ok_iff {label : String} (h : IsRun Char.isAlpha label.toList) {col : Nat} :
    ofLabel label = .ok col ↔ number label.toList ≤ maxNumber ∧ col + 1 = number label.toList := by
  rw [ofLabel_eq_ok_iff_number, trim_of_isWord (isWord_of_isAlpha h)]
  exact ⟨fun hs => ⟨hs.2.2, hs.2.1⟩, fun hs => ⟨h, hs.2, hs.1⟩⟩

end Column

/-- Digits are read as a row as long as their number is neither zero nor too great. -/
theorem Row.ofNumber_eq_ok_iff {digits : String} (h : IsRun Char.isDigit digits.toList)
    {row : Nat} : ofNumber digits = .ok row ↔
      Numeral.naturalOf digits.toList ≤ maxNumber ∧ row + 1 = Numeral.naturalOf digits.toList := by
  rw [ofNumber_eq_ok_iff_number, trim_of_isWord (isWord_of_isDigit h)]
  exact ⟨fun hs => ⟨hs.2.2, hs.2.1⟩, fun hs => ⟨h, hs.2, hs.1⟩⟩

/-! ### Addresses -/

namespace Reference

/-- The number that the letters stand for, A being 1. -/
def columnNumber (r : Reference) : Nat := Column.number r.letters.toList

/-- The number that the digits stand for. -/
def rowNumber (r : Reference) : Nat := Numeral.naturalOf r.digits.toList

/-- The address lies where no grid can grow to. -/
def OutOfBounds (r : Reference) : Prop :=
  maxCols < r.columnNumber ∨ r.rowNumber = 0 ∨ maxRows < r.rowNumber

instance (r : Reference) : Decidable r.OutOfBounds := inferInstanceAs (Decidable (_ ∨ _ ∨ _))

/-- The address is made of letters and digits, as every address in a text is. -/
def IsSpelled (r : Reference) : Prop :=
  IsRun Char.isAlpha r.letters.toList ∧ IsRun Char.isDigit r.digits.toList

variable {r : Reference} {width : Nat} {p : Coord}

/-- Where an address is located. -/
theorem locate_eq_ok_iff (h : r.IsSpelled) :
    r.locate width = .ok p ↔ p.row + 1 = r.rowNumber ∧ p.col + 1 = r.columnNumber ∧
      r.rowNumber ≤ maxRows ∧ max width r.columnNumber ≤ maxCols := by
  have hbound : maxRows ≤ maxNumber ∧ maxCols ≤ maxNumber := by decide
  rw [locate_eq_ok, Coord.ofParts_eq_ok, Column.ofLabel_eq_ok_iff h.1, Row.ofNumber_eq_ok_iff h.2,
    ← columnNumber, ← rowNumber]
  omega

/-- On a grid that is not too wide all addresses can be located but those out of bounds. -/
theorem exists_locate_iff (h : r.IsSpelled) (hwidth : width ≤ maxCols) :
    (∃ p, r.locate width = .ok p) ↔ ¬r.OutOfBounds := by
  have hpos : 0 < r.columnNumber := Column.number_pos h.1.1
  simp only [locate_eq_ok_iff h, OutOfBounds]
  constructor
  · rintro ⟨p, hrow, hcol, hrows, hcols⟩
    omega
  · intro hin
    refine ⟨⟨r.rowNumber - 1, r.columnNumber - 1⟩, ?_⟩
    dsimp only
    omega

/-- Whatever is wrong with an address, it is called an invalid reference. -/
theorem locate_eq_error {e : SheetError} (h : r.locate width = .error e) :
    ∃ kind token, e = .invalidReference kind token := by
  unfold locate at h
  cases hp : Coord.ofParts r.letters r.digits with
  | error e' =>
    rw [hp] at h
    cases h
    rcases Coord.ofParts_eq_error hp with ⟨-, rfl⟩ | ⟨-, rfl⟩ <;> exact ⟨_, _, rfl⟩
  | ok p =>
    rw [hp] at h
    dsimp only at h
    split_ifs at h
    · cases h
      exact ⟨_, _, rfl⟩
    · cases h
      exact ⟨_, _, rfl⟩

end Reference

namespace Expression

/-- The cells that an expression names by their addresses. -/
def addresses : Expression → List Reference
  | cell source => [source]
  | cells left _ right => [left, right]
  | cellNumber left _ _ => [left]
  | quoted _ | blank | number _ | columns _ _ _ | label _ => []

/-- The number of the last row that an expression names, 0 if it names none. -/
def lastRow (e : Expression) : Nat := (e.addresses.map Reference.rowNumber).foldr max 0

/-- The number of the last column that an expression names by an address, 0 if it names none. -/
def lastColumn (e : Expression) : Nat := (e.addresses.map Reference.columnNumber).foldr max 0

/-- The addresses in a text are made of letters and digits. -/
theorem isSpelled_of_ofText {text : String} {e : Expression} (h : ofText text = .ok e) :
    ∀ r ∈ e.addresses, r.IsSpelled := by
  rcases spelled_of_ofText h with rfl | rfl | ⟨form, hform⟩
  · simp [addresses]
  · simp [addresses]
  · generalize trim text.toList = s at hform
    cases hform with
    | quoted | blank | number | columns => simp [addresses]
    | cell hr => exact List.forall_mem_singleton.2 hr.2
    | cells ho =>
      obtain ⟨u, before, after, v, -, hleft, -, -, hright⟩ := ho
      exact List.forall_mem_cons.2 ⟨hleft.2, List.forall_mem_singleton.2 hright.2⟩
    | cellNumber ho =>
      obtain ⟨u, before, after, v, -, hleft, -, -, -⟩ := ho
      exact List.forall_mem_singleton.2 hleft.2

variable {e : Expression} {row : Nat} {g : Grid}

/-- The error of an evaluation is that of an address. -/
theorem exists_address_of_outcome {err : SheetError} (h : e.outcome row g = .error err) :
    ∃ r ∈ e.addresses, r.locate g.colCount = .error err := by
  cases e with
  | quoted | blank | number | columns | label => cases h
  | cell source =>
    refine ⟨source, by simp [addresses], ?_⟩
    rw [outcome] at h
    cases hp : source.locate g.colCount <;> simp_all [Except.map]
  | cellNumber left op y =>
    refine ⟨left, by simp [addresses], ?_⟩
    rw [outcome] at h
    cases hp : left.locate g.colCount <;> simp_all [Except.map]
  | cells left op right =>
    rw [outcome] at h
    cases hp : left.locate g.colCount with
    | error e =>
      rw [hp] at h
      cases h
      exact ⟨left, by simp [addresses], hp⟩
    | ok p =>
      rw [hp] at h
      cases hq : right.locate g.colCount with
      | error e =>
        rw [hq] at h
        cases h
        exact ⟨right, by simp [addresses], hq⟩
      | ok q =>
        rw [hq] at h
        cases h

/-- What has a value has all its addresses located. -/
theorem exists_locate_of_outcome {v : Cell} (h : e.outcome row g = .ok v) :
    ∀ r ∈ e.addresses, ∃ p, r.locate g.colCount = .ok p := by
  cases e with
  | quoted | blank | number | columns | label => simp [addresses]
  | cell source =>
    obtain ⟨p, hp, -⟩ := map_eq_ok.1 h
    simpa [addresses] using ⟨p, hp⟩
  | cellNumber left op y =>
    obtain ⟨p, hp, -⟩ := map_eq_ok.1 h
    simpa [addresses] using ⟨p, hp⟩
  | cells left op right =>
    obtain ⟨p, hp, h⟩ := bind_eq_ok.1 h
    obtain ⟨q, hq, -⟩ := bind_eq_ok.1 h
    simpa [addresses] using And.intro ⟨p, hp⟩ ⟨q, hq⟩

/-- Without an address the grid stays. -/
theorem evaluate_snd_of_addresses_eq_nil (h : e.addresses = []) : (e.evaluate row g).2 = g := by
  cases e with
  | quoted | blank | number | columns | label => rfl
  | cell | cells | cellNumber => cases h

/-- After an evaluation the grid reaches just as far as the addresses. -/
theorem shape_evaluate (hg : g.WellFormed) (hspelled : ∀ r ∈ e.addresses, r.IsSpelled) {v : Cell}
    (hv : (e.evaluate row g).1 = .ok v) :
    (e.evaluate row g).2.rowCount = max g.rowCount e.lastRow ∧
      (e.evaluate row g).2.colCount = max g.colCount e.lastColumn := by
  -- what one address does, as `resolve_cases` tells it, in terms of its numbers
  have hnumbers : ∀ {r : Reference} {width p}, r.IsSpelled → r.locate width = .ok p →
      p.row + 1 = r.rowNumber ∧ p.col + 1 = r.columnNumber := fun hr hp =>
    ⟨((Reference.locate_eq_ok_iff hr).1 hp).1, ((Reference.locate_eq_ok_iff hr).1 hp).2.1⟩
  cases e with
  | quoted | blank | number | columns | label => exact ⟨by simp [evaluate, lastRow, addresses],
      by simp [evaluate, lastColumn, addresses]⟩
  | cell source =>
    rcases source.resolve_cases hg with ⟨err, hl, hr⟩ | ⟨p, g', hl, hr, -, hrows, hcols⟩
    · simp [evaluate, hr] at hv
    · obtain ⟨hrow, hcol⟩ := hnumbers (hspelled source (by simp [addresses])) hl
      simp [evaluate, hr, hrows, hcols, hrow, hcol, lastRow, lastColumn, addresses]
  | cellNumber left op y =>
    rcases left.resolve_cases hg with ⟨err, hl, hr⟩ | ⟨p, g', hl, hr, -, hrows, hcols⟩
    · simp [evaluate, hr] at hv
    · obtain ⟨hrow, hcol⟩ := hnumbers (hspelled left (by simp [addresses])) hl
      simp [evaluate, hr, hrows, hcols, hrow, hcol, lastRow, lastColumn, addresses]
  | cells left op right =>
    rcases left.resolve_cases hg with ⟨err, hl, hr⟩ | ⟨p, g₁, hl, hr, hpad, hrows, hcols⟩
    · simp [evaluate, hr] at hv
    · rcases right.resolve_cases hpad.wellFormed with
        ⟨err, hl', hr'⟩ | ⟨q, g₂, hl', hr', -, hrows', hcols'⟩
      · simp [evaluate, hr, hr'] at hv
      · obtain ⟨hrow, hcol⟩ := hnumbers (hspelled left (by simp [addresses])) hl
        obtain ⟨hrow', hcol'⟩ := hnumbers (hspelled right (by simp [addresses])) hl'
        simp only [evaluate, hr, hr', hrows', hcols', hrows, hcols, hrow, hcol, hrow', hcol',
          lastRow, lastColumn, addresses, List.map_cons, List.map_nil, List.foldr_cons,
          List.foldr_nil]
        omega

end Expression

/-! ### The text of an expression -/

/-- An evaluation fails for an address that cannot exist or for a text that cannot be read. -/
theorem evaluateText_eq_error {g : Grid} (hg : g.WellFormed) {text : String} {row : Nat}
    {err : SheetError} (h : (evaluateText text row g).1 = .error err) :
    (∃ kind token, err = .invalidReference kind token) ∨ Expression.ofText text = .error err := by
  cases he : Expression.ofText text with
  | error err' =>
    rw [evaluateText_of_error he] at h
    cases h
    exact .inr rfl
  | ok e =>
    rw [evaluateText_of_ok he, e.evaluate_fst hg] at h
    obtain ⟨r, -, hlocate⟩ := Expression.exists_address_of_outcome h
    exact .inl (Reference.locate_eq_error hlocate)

/-- **Evaluation only pads the grid**, also when it fails.  If there is a value, the grid reaches
just as far as the addresses in the text, and without an address it stays as it is, whatever the row
is. -/
theorem evaluateText_padded (rows : List (List Cell)) (text : String) (row : Nat) :
    let g := ofRows rows
    let result := evaluateText text row g
    result.2.Rectangular ∧ g.rowCount ≤ result.2.rowCount ∧ g.colCount ≤ result.2.colCount ∧
      (∀ r c, result.2.get r c = g.get r c) ∧
      (∀ v, result.1 = .ok v → ∃ e, Expression.ofText text = .ok e ∧
        result.2.rowCount = max g.rowCount e.lastRow ∧
        result.2.colCount = max g.colCount e.lastColumn) ∧
      ∀ e, Expression.ofText text = .ok e → e.addresses = [] → result.2 = g := by
  intro g result
  have hg : g.WellFormed := wellFormed_ofRows rows
  have hpad : g.PadsTo result.2 := padsTo_evaluateText hg text row
  refine ⟨hpad.wellFormed.rectangular, hpad.rowCount_le, hpad.colCount_le, hpad.get,
    fun v hv => ?_, fun e he hnone => ?_⟩
  · cases he : Expression.ofText text with
    | error err =>
      have hrefused : result = (.error err, g) := evaluateText_of_error he row g
      rw [hrefused] at hv
      cases hv
    | ok e =>
      have hread : result = e.evaluate row g := evaluateText_of_ok he row g
      rw [hread] at hv ⊢
      exact ⟨e, rfl, Expression.shape_evaluate hg (Expression.isSpelled_of_ofText he) hv⟩
  · have hread : result = e.evaluate row g := evaluateText_of_ok he row g
    rw [hread, Expression.evaluate_snd_of_addresses_eq_nil hnone]

/-- The second address does not exist, and still the grid has grown to the first one. -/
example : (evaluateText "a3 + b0" 1 (ofRows [[.text "n"]])).2
    = ⟨[[.text "n"], [.empty], [.empty]]⟩ := by decide +kernel

/-- **Evaluation fails exactly on addresses that cannot exist**, and it calls them so, however many
letters and digits they have.  The columns of a formula never make it fail.  Apart from that, there
are texts that cannot be read at all, and these have the Kelvin sign in them. -/
theorem evaluateText_eq_error_iff {rows : List (List Cell)}
    (hwidth : (ofRows rows).colCount ≤ maxCols) (text : String) (row : Nat) :
    let result := (evaluateText text row (ofRows rows)).1
    ((∃ kind token, result = .error (.invalidReference kind token)) ↔
      ∃ e, Expression.ofText text = .ok e ∧ ∃ r ∈ e.addresses, r.OutOfBounds) ∧
    (∀ err, result = .error err → (∃ kind token, err = .invalidReference kind token) ∨
      (err = .splitCharacter ∧ Expression.ofText text = .error .splitCharacter ∧
        '\u212a' ∈ text.toList)) ∧
    ∀ left op right, Expression.ofText text = .ok (.columns left op right) →
      ∃ v, result = .ok v := by
  intro result
  have hg : (ofRows rows).WellFormed := wellFormed_ofRows rows
  have hvalue : ∀ e, Expression.ofText text = .ok e → result = e.outcome row (ofRows rows) :=
    fun e he => by
      rw [← e.evaluate_fst hg, ← evaluateText_of_ok he]
  refine ⟨⟨?_, ?_⟩, fun err herr => ?_, fun left op right he => ⟨_, hvalue _ he⟩⟩
  · rintro ⟨kind, token, herr⟩
    cases he : Expression.ofText text with
    | error err =>
      have hrefused : result = .error err := congrArg Prod.fst (evaluateText_of_error he row _)
      rw [hrefused, (Expression.ofText_eq_error he).1] at herr
      cases herr
    | ok e =>
      rw [hvalue e he] at herr
      obtain ⟨r, hr, hlocate⟩ := Expression.exists_address_of_outcome herr
      refine ⟨e, rfl, r, hr, Classical.byContradiction fun hin => ?_⟩
      have hspelled := Expression.isSpelled_of_ofText he r hr
      obtain ⟨p, hp⟩ := (Reference.exists_locate_iff hspelled hwidth).2 hin
      rw [hp] at hlocate
      cases hlocate
  · rintro ⟨e, he, r, hr, hout⟩
    rw [hvalue e he]
    cases houtcome : e.outcome row (ofRows rows) with
    | error err =>
      obtain ⟨_, -, hlocate⟩ := Expression.exists_address_of_outcome houtcome
      obtain ⟨kind, token, rfl⟩ := Reference.locate_eq_error hlocate
      exact ⟨kind, token, rfl⟩
    | ok v =>
      have hspelled := Expression.isSpelled_of_ofText he r hr
      have hlocated := Expression.exists_locate_of_outcome houtcome r hr
      exact absurd hout ((Reference.exists_locate_iff hspelled hwidth).1 hlocated)
  · cases he : Expression.ofText text with
    | error err' =>
      have hrefused : result = .error err' := congrArg Prod.fst (evaluateText_of_error he row _)
      obtain ⟨rfl, hkelvin⟩ := Expression.ofText_eq_error he
      rw [hrefused] at herr
      cases herr
      exact .inr ⟨rfl, rfl, hkelvin⟩
    | ok e =>
      rw [hvalue e he] at herr
      obtain ⟨r, hr, hlocate⟩ := Expression.exists_address_of_outcome herr
      exact .inl (Reference.locate_eq_error hlocate)

/-- The row of the second address is that of the last possible one, but its column has too many
letters to be counted. -/
theorem evaluateText_eq_error_long_letters :
    let rows : List (List Cell) := [[.text "n"], [.number 1]]
    let text := "a2 * zzzzzzzzzzzzzzzzzzzz1048576"
    (ofRows rows).colCount ≤ maxCols ∧
      (∃ kind token, (evaluateText text 1 (ofRows rows)).1
        = .error (.invalidReference kind token)) ∧
      ∃ v, (evaluateText "a * zzzzzzzzzzzzzzzzzzzz" 1 (ofRows rows)).1 = .ok v := by
  intro rows text
  have hwidth : (ofRows rows).colCount ≤ maxCols := by decide
  have htext : Expression.ofText text
      = .ok (.cells ⟨"a", "2"⟩ .mul ⟨"zzzzzzzzzzzzzzzzzzzz", "1048576"⟩) := by decide +kernel
  have hcolumns : Expression.ofText "a * zzzzzzzzzzzzzzzzzzzz"
      = .ok (.columns "a" .mul "zzzzzzzzzzzzzzzzzzzz") := by decide +kernel
  have hout : (⟨"zzzzzzzzzzzzzzzzzzzz", "1048576"⟩ : Reference).OutOfBounds := by decide +kernel
  refine ⟨hwidth, (evaluateText_eq_error_iff hwidth text 1).1.2 ⟨_, htext, _, ?_, hout⟩,
    (evaluateText_eq_error_iff hwidth _ 1).2.2 _ _ _ hcolumns⟩
  simp [Expression.addresses]

end GridTalk
