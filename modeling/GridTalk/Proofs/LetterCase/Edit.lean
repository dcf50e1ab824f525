import GridTalk.Edit
import GridTalk.Proofs.Failure
import GridTalk.Proofs.LetterCase.Expression

/-!
# Edits up to the case of letters

An edit does not depend on the case of the letters in its operands, quotes apart: labels and
addresses stand for the same columns and cells, and a text that is written without quotes is
capitalised first.  Only the text of an error can keep the case in which something was typed.

* `SameOutcome`: two evaluations with the same value, or errors of the same name, and one grid.
* `Expression.evaluate_fold`, `evaluateText_fold`: evaluation.
* `Intent.fold`: an intent with its operands in lower case.
* `Intent.execute_fold`: a folded intent is carried out in the same way.
-/

namespace GridTalk

open Text

/-! ### Addresses -/

theorem number_fold (s : List Char) : Column.number (fold s) = Column.number s := by
  have hvalue : IgnoresCase Column.letterValue := ignoresCase_of_capitals (by decide)
  rw [Column.number, Column.number, fold, List.foldl_map]
  congr 1
  funext n c
  rw [hvalue c]

theorem ofLabel_fold (label : String) :
    SameResult (Column.ofLabel (foldText label)) (Column.ofLabel label) := by
  simp only [Column.ofLabel, toList_foldText, trim_fold, ne_eq, fold_eq_nil,
    all_fold ignoresCase_isAlpha, number_fold]
  split
  · exact .refl _
  · exact .error rfl

theorem ofNumber_fold (digits : String) :
    SameResult (Row.ofNumber (foldText digits)) (Row.ofNumber digits) := by
  simp only [Row.ofNumber, toList_foldText, trim_fold, ne_eq, fold_eq_nil,
    all_fold ignoresCase_isDigit]
  by_cases hd : (trim digits.toList).all Char.isDigit
  · rw [fold_of_isDigit (List.all_eq_true.1 hd)]
    split
    · exact .refl _
    · exact .error rfl
  · simp only [hd, Bool.false_eq_true, false_and, and_false, if_false]
    exact .error rfl

theorem ofParts_fold (letters digits : String) :
    SameResult (Coord.ofParts (foldText letters) (foldText digits))
      (Coord.ofParts letters digits) := by
  unfold Coord.ofParts
  rcases (ofLabel_fold letters).cases with ⟨col, h1, h2⟩ | ⟨e, e', h1, h2, he⟩
  · rw [h1, h2]
    rcases (ofNumber_fold digits).cases with ⟨row, h3, h4⟩ | ⟨e, e', h3, h4, he⟩
    · rw [h3, h4]
      exact .refl _
    · rw [h3, h4]
      exact .error he
  · rw [h1, h2]
    exact .error he

/-! ### Evaluation -/

/-- Both evaluations leave the same grid, and they give the same value or fail for causes of the
same name. -/
def SameOutcome {α : Type} (x y : Except SheetError α × Grid) : Prop :=
  SameResult x.1 y.1 ∧ x.2 = y.2

namespace SameOutcome

variable {α : Type} {x y : Except SheetError α × Grid}

theorem refl (x : Except SheetError α × Grid) : SameOutcome x x := ⟨.refl _, rfl⟩

theorem error {e e' : SheetError} (h : e.code = e'.code) (g : Grid) :
    SameOutcome (.error e, g) ((.error e', g) : Except SheetError α × Grid) :=
  ⟨.error h, rfl⟩

theorem cases (h : SameOutcome x y) :
    (∃ a g, x = (.ok a, g) ∧ y = (.ok a, g)) ∨
    (∃ e e' g, x = (.error e, g) ∧ y = (.error e', g) ∧ e.code = e'.code) := by
  obtain ⟨x, g⟩ := x
  obtain ⟨y, g'⟩ := y
  obtain ⟨hxy, rfl : g = g'⟩ := h
  rcases hxy.cases with ⟨a, rfl, rfl⟩ | ⟨e, e', rfl, rfl, he⟩
  · exact .inl ⟨a, g, rfl, rfl⟩
  · exact .inr ⟨e, e', g, rfl, rfl, he⟩

end SameOutcome

theorem Reference.resolve_fold (r : Reference) (g : Grid) :
    SameOutcome (r.fold.resolve g) (r.resolve g) := by
  unfold resolve
  rcases (ofParts_fold r.letters r.digits).cases with ⟨p, h1, h2⟩ | ⟨e, e', h1, h2, he⟩
  · rw [fold, h1, h2]
    exact .refl _
  · rw [fold, h1, h2]
    exact .error he g

theorem columnNumber?_fold (label : String) (row : Nat) (g : Grid) :
    columnNumber? (foldText label) row g = columnNumber? label row g := by
  unfold columnNumber?
  rcases (ofLabel_fold label).cases with ⟨col, h1, h2⟩ | ⟨e, e', h1, h2, -⟩
  · rw [h1, h2]
  · rw [h1, h2]

/-- A folded expression has the same value, and makes the grid grow as much. -/
theorem Expression.evaluate_fold (e : Expression) (row : Nat) (g : Grid) :
    SameOutcome (e.fold.evaluate row g) (e.evaluate row g) := by
  cases e with
  | quoted text => exact .refl _
  | blank => exact .refl _
  | number x => exact .refl _
  | cell source =>
    simp only [fold, evaluate]
    rcases (source.resolve_fold g).cases with ⟨p, g₁, h1, h2⟩ | ⟨e, e', g₁, h1, h2, he⟩
    · rw [h1, h2]
      exact .refl _
    · rw [h1, h2]
      exact .error he g₁
  | columns left op right =>
    simp only [fold, evaluate, columnNumber?_fold]
    exact .refl _
  | cells left op right =>
    simp only [fold, evaluate]
    rcases (left.resolve_fold g).cases with ⟨p, g₁, h1, h2⟩ | ⟨e, e', g₁, h1, h2, he⟩
    · rw [h1, h2]
      -- both runs have grown to the left address when they turn to the right one
      rcases (right.resolve_fold g₁).cases with ⟨q, g₂, h3, h4⟩ | ⟨e, e', g₂, h3, h4, he⟩
      · simp only [h3, h4]
        exact .refl _
      · simp only [h3, h4]
        exact .error he g₂
    · rw [h1, h2]
      exact .error he g₁
  | cellNumber left op y =>
    simp only [fold, evaluate]
    rcases (left.resolve_fold g).cases with ⟨p, g₁, h1, h2⟩ | ⟨e, e', g₁, h1, h2, he⟩
    · rw [h1, h2]
      exact .refl _
    · rw [h1, h2]
      exact .error he g₁
  | label text =>
    simp only [fold, evaluate, toList_foldText, capitalizeWords_fold]
    exact .refl _

theorem evaluateText_fold {text : String} (h : Unquoted text.toList) (row : Nat) (g : Grid) :
    SameOutcome (evaluateText (foldText text) row g) (evaluateText text row g) := by
  rw [evaluateText, evaluateText, Expression.ofText_fold h]
  cases Expression.ofText text with
  | error e => exact .refl _
  | ok e => exact e.evaluate_fold row g

/-! ### Edits -/

theorem setCell_fold {expression : String} (h : Unquoted expression.toList) (g : Grid)
    (target : Coord) :
    SameResult (setCell g target (foldText expression)) (setCell g target expression) := by
  refine SameResult.bind_congr fun g₁ _ => ?_
  rcases (evaluateText_fold h target.row g₁).cases with
    ⟨v, g₂, h1, h2⟩ | ⟨e, e', g₂, h1, h2, he⟩
  · rw [h1, h2]
    exact .refl _
  · rw [h1, h2]
    exact .error he

theorem fillRow_fold (e : Expression) (column row : Nat) (g : Grid) :
    SameResult (fillRow e.fold column row g) (fillRow e column row g) := by
  unfold fillRow
  split
  · rcases (e.evaluate_fold row g).cases with ⟨v, g₁, h1, h2⟩ | ⟨e, e', g₁, h1, h2, he⟩
    · rw [h1, h2]
      exact .refl _
    · rw [h1, h2]
      exact .error he
  · exact .refl _

/-- Two fillings visit the same rows, since their grids agree after each row. -/
theorem fillFrom_fold (e : Expression) (column fuel row : Nat) (g : Grid) :
    SameResult (fillFrom e.fold column fuel row g) (fillFrom e column fuel row g) := by
  induction fuel generalizing row g with
  | zero => exact .refl _
  | succ fuel ih =>
    rw [fillFrom, fillFrom]
    split
    · exact (fillRow_fold e column row g).bind fun g₁ => ih (row + 1) g₁
    · exact .refl _

theorem fillColumn_fold {expression : String} (h : Unquoted expression.toList) (g : Grid)
    (column : Nat) :
    SameResult (fillColumn g column (foldText expression)) (fillColumn g column expression) := by
  refine SameResult.bind_congr fun g₁ _ => ?_
  rw [Expression.ofText_fold h]
  cases Expression.ofText expression with
  | error e => exact .refl _
  | ok e => exact (fillFrom_fold e column _ 1 g₁).bind fun g₂ => .refl _

theorem renameColumn_fold (g : Grid) (column : Nat) (title : String) :
    renameColumn g column (foldText title) = renameColumn g column title := by
  simp only [renameColumn, toList_foldText, trim_fold, capitalizeWords_fold]

namespace Intent

/-- An intent with its operands in lower case.  The amount of an adjustment is read in lower case
anyway. -/
def fold : Intent → Intent
  | setCell target expression => setCell target (foldText expression)
  | fillColumn column expression => fillColumn column (foldText expression)
  | renameColumn column title => renameColumn column (foldText title)
  | intent => intent

/-- No expression in the intent has a quote. -/
def NoQuotes : Intent → Prop
  | setCell _ expression => Unquoted expression.toList
  | fillColumn _ expression => Unquoted expression.toList
  | _ => True

theorem kind_fold (intent : Intent) : intent.fold.kind = intent.kind := by cases intent <;> rfl

theorem perform_fold {intent : Intent} (h : intent.NoQuotes) (g : Grid) :
    SameResult (intent.fold.perform g) (intent.perform g) := by
  cases intent with
  | setCell target expression => exact setCell_fold h g target
  | adjustColumn action column amount => exact .refl _
  | addColumn target left right subtract => exact .refl _
  | fillColumn column expression => exact fillColumn_fold h g column
  | renameColumn column title =>
    rw [fold, perform, perform, renameColumn_fold]
    exact .refl _
  | clearColumn column => exact .refl _

/-- A folded intent is carried out in the same way. -/
theorem execute_fold {intent : Intent} (h : intent.NoQuotes) (g : Grid) :
    SameResult (intent.fold.execute g) (intent.execute g) := by
  rw [execute, execute, kind_fold]
  exact (perform_fold h g).bind fun result => .refl _

end Intent

end GridTalk
