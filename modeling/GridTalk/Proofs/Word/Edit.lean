import GridTalk.Proofs.Edit.Pass
import GridTalk.Proofs.Word.Grid

/-!
# Edits in machine words

Every edit once more, with its rows and columns counted in words of 64 bits.

* `setCell`, `adjustColumn`, `addColumn`, `fillColumn`, `renameColumn`, `clearColumn`, `perform`:
  the edits in words.
* `IsCounted`: the intents whose rows and columns have a next one in a word.
* `perform_eq_lift`: these give on a grid that fits the words what they give without the words.
-/

namespace GridTalk.Word

open Grid

/-! ### Edits -/

/-- The value of the expression goes into the target cell. -/
def setCell (g : Grid) (target : Coord) (expression : String) : Checked (Grid × String) := do
  let g ← ensureRows g (← succ 64 target.row) g.colCount
  let (v, g) ← evaluateText expression target.row g
  let message := "Set " ++ (← a1 target) ++ " to " ++ v.asText
  let g ← set g target.row target.col v
  return (g, message)

/-- The numeric data of a column changes by an amount. -/
def adjustColumn (g : Grid) (action : Adjustment) (column : Nat) (amount : String) :
    Checked (Grid × String) := do
  let g ← ensureCols g (← succ 64 column)
  let (factor, g) ← numericValue amount 1 g
  if action = .divide ∧ factor == 0.0 then
    let letters ← label column
    throw (.failed (.divisionByZero letters))
  let verb := String.ofList (Text.capitalizeFirst action.word.toList)
  let letters ← label column
  return (g.mapData column (adjusted action factor),
    verb ++ " column " ++ letters ++ " by " ++ (Cell.number factor).asText)

/-- The target column becomes the sum or the difference of two columns. -/
def addColumn (g : Grid) (target left right : Nat) (subtract : Bool) :
    Checked (Grid × String) := do
  let g ← ensureCols g (← succ 64 (max (max target left) right))
  let sign := if subtract then "-" else "+"
  let l ← label left
  let r ← label right
  let g ← set g 0 target (.text (l ++ sign ++ r))
  let g ← g.dataRows.foldlM
    (fun g row => set g row target (combined g row left right subtract)) g
  let letters ← label target
  return (g, "Computed column " ++ letters ++ " from " ++ l ++ " " ++ sign ++ " " ++ r)

/-- One step of filling. -/
def fillRow (e : Expression) (column row : Nat) (g : Grid) : Checked Grid :=
  if (g.get row column).isBlank then do
    let (v, g) ← evaluate e row g
    set g row column v
  else return g

/-- Filling from a row on, as far as the grid reaches. -/
def fillFrom (e : Expression) (column : Nat) : (fuel row : Nat) → Grid → Checked Grid
  | 0, _, g => return g
  | fuel + 1, row, g =>
    if row < g.rowCount then do
      let g ← fillRow e column row g
      let next ← succ 64 row
      fillFrom e column fuel next g
    else return g

/-- The blank cells in the data of a column get the value of an expression. -/
def fillColumn (g : Grid) (column : Nat) (expression : String) : Checked (Grid × String) := do
  let g ← ensureCols g (← succ 64 column)
  let e ← lift (Expression.ofText expression)
  let g ← fillFrom e column (max g.rowCount maxRows) 1 g
  let letters ← label column
  return (g, "Filled empty cells in column " ++ letters)

/-- A column gets a new title. -/
def renameColumn (g : Grid) (column : Nat) (title : String) : Checked (Grid × String) := do
  let g ← ensureCols g (← succ 64 column)
  let title := String.ofList (Text.capitalizeWords (Text.trim title.toList))
  let g ← set g 0 column (.text title)
  let letters ← label column
  return (g, "Renamed column " ++ letters ++ " to " ++ title)

/-- The data of a column is removed. -/
def clearColumn (g : Grid) (column : Nat) : Checked (Grid × String) := do
  let g ← ensureCols g (← succ 64 column)
  let letters ← label column
  return (g.mapData column fun _ => .empty, "Cleared column " ++ letters)

/-- The edit that an intent asks for. -/
def perform (intent : Intent) (g : Grid) : Checked (Grid × String) :=
  match intent with
  | .setCell target expression => setCell g target expression
  | .adjustColumn action column amount => adjustColumn g action column amount
  | .addColumn target left right subtract => addColumn g target left right subtract
  | .fillColumn column expression => fillColumn g column expression
  | .renameColumn column title => renameColumn g column title
  | .clearColumn column => clearColumn g column

/-- The rows and columns of an intent have a next one in a word. -/
def IsCounted : Intent → Prop
  | .setCell target _ => target.row < maxNumber ∧ target.col < maxNumber
  | .addColumn target left right _ => target < maxNumber ∧ left < maxNumber ∧ right < maxNumber
  | .adjustColumn _ column _ | .fillColumn column _ | .renameColumn column _
  | .clearColumn column => column < maxNumber

section Edits

variable {g : Grid} (hg : Fits g)
include hg

theorem setCell_eq_lift {target : Coord} (hrow : target.row < maxNumber)
    (hcol : target.col < maxNumber) (expression : String) :
    setCell g target expression = lift (GridTalk.setCell g target expression) := by
  have hmax : maxNumber = 2 ^ 64 - 1 := rfl
  have hwidth := hg.colCount_lt
  rw [setCell, succ_of_lt (by omega), ok_bind, ensureRows_eq_lift g _ (by omega)]
  refine lift_bind_congr fun g₁ hgrown => ?_
  have hg₁ := hg.of_growsTo (padsTo_ensureRows hg.wellFormed hgrown).toGrowsTo
  have hpad := padsTo_evaluateText hg₁.wellFormed expression target.row
  rw [evaluateText_eq_lift hg₁]
  rcases hv : GridTalk.evaluateText expression target.row g₁ with ⟨err | v, g₂⟩
  · rfl
  · rw [hv] at hpad
    have hg₂ : Fits g₂ := hg₁.of_growsTo hpad.toGrowsTo
    dsimp only [kept, Except.map, lift_ok, ok_bind]
    rw [a1_eq hrow (by omega), ok_bind, set_eq_lift hg₂ hrow hcol v]
    exact lift_bind_congr fun _ _ => rfl

/-- Every edit of a column begins with growth to it. -/
theorem ensureCols_bind_eq_lift {column : Nat} (hcol : column < maxNumber)
    {f : Grid → Checked (Grid × String)} {f' : Grid → EditResult}
    (h : ∀ g', Fits g' → f g' = lift (f' g')) :
    (succ 64 column >>= fun cols => ensureCols g cols >>= f)
      = lift (g.ensureCols (column + 1) >>= f') := by
  have hmax : maxNumber = 2 ^ 64 - 1 := rfl
  rw [succ_of_lt (by omega), ok_bind, ensureCols_eq_lift g (by omega)]
  exact lift_bind_congr fun g' hgrown =>
    h g' (hg.of_growsTo (padsTo_ensureCols hg.wellFormed hgrown).toGrowsTo)

theorem adjustColumn_eq_lift (action : Adjustment) {column : Nat} (hcol : column < maxNumber)
    (amount : String) :
    adjustColumn g action column amount = lift (GridTalk.adjustColumn g action column amount) := by
  refine ensureCols_bind_eq_lift hg hcol fun g₁ hg₁ => ?_
  rw [numericValue_eq_lift hg₁, label_eq (Nat.le_of_lt hcol)]
  rcases GridTalk.numericValue amount 1 g₁ with ⟨err | factor, g₂⟩
  · rfl
  · dsimp only [kept, Except.map, lift_ok, ok_bind]
    split <;> rfl

theorem addColumn_eq_lift {target left right : Nat} (htarget : target < maxNumber)
    (hleft : left < maxNumber) (hright : right < maxNumber) (subtract : Bool) :
    addColumn g target left right subtract
      = lift (GridTalk.addColumn g target left right subtract) := by
  refine ensureCols_bind_eq_lift hg (by omega) fun g₁ hg₁ => ?_
  have hset : ∀ g, Fits g → ∀ row < maxNumber, ∀ v,
      set g row target v = lift (g.set row target v) := fun g hg row hrow v =>
    set_eq_lift hg hrow htarget v
  have hkeep : ∀ g g' row v, Fits g → g.set row target v = .ok g' → Fits g' :=
    fun g g' row v hg h => hg.of_growsTo (changesTo_set hg.wellFormed h).toGrowsTo
  rw [label_eq (Nat.le_of_lt hleft), ok_bind, label_eq (Nat.le_of_lt hright), ok_bind,
    hset g₁ hg₁ 0 (by decide)]
  refine lift_bind_congr fun g₂ htitle => ?_
  have hg₂ := hkeep g₁ g₂ _ _ hg₁ htitle
  rw [foldlM_eq_lift (P := Fits) ?_ ?_ hg₂, label_eq (Nat.le_of_lt htarget)]
  · exact lift_bind_congr fun _ _ => rfl
  · intro row hrow g hg
    refine hset g hg row ?_ _
    have hlt := List.mem_range'_1.1 hrow
    have hcount := hg₂.rowCount_lt
    omega
  · exact fun row _ g g' hg h => hkeep g g' row _ hg h

omit hg in
theorem fillRow_eq_lift (e : Expression) {column row : Nat} (hcol : column < maxNumber)
    (hrow : row < maxNumber) {g : Grid} (hg : Fits g) :
    fillRow e column row g = lift (GridTalk.fillRow e column row g) := by
  unfold fillRow GridTalk.fillRow
  split
  · have hpad := e.padsTo_evaluate hg.wellFormed row
    rw [evaluate_eq_lift hg]
    rcases hv : e.evaluate row g with ⟨err | v, g'⟩
    · rfl
    · rw [hv] at hpad
      exact set_eq_lift (hg.of_growsTo hpad.toGrowsTo) hrow hcol v
  · rfl

omit hg in
theorem fits_fillRow {e : Expression} {column row : Nat} {g g' : Grid} (hg : Fits g)
    (h : GridTalk.fillRow e column row g = .ok g') : Fits g' :=
  hg.of_growsTo (changesTo_fillRow hg.wellFormed h).toGrowsTo

omit hg in
/-- The row after one of the grid still has its number in a word. -/
theorem fillFrom_eq_lift (e : Expression) {column : Nat} (hcol : column < maxNumber)
    (fuel row : Nat) {g : Grid} (hg : Fits g) :
    fillFrom e column fuel row g = lift (GridTalk.fillFrom e column fuel row g) := by
  have hmax : maxNumber = 2 ^ 64 - 1 := rfl
  induction fuel generalizing row g with
  | zero => rfl
  | succ fuel ih =>
    have hcount := hg.rowCount_lt
    rw [fillFrom, GridTalk.fillFrom]
    split
    · rw [fillRow_eq_lift e hcol (by omega) hg]
      refine lift_bind_congr fun g' hstep => ?_
      rw [succ_of_lt (by omega), ok_bind]
      exact ih (row + 1) (fits_fillRow hg hstep)
    · rfl

theorem fillColumn_eq_lift {column : Nat} (hcol : column < maxNumber) (expression : String) :
    fillColumn g column expression = lift (GridTalk.fillColumn g column expression) := by
  refine ensureCols_bind_eq_lift hg hcol fun g₁ hg₁ => ?_
  refine lift_bind_congr fun e _ => ?_
  rw [fillFrom_eq_lift e hcol _ _ hg₁, label_eq (Nat.le_of_lt hcol)]
  exact lift_bind_congr fun _ _ => rfl

theorem renameColumn_eq_lift {column : Nat} (hcol : column < maxNumber) (title : String) :
    renameColumn g column title = lift (GridTalk.renameColumn g column title) := by
  refine ensureCols_bind_eq_lift hg hcol fun g₁ hg₁ => ?_
  dsimp only
  rw [set_eq_lift hg₁ (by decide) hcol, label_eq (Nat.le_of_lt hcol)]
  exact lift_bind_congr fun _ _ => rfl

theorem clearColumn_eq_lift {column : Nat} (hcol : column < maxNumber) :
    clearColumn g column = lift (GridTalk.clearColumn g column) := by
  refine ensureCols_bind_eq_lift hg hcol fun g₁ hg₁ => ?_
  rw [label_eq (Nat.le_of_lt hcol)]
  rfl

/-- No edit leaves the words. -/
theorem perform_eq_lift {intent : Intent} (h : IsCounted intent) :
    perform intent g = lift (intent.perform g) := by
  cases intent with
  | setCell target expression => exact setCell_eq_lift hg h.1 h.2 expression
  | adjustColumn action column amount => exact adjustColumn_eq_lift hg action h amount
  | addColumn target left right subtract => exact addColumn_eq_lift hg h.1 h.2.1 h.2.2 subtract
  | fillColumn column expression => exact fillColumn_eq_lift hg h expression
  | renameColumn column title => exact renameColumn_eq_lift hg h title
  | clearColumn column => exact clearColumn_eq_lift hg h

end Edits

end GridTalk.Word
