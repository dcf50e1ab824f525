import GridTalk.Proofs.Expression.Evaluation
import GridTalk.Proofs.Word.Address

/-!
# Grids in machine words

Growth, writing and evaluation, with every number of rows or columns counted in a word.  They never
leave the words on a grid that fits them, and never write outside the grid.

* `Fits`: the grids for which this holds, and growth keeps them so by `Fits.of_growsTo`.
* `ensureCols`, `ensureRows`, `set`: growth and writing.
* `resolve`, `columnNumber?`, `evaluate`, `evaluateText`, `numericValue`: evaluation.
* `set_eq_lift`, `evaluateText_eq_lift`, `numericValue_eq_lift`: they give what they give without
  the words.
-/

namespace GridTalk.Word

open Grid

/-- All rows have the same length, and both numbers have a next one in a word. -/
structure Fits (g : Grid) : Prop where
  wellFormed : g.WellFormed
  rowCount_lt : g.rowCount < maxNumber
  colCount_lt : g.colCount < maxNumber

/-- The bounds of growth are far below those of a word. -/
theorem Fits.of_growsTo {g g' : Grid} (h : Fits g) (h' : g.GrowsTo g') : Fits g' := by
  have hbound : maxRows < maxNumber ∧ maxCols < maxNumber := by decide
  have hrows := h.rowCount_lt
  have hcols := h.colCount_lt
  have hrows' := h'.rowCount_le_max
  have hcols' := h'.colCount_le_max
  exact ⟨h'.wellFormed, by omega, by omega⟩

/-! ### Growth and writing -/

/-- At least this many columns. -/
def ensureCols (g : Grid) (cols : Nat) : Checked Grid :=
  if cols > maxCols then do
    let last ← label (← pred cols).1
    throw (.failed (.column last))
  else return g.widen cols

/-- At least this many rows and columns. -/
def ensureRows (g : Grid) (rows cols : Nat) : Checked Grid :=
  if rows > maxRows then throw (.failed (.row (toString rows)))
  else if cols > maxCols then do
    let last ← label (← pred cols).1
    throw (.failed (.column last))
  else ensureCols (g.lengthen rows (max cols g.colCount)) cols

/-- A cell written, after growth to its position. -/
def set (g : Grid) (row col : Nat) (v : Cell) : Checked Grid := do
  let width := max g.colCount (← succ 64 col)
  let g ← ensureRows g (← succ 64 row) width
  match g.replace? row col v with
  | some g => return g
  | none => throw .outside

theorem ensureCols_eq_lift (g : Grid) {cols : Nat} (h : cols ≤ maxNumber) :
    ensureCols g cols = lift (g.ensureCols cols) := by
  unfold ensureCols Grid.ensureCols
  split
  · rw [pred_of_pos (by omega), ok_bind, label_eq (by dsimp only; omega)]
    rfl
  · rfl

theorem ensureRows_eq_lift (g : Grid) (rows : Nat) {cols : Nat} (h : cols ≤ maxNumber) :
    ensureRows g rows cols = lift (g.ensureRows rows cols) := by
  unfold ensureRows Grid.ensureRows
  split
  · rfl
  · split
    · rw [pred_of_pos (by omega), ok_bind, label_eq (by dsimp only; omega)]
      rfl
    · next hcols =>
      -- the bound is looked at once more, in vain
      rw [ensureCols_eq_lift _ h, Grid.ensureCols, if_neg hcols]

/-- A write never leaves the words, and it never goes outside the grid. -/
theorem set_eq_lift {g : Grid} (hg : Fits g) {row col : Nat} (hrow : row < maxNumber)
    (hcol : col < maxNumber) (v : Cell) : set g row col v = lift (g.set row col v) := by
  have hmax : maxNumber = 2 ^ 64 - 1 := rfl
  have hwidth := hg.colCount_lt
  rw [set, succ_of_lt (by omega), ok_bind, succ_of_lt (by omega), ok_bind,
    ensureRows_eq_lift g (row + 1) (by omega), Grid.set]
  cases hgrown : g.ensureRows (row + 1) (max g.colCount (col + 1)) with
  | error e => rfl
  | ok g' =>
    obtain ⟨cells, hcells, hlt⟩ := exists_row_of_ensureRows hg.wellFormed hgrown
    have hreplace : g'.replace? row col v = some (g'.place row col v) := by
      rw [replace?, hcells]
      exact if_pos hlt
    rw [lift_ok, ok_bind, hreplace]
    rfl

/-- Below the last row that a word can count there is none to grow to. -/
example : set ⟨[[.empty]]⟩ (2 ^ 64 - 1) 0 (.number 1) = .error .overflow := by decide +kernel

/-! ### Evaluation -/

/-- The position of an address, and the grid grown to it. -/
def resolve (r : Reference) (g : Grid) : Checked (Coord × Grid) := do
  let p ← ofParts r.letters r.digits
  let width := max g.colCount (← succ 64 p.col)
  let g ← ensureRows g (← succ 64 p.row) width
  return (p, g)

/-- The numeric value of a column in a row; a label that names no column has none. -/
def columnNumber? (label : String) (row : Nat) (g : Grid) : Checked (Option Float) :=
  match ofLabel label with
  | .ok col => return (g.get row col).toNumber?
  | .error (.failed _) => return none
  | .error stop => throw stop

/-- The cell that an expression stands for in a row, and the grid with every address it names. -/
def evaluate (e : Expression) (row : Nat) (g : Grid) : Checked (Cell × Grid) :=
  match e with
  | .quoted text => return (.text text, g)
  | .blank => return (.empty, g)
  | .cell source => do
    let (p, g) ← resolve source g
    return (g.getAt p, g)
  | .number x => return (.number x, g)
  | .columns left op right => do
    let x ← columnNumber? left row g
    let y ← columnNumber? right row g
    return (arithmetic x op y, g)
  | .cells left op right => do
    let (p, g) ← resolve left g
    let (q, g) ← resolve right g
    return (arithmetic (g.getAt p).toNumber? op (g.getAt q).toNumber?, g)
  | .cellNumber left op y => do
    let (p, g) ← resolve left g
    return (arithmetic (g.getAt p).toNumber? op (some y), g)
  | .label text => return (.text (String.ofList (Text.capitalizeWords text.toList)), g)

/-- The cell that the text of an expression stands for. -/
def evaluateText (text : String) (row : Nat) (g : Grid) : Checked (Cell × Grid) := do
  let e ← lift (Expression.ofText text)
  evaluate e row g

/-- The number that the text of an expression stands for. -/
def numericValue (text : String) (row : Nat) (g : Grid) : Checked (Float × Grid) := do
  let (v, g) ← evaluateText text row g
  match v.toNumber? with
  | some x => return (x, g)
  | none => throw (.failed (.notNumeric (String.ofList (Text.trim text.toList))))

/-- A success with the grid that it leaves; the grid that a failure leaves is not looked at. -/
def kept {α : Type} (result : Except SheetError α × Grid) : Except SheetError (α × Grid) :=
  result.1.map (·, result.2)

variable {g : Grid} (hg : Fits g)
include hg

theorem resolve_eq_lift (r : Reference) : resolve r g = lift (kept (r.resolve g)) := by
  have hmax : maxNumber = 2 ^ 64 - 1 := rfl
  have hwidth := hg.colCount_lt
  rw [resolve, ofParts_eq_lift, Reference.resolve]
  cases hp : Coord.ofParts r.letters r.digits with
  | error e => rfl
  | ok p =>
    obtain ⟨hletters, hdigits⟩ := Coord.ofParts_eq_ok.1 hp
    have hcol := Column.lt_of_ofLabel hletters
    have hrow := Row.lt_of_ofNumber hdigits
    rw [lift_ok, ok_bind, succ_of_lt (by omega), ok_bind, succ_of_lt (by omega), ok_bind,
      ensureRows_eq_lift g (p.row + 1) (by omega)]
    dsimp only
    cases g.ensureRows (p.row + 1) (max g.colCount (p.col + 1)) <;> rfl

omit hg in
theorem columnNumber?_eq (label : String) (row : Nat) (g : Grid) :
    columnNumber? label row g = .ok (GridTalk.columnNumber? label row g) := by
  rw [columnNumber?, GridTalk.columnNumber?, ofLabel_eq_lift]
  cases Column.ofLabel label <;> rfl

theorem evaluate_eq_lift (e : Expression) (row : Nat) :
    evaluate e row g = lift (kept (e.evaluate row g)) := by
  cases e with
  | quoted | blank | number | label => rfl
  | columns left op right =>
    rw [evaluate, columnNumber?_eq, columnNumber?_eq]
    rfl
  | cell source =>
    rw [evaluate, Expression.evaluate, resolve_eq_lift hg]
    rcases source.resolve g with ⟨_ | p, g'⟩ <;> rfl
  | cellNumber left op y =>
    rw [evaluate, Expression.evaluate, resolve_eq_lift hg]
    rcases left.resolve g with ⟨_ | p, g'⟩ <;> rfl
  | cells left op right =>
    rw [evaluate, Expression.evaluate, resolve_eq_lift hg]
    rcases left.resolve_cases hg.wellFormed with ⟨err, -, hl⟩ | ⟨p, g', -, hl, hpad, -⟩
    · rw [hl]
      rfl
    · -- the second address is resolved on the grid that has grown to the first one
      have hright := resolve_eq_lift (hg.of_growsTo hpad.toGrowsTo) right
      rw [hl]
      dsimp only [kept, Except.map, lift_ok, ok_bind]
      rw [hright]
      rcases right.resolve g' with ⟨_ | q, g''⟩ <;> rfl

theorem evaluateText_eq_lift (text : String) (row : Nat) :
    evaluateText text row g = lift (kept (GridTalk.evaluateText text row g)) := by
  rw [evaluateText, GridTalk.evaluateText]
  cases Expression.ofText text with
  | error e => rfl
  | ok e => exact evaluate_eq_lift hg e row

theorem numericValue_eq_lift (text : String) (row : Nat) :
    numericValue text row g = lift (kept (GridTalk.numericValue text row g)) := by
  rw [numericValue, GridTalk.numericValue, evaluateText_eq_lift hg]
  rcases GridTalk.evaluateText text row g with ⟨err | v, g'⟩
  · rfl
  · dsimp only [kept, Except.map, lift_ok, ok_bind]
    cases v.toNumber? <;> rfl

end GridTalk.Word
