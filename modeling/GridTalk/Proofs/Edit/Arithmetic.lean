import GridTalk.Proofs.Address.RoundTrip
import GridTalk.Proofs.Edit.Change
import GridTalk.Proofs.Expression.Unambiguous

/-!
# Three ways to calculate

A formula of two columns reads them in the row that is being written, a formula of two cells lets
the grid grow to them, and the edit that computes a column reads the grid which it is writing.

* `ofText_operation_columns`, `ofText_operation_cells`: both formulas, written and read.
* `evaluateText_columns`, `evaluateText_cells`: their values on the grid as it was.
* `ComputedUpTo`: what the rows above a row look like while a column is being computed, which
  `computedUpTo_set` and `computedUpTo_foldlM` carry through the rows; so that
  `computedUpTo_addColumn` tells what the whole column looks like.
* `arithmetic_agrees`: the three results are one.
-/

namespace GridTalk

open Grid Text

/-! ### Formulas, written and read -/

namespace Expression

/-- Two operands around an operator, with a space on either side of it. -/
def operation (left : String) (op : Operator) (right : String) : String :=
  String.ofList (left.toList ++ ([' ', op.symbol, ' '] ++ right.toList))

theorem toList_operation (left : String) (op : Operator) (right : String) :
    (operation left op right).toList = left.toList ++ ([' ', op.symbol, ' '] ++ right.toList) :=
  String.toList_ofList

section Operation

variable {left right : String} (hleft : IsRun Char.isAlphanum left.toList)
  (hright : IsRun Char.isAlphanum right.toList) (op : Operator)
include hleft hright

theorem trim_operation :
    trim (operation left op right).toList = (operation left op right).toList := by
  rw [toList_operation, trim_eq_self_iff]
  exact (isWord_of_isAlphanum hleft).trimmed.append hleft.1
    (isWord_of_isAlphanum hright).trimmed hright.1 _

theorem kelvin_not_mem_operation : '\u212a' ∉ (operation left op right).toList := by
  have hoperator : '\u212a' ∉ [' ', op.symbol, ' '] := by cases op <;> decide
  have hname : ∀ {s : List Char}, IsRun Char.isAlphanum s → '\u212a' ∉ s := fun hs hmem =>
    absurd (hs.2 _ hmem) (by decide)
  rw [toList_operation, List.mem_append, List.mem_append]
  rintro (hmem | hmem | hmem)
  · exact hname hleft hmem
  · exact hoperator hmem
  · exact hname hright hmem

/-- An operation is read as what its two operands spell. -/
theorem ofText_operation {form : Form} {e : Expression}
    (h : form.Spelled (operation left op right).toList e) :
    ofText (operation left op right) = .ok e := by
  rw [← trim_operation hleft hright op] at h
  exact ofText_of_spelled (kelvin_not_mem_operation hleft hright op) h

end Operation

theorem spellsOperation {α β : Type} {Left : α → List Char → Prop} {Right : β → List Char → Prop}
    {a : α} {b : β} {left right : String} (op : Operator) (hleft : Left a left.toList)
    (hright : Right b right.toList) :
    SpellsOperation Left Right (a, op, b) (operation left op right).toList := by
  refine ⟨left.toList, [' '], [' '], right.toList, ?_, hleft, by decide, by decide, hright⟩
  rw [toList_operation]
  rfl

theorem spellsLetters_label (col : Nat) :
    SpellsLetters (Column.label col) (Column.label col).toList :=
  ⟨rfl, Column.isRun_label col⟩

/-- The usual spelling of a position as an address. -/
theorem spellsReference_a1 (p : Coord) :
    SpellsReference ⟨Column.label p.col, toString (p.row + 1)⟩ p.a1.toList :=
  ⟨p.toList_a1, Column.isRun_label p.col, Row.isRun_toString (p.row + 1)⟩

theorem ofText_operation_columns (left right : Nat) (op : Operator) :
    ofText (operation (Column.label left) op (Column.label right))
      = .ok (.columns (Column.label left) op (Column.label right)) := by
  have hlabel : ∀ col, IsRun Char.isAlphanum (Column.label col).toList := fun col =>
    (Column.isRun_label col).imp isAlphanum_of_isAlpha
  exact ofText_operation (hlabel left) (hlabel right) op
    (.columns (spellsOperation op (spellsLetters_label left) (spellsLetters_label right)))

theorem ofText_operation_cells (p q : Coord) (op : Operator) :
    ofText (operation p.a1 op q.a1)
      = .ok (.cells ⟨Column.label p.col, toString (p.row + 1)⟩ op
          ⟨Column.label q.col, toString (q.row + 1)⟩) := by
  have ha1 : ∀ p : Coord, IsRun Char.isAlphanum p.a1.toList := fun p => by
    rw [p.toList_a1]
    exact ((Column.isRun_label p.col).imp isAlphanum_of_isAlpha).append
      ((Row.isRun_toString (p.row + 1)).imp isAlphanum_of_isDigit)
  exact ofText_operation (ha1 p) (ha1 q) op
    (.cells (spellsOperation op (spellsReference_a1 p) (spellsReference_a1 q)))

/-- Every position within the bounds can be located on a grid that is not too wide. -/
theorem locate_a1 {width : Nat} (hwidth : width ≤ maxCols) {p : Coord} (hrow : p.row < maxRows)
    (hcol : p.col < maxCols) :
    Reference.locate ⟨Column.label p.col, toString (p.row + 1)⟩ width = .ok p :=
  Reference.locate_eq_ok.2 ⟨Coord.ofParts_a1 (Nat.lt_trans hrow (by decide))
    (Nat.lt_trans hcol (by decide)), hrow, Nat.max_le.2 ⟨hwidth, hcol⟩⟩

theorem columnNumber?_label {col : Nat} (hcol : col < maxCols) (row : Nat) (g : Grid) :
    columnNumber? (Column.label col) row g = (g.get row col).toNumber? := by
  rw [columnNumber?, Column.ofLabel_label (Nat.lt_trans hcol (by decide))]

end Expression

open Expression

section Formulas

variable {g : Grid} {left right : Nat} (hleft : left < maxCols) (hright : right < maxCols)
include hleft hright

theorem evaluateText_columns (op : Operator) (row : Nat) (g : Grid) :
    (evaluateText (operation (Column.label left) op (Column.label right)) row g).1
      = .ok (arithmetic (g.get row left).toNumber? op (g.get row right).toNumber?) := by
  rw [evaluateText, ofText_operation_columns]
  dsimp only [evaluate]
  rw [columnNumber?_label hleft, columnNumber?_label hright]

theorem evaluateText_cells (hg : g.WellFormed) (hwidth : g.colCount ≤ maxCols) (op : Operator)
    {row : Nat} (hrow : row < maxRows) (context : Nat) :
    (evaluateText (operation (Coord.a1 ⟨row, left⟩) op (Coord.a1 ⟨row, right⟩)) context g).1
      = .ok (arithmetic (g.get row left).toNumber? op (g.get row right).toNumber?) := by
  have hl := locate_a1 hwidth (p := ⟨row, left⟩) hrow hleft
  have hr := locate_a1 hwidth (p := ⟨row, right⟩) hrow hright
  rw [evaluateText, ofText_operation_cells]
  dsimp only
  rw [evaluate_fst hg, outcome, hl, hr]
  rfl

end Formulas

/-! ### A column computed in place -/

/-- The edit rounds as formulas do. -/
theorem combined_eq_arithmetic (g : Grid) (row left right : Nat) (subtract : Bool) :
    combined g row left right subtract
      = arithmetic (g.get row left).toNumber? (if subtract then .sub else .add)
          (g.get row right).toNumber? := by
  unfold combined arithmetic
  cases (g.get row left).toNumber? with
  | none => rfl
  | some x =>
    cases (g.get row right).toNumber? with
    | none => rfl
    | some y => cases subtract <;> rfl

/-- The grid `g'` is `g` with the target computed in the data rows above `row`; its title may have
been written as well. -/
structure ComputedUpTo (target left right : Nat) (subtract : Bool) (g : Grid) (row : Nat)
    (g' : Grid) : Prop extends ChangesTo (fun r c => r < row ∧ c = target) g g' where
  computed : ∀ r, 1 ≤ r → r < row → g'.get r target = combined g r left right subtract

section Step

variable {target left right row : Nat} {subtract : Bool} {g g' g'' : Grid}

/-- One row keeps the invariant.  The row that is read has not been written yet, whichever of the
columns is the target. -/
theorem computedUpTo_set (h : ComputedUpTo target left right subtract g row g')
    (hset : g'.set row target (combined g' row left right subtract) = .ok g'') :
    ComputedUpTo target left right subtract g (row + 1) g'' := by
  have hget := get_of_set h.wellFormed hset
  have hsame : combined g' row left right subtract = combined g row left right subtract := by
    have hread : ∀ c, g'.get row c = g.get row c := fun c => h.get_eq row c fun hw => by omega
    rw [combined, combined, hread, hread]
  have hmore : ChangesTo (fun r c => r < row + 1 ∧ c = target) g g'' :=
    (h.mono fun r c hw => ⟨by omega, hw.2⟩).trans
      ((changesTo_set h.wellFormed hset).mono fun r c hw => ⟨by omega, hw.2⟩)
  refine ⟨hmore, fun r h1 h2 => ?_⟩
  by_cases hlast : r = row
  · subst hlast
    rw [hget, if_pos ⟨rfl, rfl⟩, hsame]
  · rw [hget, if_neg fun hw => hlast hw.1]
    exact h.computed r h1 (by omega)

/-- All rows keep it. -/
theorem computedUpTo_foldlM {n : Nat} (h : ComputedUpTo target left right subtract g row g')
    (hrun : (List.range' row n).foldlM
      (fun g row => g.set row target (combined g row left right subtract)) g' = .ok g'') :
    ComputedUpTo target left right subtract g (row + n) g'' := by
  induction n generalizing row g' with
  | zero =>
    obtain rfl := pure_eq_ok.1 hrun
    exact h
  | succ n ih =>
    rw [List.range'_succ] at hrun
    obtain ⟨g₁, hset, hrest⟩ := bind_eq_ok.1 hrun
    rw [Nat.add_comm n, ← Nat.add_assoc]
    exact ih (computedUpTo_set h hset) hrest

/-- Within the bounds every row can be written. -/
theorem exists_foldlM_set (hwidth : g.colCount ≤ maxCols) (htarget : target < maxCols) (n : Nat)
    (h : ComputedUpTo target left right subtract g row g') (hrows : row + n ≤ maxRows) :
    ∃ g'', (List.range' row n).foldlM
      (fun g row => g.set row target (combined g row left right subtract)) g' = .ok g'' := by
  induction n generalizing row g' with
  | zero => exact ⟨g', rfl⟩
  | succ n ih =>
    have hwidth' : g'.colCount ≤ maxCols :=
      Nat.le_trans h.colCount_le_max (Nat.max_le.2 ⟨hwidth, Nat.le_refl _⟩)
    have hrow : row < maxRows := by omega
    obtain ⟨g₁, hset⟩ := exists_set (combined g' row left right subtract) hrow htarget hwidth'
    obtain ⟨g₂, hrest⟩ := ih (computedUpTo_set h hset) (by omega)
    exact ⟨g₂, by rw [List.range'_succ]; exact bind_eq_ok.2 ⟨g₁, hset, hrest⟩⟩

end Step

section Column

variable {g g₁ g₂ : Grid} {target left right : Nat} {subtract : Bool}

variable (left right subtract) in
/-- When the title has been written, no data row has been computed, and no row has been added. -/
theorem computedUpTo_title (hg : g.WellFormed) {cols : Nat} {title : Cell}
    (hwide : g.ensureCols cols = .ok g₁) (htarget : target < cols)
    (htitle : g₁.set 0 target title = .ok g₂) :
    ComputedUpTo target left right subtract g 1 g₂ ∧ g₂.rowCount = g.rowCount := by
  have hpos := hg.hasShape.pos
  have hpad := padsTo_ensureCols hg hwide
  obtain ⟨-, hshape, -⟩ := set_title_spec hg hwide htarget htitle
  exact ⟨⟨hpad.changesTo ((changesTo_set hpad.wellFormed htitle).mono fun r c hw =>
    ⟨by omega, hw.2⟩), fun r h1 h2 => absurd h1 (by omega)⟩, hshape.rowCount_eq⟩

/-- Every data row of the target is computed on the grid as it was. -/
theorem computedUpTo_addColumn (hg : g.WellFormed) {result : Grid × String}
    (h : addColumn g target left right subtract = .ok result) :
    ComputedUpTo target left right subtract g g.rowCount result.1 := by
  obtain ⟨g₁, hwide, g₂, htitle, g₃, hrun, rfl⟩ := addColumn_eq_ok.1 h
  obtain ⟨hstart, hcount⟩ := computedUpTo_title left right subtract hg hwide (by omega) htitle
  have hcomputed := computedUpTo_foldlM hstart hrun
  rwa [hcount, Nat.add_sub_cancel' hg.hasShape.pos] at hcomputed

/-- Within the bounds the edit succeeds. -/
theorem exists_addColumn (hg : g.WellFormed) (hwidth : g.colCount ≤ maxCols)
    (hheight : g.rowCount ≤ maxRows) (htarget : target < maxCols) (hleft : left < maxCols)
    (hright : right < maxCols) (subtract : Bool) :
    ∃ result, addColumn g target left right subtract = .ok result ∧
      ComputedUpTo target left right subtract g g.rowCount result.1 := by
  have hpos := hg.hasShape.pos
  have htarget' : target < max (max target left) right + 1 := by omega
  obtain ⟨g₁, g₂, hwide, htitle⟩ :=
    exists_set_title (.text (Column.label left ++ (if subtract then "-" else "+")
      ++ Column.label right)) hg hwidth htarget' (by omega)
  obtain ⟨hstart, hcount⟩ := computedUpTo_title left right subtract hg hwide htarget' htitle
  obtain ⟨g₃, hrun⟩ := exists_foldlM_set hwidth htarget (g₂.rowCount - 1) hstart (by omega)
  have hresult : addColumn g target left right subtract = .ok _ :=
    addColumn_eq_ok.2 ⟨g₁, hwide, g₂, htitle, g₃, hrun, rfl⟩
  exact ⟨_, hresult, computedUpTo_addColumn hg hresult⟩

end Column

/-- **All arithmetic is one.**  Two columns in a row are worth as much as their two cells in this
row, wherever the formula stands; and a column that is computed from them has this value in each of
its rows, also if it is one of the two. -/
theorem arithmetic_agrees {g : Grid} (hg : g.WellFormed) (hwidth : g.colCount ≤ maxCols)
    {left right : Nat} (hleft : left < maxCols) (hright : right < maxCols) :
    (∀ (op : Operator) (row context : Nat), row < maxRows → ∃ v : Cell,
      (evaluateText (operation (Column.label left) op (Column.label right)) row g).1 = .ok v ∧
      (evaluateText (operation (Coord.a1 ⟨row, left⟩) op (Coord.a1 ⟨row, right⟩)) context g).1
        = .ok v) ∧
    ∀ (target : Nat) (subtract : Bool), target < maxCols → g.rowCount ≤ maxRows →
      ∃ edit, (Intent.addColumn target left right subtract).execute g = .ok edit ∧
        ∀ row, 1 ≤ row → row < g.rowCount →
          (evaluateText (operation (Column.label left) (if subtract then .sub else .add)
            (Column.label right)) row g).1 = .ok (edit.grid.get row target) := by
  refine ⟨fun op row context hrow => ⟨_, evaluateText_columns hleft hright op row g,
    evaluateText_cells hleft hright hg hwidth op hrow context⟩,
    fun target subtract htarget hheight => ?_⟩
  obtain ⟨result, hresult, hcomputed⟩ :=
    exists_addColumn hg hwidth hheight htarget hleft hright subtract
  refine ⟨_, Intent.execute_eq_ok.2 ⟨result, hresult, rfl⟩, fun row h1 h2 => ?_⟩
  rw [normalized_of_wellFormed hcomputed.wellFormed, evaluateText_columns hleft hright,
    hcomputed.computed row h1 h2, combined_eq_arithmetic]

/-- The target is the right operand, and a truth value has no part in arithmetic. -/
theorem arithmetic_agrees_in_place :
    let g := ofRows [[.text "n", .text "m"], [.number 1.5, .text "2,5"], [.boolean true, .number 3]]
    g.WellFormed ∧ g.colCount ≤ maxCols ∧ g.rowCount ≤ maxRows ∧ 0 < maxCols ∧ 1 < maxCols ∧
      (evaluateText "A + B" 1 g).1 = .ok (.number 4) ∧
      (evaluateText "A2 + B2" 0 g).1 = .ok (.number 4) ∧
      ∃ edit, (Intent.addColumn 1 0 1 false).execute g = .ok edit ∧
        edit.grid.get 1 1 = .number 4 ∧ edit.grid.get 2 1 = .empty := by
  intro g
  have hg : g.WellFormed := wellFormed_ofRows _
  have hwidth : g.colCount ≤ maxCols := by decide
  have hheight : g.rowCount ≤ maxRows := by decide
  have hleft : 0 < maxCols := by decide
  have hright : 1 < maxCols := by decide
  obtain ⟨hcells, hcolumn⟩ := arithmetic_agrees hg hwidth hleft hright
  have hcolumns : operation (Column.label 0) .add (Column.label 1) = "A + B" := by decide +kernel
  have htexts : operation (Coord.a1 ⟨1, 0⟩) .add (Coord.a1 ⟨1, 1⟩) = "A2 + B2" := by decide +kernel
  have hfirst : (evaluateText "A + B" 1 g).1 = .ok (.number 4) := by decide +kernel
  have hsecond : (evaluateText "A + B" 2 g).1 = .ok .empty := by decide +kernel
  obtain ⟨v, hv, hv'⟩ := hcells .add 1 0 (by decide)
  obtain ⟨edit, hedit, hrows⟩ := hcolumn 1 false hright hheight
  rw [hcolumns] at hv
  rw [htexts] at hv'
  have hrows' : ∀ row, 1 ≤ row → row < g.rowCount →
      (evaluateText "A + B" row g).1 = .ok (edit.grid.get row 1) := by
    rw [← hcolumns]
    exact hrows
  refine ⟨hg, hwidth, hheight, hleft, hright, hfirst, ?_, edit, hedit, ?_, ?_⟩
  · exact hv'.trans (hv.symm.trans hfirst)
  · exact Except.ok.inj ((hrows' 1 (by decide) (by decide)).symm.trans hfirst)
  · exact Except.ok.inj ((hrows' 2 (by decide) (by decide)).symm.trans hsecond)

end GridTalk
