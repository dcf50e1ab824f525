import GridTalk.Proofs.Edit.Setting
import GridTalk.Proofs.Intent.Amount
import GridTalk.Proofs.Session.Replay

/-!
# Writing into a loaded dataset

A dataset of any size can be loaded, and only growth is bounded.  But each write asks for the whole
width of the grid again, so that a grid which was loaded too wide can be written nowhere.

* `exists_setCell_number`: a number is written to a position of the grid within the bounds.
* `setCell_of_maxRows_le`, `setCell_of_maxCols_lt`: the two refusals, whatever is to be written.
* `Session.run_setCell_of_load`: which cells of a dataset can be written.
* `Session.run_setCell_too_wide`: the first cell of a dataset that is one column too wide.
-/

namespace GridTalk

open Grid Text

/-! ### The edit -/

/-- A number inside the grid goes where it should, and nothing else changes. -/
theorem exists_setCell_number {g : Grid} (hg : g.WellFormed) {target : Coord}
    (hrow : target.row < g.rowCount) (hcol : target.col < g.colCount)
    (hbound : target.row < maxRows) (hwidth : g.colCount ≤ maxCols) {number : String} {x : Float}
    (hnumber : Expression.ofText number = .ok (.number x)) :
    ∃ result, setCell g target number = .ok result ∧
      result.1.HasShape g.rowCount g.colCount ∧
      ∀ r c, result.1.get r c
        = if r = target.row ∧ c = target.col then .number x else g.get r c := by
  have hvalue : (evaluateText number target.row g).1 = .ok (.number x) := by
    rw [evaluateText_of_ok hnumber]
    rfl
  obtain ⟨result, hresult⟩ :=
    exists_setCell hg hwidth hbound (Nat.lt_of_lt_of_le hcol hwidth) hvalue
  obtain ⟨e, v, he, hv, -, hshape, hget⟩ := setCell_spec hg hresult
  obtain rfl := Except.ok.inj (hnumber.symm.trans he)
  obtain rfl := Except.ok.inj (hvalue.symm.trans hv)
  have hlast : (Expression.number x).lastRow = 0 ∧ (Expression.number x).lastColumn = 0 :=
    ⟨rfl, rfl⟩
  rw [hlast.1, hlast.2, Nat.max_zero, Nat.max_zero, Nat.max_eq_left hrow,
    Nat.max_eq_left hcol] at hshape
  exact ⟨result, hresult, hshape, hget⟩

/-- No row beyond the bound is written. -/
theorem setCell_of_maxRows_le {g : Grid} {target : Coord} (h : maxRows ≤ target.row)
    (expression : String) :
    setCell g target expression = .error (.row (toString (target.row + 1))) := by
  have hrefused : g.ensureRows (target.row + 1) g.colCount
      = .error (.row (toString (target.row + 1))) := if_pos (Nat.lt_succ_of_le h)
  rw [setCell, hrefused]
  rfl

/-- A grid beyond the bound is written nowhere, and its last column is blamed. -/
theorem setCell_of_maxCols_lt {g : Grid} {target : Coord} (hrow : target.row < maxRows)
    (h : maxCols < g.colCount) (expression : String) :
    setCell g target expression = .error (.column (Column.label (g.colCount - 1))) := by
  have hrefused : g.ensureRows (target.row + 1) g.colCount
      = .error (.column (Column.label (g.colCount - 1))) := by
    rw [ensureRows, if_neg (Nat.not_lt.2 hrow), if_pos h]
  rw [setCell, hrefused]
  rfl

/-- A number is a line of its own. -/
theorem isLine_of_ofText {number : String} {x : Float} (htrim : trim number.toList = number.toList)
    (hnumber : Expression.ofText number = .ok (.number x)) : IsLine number := by
  have hrun := Expression.isRun_of_ofText hnumber
  rw [htrim] at hrun
  exact ⟨hrun.1, fun hmem => absurd (hrun.2 _ hmem) (by decide), htrim⟩

/-! ### The instruction -/

/-- The instruction is carried out if its address can be read. -/
theorem applyInstruction_sentence_setCell {target : Coord} {expression : String}
    (hline : IsLine expression) (g : Grid) :
    applyInstruction g (Intent.setCell target expression).sentence =
      match Coord.ofParts (Column.label target.col) (toString (target.row + 1)) with
      | .ok target => (Intent.setCell target expression).execute g
      | .error e => .error e := by
  rw [applyInstruction, Intent.ofText_sentence_address hline]
  cases Coord.ofParts (Column.label target.col) (toString (target.row + 1)) <;> rfl

theorem execute_setCell_of_error {g : Grid} {target : Coord} {expression : String} {e : SheetError}
    (h : setCell g target expression = .error e) :
    (Intent.setCell target expression).execute g = .error e := by
  rw [Intent.execute, Intent.perform, h]
  rfl

namespace Session

variable {number : String} {g : Grid} {target : Coord}

/-- With an instruction that fails the session stays as it is. -/
theorem run_of_applyInstruction_error {session : Session} {text : String} {e : SheetError}
    (hgrid : session.grid = some g) (h : applyInstruction g text = .error e) :
    session.run text = (.error e, session) := by
  rw [run, hgrid]
  dsimp only
  rw [h]

/-- Every write to a grid that is too wide is refused for its last column. -/
theorem run_setCell_of_maxCols_lt {session : Session} {expression : String}
    (hgrid : session.grid = some g) (hwidth : maxCols < g.colCount) (hrow : target.row < maxRows)
    (hcol : target.col < maxCols) (hline : IsLine expression) :
    session.run (Intent.setCell target expression).sentence
      = (.error (.column (Column.label (g.colCount - 1))), session) := by
  refine run_of_applyInstruction_error hgrid ?_
  rw [applyInstruction_sentence_setCell hline,
    Coord.ofParts_a1 (Nat.lt_trans hrow (by decide)) (Nat.lt_trans hcol (by decide))]
  exact execute_setCell_of_error (setCell_of_maxCols_lt hrow hwidth expression)

/-- **Which cells of a dataset can be written.**  If the dataset is not too wide, a number can be
written to each of its cells down to the last possible row, and all other cells stay as they are.
Any other cell is refused, and the session stays as it is; in a dataset that is too wide this
strikes also the cells within the bounds, which are refused for a column they are not in. -/
theorem run_setCell_of_load (session : Session) (rows : List (List Cell))
    (sheetName fileName : String) {target : Coord} {number : String} {x : Float}
    (hrow : target.row < (ofRows rows).rowCount) (hcol : target.col < (ofRows rows).colCount)
    (htrim : trim number.toList = number.toList)
    (hnumber : Expression.ofText number = .ok (.number x)) :
    let g := ofRows rows
    let loaded := session.load rows sheetName fileName
    let after := loaded.run (Intent.setCell target number).sentence
    (target.row < maxRows → g.colCount ≤ maxCols → ∃ edit, after.1 = .ok edit ∧
      after.2.grid = some edit.grid ∧ edit.grid.rowCount = g.rowCount ∧
      edit.grid.colCount = g.colCount ∧ edit.grid.getAt target = .number x ∧
      ∀ r c, ¬(r = target.row ∧ c = target.col) → edit.grid.get r c = g.get r c) ∧
    (maxRows ≤ target.row ∨ maxCols < g.colCount → ∃ kind token,
      after = (.error (.invalidReference kind token), loaded)) ∧
    (target.row < maxRows → target.col < maxCols → maxCols < g.colCount →
      after = (.error (.column (Column.label (g.colCount - 1))), loaded)) := by
  intro g loaded after
  have hg : g.WellFormed := wellFormed_ofRows rows
  have hgrid : loaded.grid = some g := rfl
  have hline := isLine_of_ofText htrim hnumber
  refine ⟨fun hbound hwidth => ?_, fun hbound => ?_, fun hbound hcol' hwidth =>
    run_setCell_of_maxCols_lt hgrid hwidth hbound hcol' hline⟩
  · obtain ⟨result, hresult, hshape, hget⟩ :=
      exists_setCell_number hg hrow hcol hbound hwidth hnumber
    have hread := Coord.ofParts_a1 (p := target) (Nat.lt_trans hbound (by decide))
      (Nat.lt_trans (Nat.lt_of_lt_of_le hcol hwidth) (by decide))
    have hafter : after.1 = .ok ⟨result.1.normalized, result.2, .setCell⟩ := by
      rw [run_fst_of_grid_eq_some hgrid, applyInstruction_sentence_setCell hline, hread]
      exact Intent.execute_eq_ok.2 ⟨result, hresult, rfl⟩
    have hstored : after.2.grid = some result.1.normalized := by
      obtain ⟨_, -, -, hnext⟩ := run_of_ok hafter
      rw [hnext]
    refine ⟨_, hafter, hstored, ?_⟩
    rw [normalized_of_wellFormed hshape.wellFormed]
    refine ⟨hshape.rowCount_eq, hshape.colCount_eq, ?_, fun r c hne => ?_⟩
    · rw [getAt, hget, if_pos ⟨rfl, rfl⟩]
    · rw [hget, if_neg hne]
  · have happly : applyInstruction g (Intent.setCell target number).sentence = _ :=
      applyInstruction_sentence_setCell hline g
    cases hread : Coord.ofParts (Column.label target.col) (toString (target.row + 1)) with
    | error e =>
      rw [hread] at happly
      have hrefused : after = (.error e, loaded) := run_of_applyInstruction_error hgrid happly
      rcases Coord.ofParts_eq_error hread with ⟨-, rfl⟩ | ⟨-, rfl⟩
      · exact ⟨_, _, hrefused⟩
      · exact ⟨_, _, hrefused⟩
    | ok p =>
      obtain rfl := Coord.eq_of_ofParts_a1 hread
      rw [hread] at happly
      by_cases hlow : maxRows ≤ p.row
      · have hedit := execute_setCell_of_error (setCell_of_maxRows_le (g := g) hlow number)
        exact ⟨_, _, run_of_applyInstruction_error hgrid (happly.trans hedit)⟩
      · have hwide := hbound.resolve_left hlow
        have hedit := execute_setCell_of_error
          (setCell_of_maxCols_lt (Nat.not_le.1 hlow) hwide number)
        exact ⟨_, _, run_of_applyInstruction_error hgrid (happly.trans hedit)⟩

/-- An empty cell of the data. -/
theorem run_setCell_of_load_number :
    let rows : List (List Cell) := [[.text "n", .text "m"], [.empty, .number 1]]
    let loaded := (new 0).load rows "" ""
    1 < (ofRows rows).rowCount ∧ 0 < (ofRows rows).colCount ∧
      trim "-2.5".toList = "-2.5".toList ∧ Expression.ofText "-2.5" = .ok (.number (-2.5)) ∧
      ∃ edit, (loaded.run "set cell A2 to -2.5").1 = .ok edit ∧
        edit.grid.get 1 0 = .number (-2.5) ∧ edit.grid.get 1 1 = .number 1 := by
  intro rows loaded
  let target : Coord := ⟨1, 0⟩
  have hrow : target.row < (ofRows rows).rowCount := by decide
  have hcol : target.col < (ofRows rows).colCount := by decide
  have htrim : trim "-2.5".toList = "-2.5".toList := by decide
  have hnumber : Expression.ofText "-2.5" = .ok (.number (-2.5)) := by decide +kernel
  have hsentence : (Intent.setCell ⟨1, 0⟩ "-2.5").sentence = "set cell A2 to -2.5" := by
    decide +kernel
  obtain ⟨edit, hedit, -, -, -, hget, hrest⟩ :=
    (run_setCell_of_load (new 0) rows "" "" hrow hcol htrim hnumber).1 (by decide) (by decide)
  rw [hsentence] at hedit
  exact ⟨hrow, hcol, htrim, hnumber, edit, hedit, hget, hrest 1 1 (by decide)⟩

/-- One row of empty cells is as wide as it is long. -/
theorem colCount_ofRows_singleton (n : Nat) : (ofRows [List.replicate n .empty]).colCount = n := by
  rw [colCount_ofRows (by simp)]
  simp [widest]

/-- **A dataset that is one column too wide.**  Its first cell is within the bounds, and still it
cannot be written. -/
theorem run_setCell_too_wide :
    let rows : List (List Cell) := [List.replicate 16385 .empty]
    let loaded := (new 0).load rows "" ""
    loaded.grid = some (ofRows rows) ∧ 0 < (ofRows rows).rowCount ∧ 0 < (ofRows rows).colCount ∧
      0 < maxRows ∧ 0 < maxCols ∧ Expression.ofText "5" = .ok (.number 5) ∧
      loaded.run "set cell A1 to 5" = (.error (.column "XFE"), loaded) := by
  intro rows loaded
  have hwidth : (ofRows rows).colCount = 16385 := colCount_ofRows_singleton 16385
  have hsentence : (Intent.setCell ⟨0, 0⟩ "5").sentence = "set cell A1 to 5" := by decide +kernel
  have hlabel : Column.label (16385 - 1) = "XFE" := by decide +kernel
  have hrun : loaded.run (Intent.setCell ⟨0, 0⟩ "5").sentence
      = (.error (.column (Column.label ((ofRows rows).colCount - 1))), loaded) :=
    run_setCell_of_maxCols_lt rfl (by rw [hwidth]; decide) (by decide) (by decide)
      ⟨by decide, by decide, by decide⟩
  rw [hsentence, hwidth, hlabel] at hrun
  exact ⟨rfl, (wellFormed_ofRows rows).hasShape.pos, by omega, by decide, by decide,
    by decide +kernel, hrun⟩

end Session

end GridTalk
