import GridTalk.Proofs.Edit.Change
import GridTalk.Proofs.Expression.Addresses

/-!
# Setting a cell

The grid grows to the target's row before the expression is evaluated, by the evaluation itself, and
once more when the value is written.  The value is that of the grid as it was, and the grid becomes
no larger than the target and the addresses ask for.

* `exists_setCell`: within the bounds every value can be written.
* `setCell_bounds`, `setCell_spec`: what a write that succeeds says about the bounds, and what it
  has made of the grid.
* `setCell_outcome`: all of it for the edit.
-/

namespace GridTalk

open Expression Grid

variable {g : Grid} {target : Coord} {expression : String} {result : Grid × String}

/-- Within the bounds every value can be written. -/
theorem exists_setCell (hg : g.WellFormed) (hwidth : g.colCount ≤ maxCols)
    (hrow : target.row < maxRows) (hcol : target.col < maxCols) {v : Cell}
    (hv : (evaluateText expression target.row g).1 = .ok v) :
    ∃ result, setCell g target expression = .ok result := by
  obtain ⟨g₁, hgrown⟩ : ∃ g₁, g.ensureRows (target.row + 1) g.colCount = .ok g₁ :=
    ⟨_, ensureRows_eq_ok.2 ⟨hrow, hwidth, rfl⟩⟩
  have hpad := padsTo_ensureRows hg hgrown
  obtain ⟨g₂, hvalue⟩ : ∃ g₂, evaluateText expression target.row g₁ = (.ok v, g₂) :=
    ⟨_, Prod.ext ((evaluateText_of_padsTo hg hpad expression target.row).trans hv) rfl⟩
  have heval : g.PadsTo g₂ := by
    simpa [hvalue] using hpad.trans (padsTo_evaluateText hpad.wellFormed expression target.row)
  have hmax := heval.colCount_le_max
  obtain ⟨g₃, hset⟩ := exists_set (g := g₂) v hrow hcol (by omega)
  exact ⟨_, setCell_eq_ok.2 ⟨g₁, v, g₂, g₃, hgrown, hvalue, hset, rfl⟩⟩

/-- Nothing can be written out of the bounds. -/
theorem setCell_bounds (h : setCell g target expression = .ok result) :
    g.colCount ≤ maxCols ∧ target.row < maxRows ∧ target.col < maxCols := by
  obtain ⟨g₁, v, g₂, g₃, hgrown, -, hset, -⟩ := setCell_eq_ok.1 h
  obtain ⟨hrow, hwidth, -⟩ := ensureRows_eq_ok.1 hgrown
  obtain ⟨_, hgrown', -⟩ := set_eq_ok.1 hset
  obtain ⟨-, hcol, -⟩ := ensureRows_eq_ok.1 hgrown'
  exact ⟨hwidth, hrow, by omega⟩

/-- **The value is that of the grid as it was**, and so are all other cells.  The grid has grown in
three steps, and still it reaches just as far as the target and the addresses. -/
theorem setCell_spec (hg : g.WellFormed) (h : setCell g target expression = .ok result) :
    ∃ e v, ofText expression = .ok e ∧ (evaluateText expression target.row g).1 = .ok v ∧
      result.2 = "Set " ++ target.a1 ++ " to " ++ v.asText ∧
      result.1.HasShape (max (max g.rowCount (target.row + 1)) e.lastRow)
        (max (max g.colCount (target.col + 1)) e.lastColumn) ∧
      ∀ r c, result.1.get r c = if r = target.row ∧ c = target.col then v else g.get r c := by
  obtain ⟨g₁, v, g₂, g₃, hgrown, hvalue, hset, rfl⟩ := setCell_eq_ok.1 h
  have hpad := padsTo_ensureRows hg hgrown
  have hfst : (evaluateText expression target.row g₁).1 = .ok v := congrArg Prod.fst hvalue
  cases he : ofText expression with
  | error err =>
    rw [evaluateText_of_error he] at hfst
    cases hfst
  | ok e =>
    have hpad₂ : g.PadsTo g₂ := by
      simpa [hvalue] using hpad.trans (padsTo_evaluateText hpad.wellFormed expression target.row)
    have hgrown₁ := hg.hasShape.ensureRows hgrown
    obtain ⟨hrows, hcols⟩ :
        g₂.rowCount = max g₁.rowCount e.lastRow ∧ g₂.colCount = max g₁.colCount e.lastColumn := by
      rw [evaluateText_of_ok he] at hvalue hfst
      simpa [hvalue] using shape_evaluate hpad.wellFormed (isSpelled_of_ofText he) hfst
    refine ⟨e, v, rfl, (evaluateText_of_padsTo hg hpad _ _).symm.trans hfst, rfl, ?_, fun r c => ?_⟩
    · have hshape := hpad₂.wellFormed.hasShape.set hset
      rw [hrows, hcols, hgrown₁.rowCount_eq, hgrown₁.colCount_eq, Nat.max_self,
        Nat.max_right_comm, Nat.max_right_comm g.colCount, Nat.max_assoc g.rowCount,
        Nat.max_self] at hshape
      exact hshape
    · rw [get_of_set hpad₂.wellFormed hset, hpad₂.get]

/-- **A cell is set to the value that the expression has on the grid as it was.**  This succeeds
exactly if the grid is not too wide, the target lies within the bounds, and the expression has a
value.  The target then holds the value, every other cell is as it was, and the grid reaches just as
far as it did, as the target, and as the addresses in the text. -/
theorem setCell_outcome (rows : List (List Cell)) (target : Coord) (expression : String) :
    let g := ofRows rows
    let outcome := (Intent.setCell target expression).execute g
    let value := (evaluateText expression target.row g).1
    ((∃ edit, outcome = .ok edit) ↔ g.colCount ≤ maxCols ∧ target.row < maxRows ∧
      target.col < maxCols ∧ ∃ v, value = .ok v) ∧
    ∀ edit, outcome = .ok edit → ∃ e, ofText expression = .ok e ∧
      value = .ok (edit.grid.getAt target) ∧
      edit.message = "Set " ++ target.a1 ++ " to " ++ (edit.grid.getAt target).asText ∧
      edit.grid.rowCount = max (max g.rowCount (target.row + 1)) e.lastRow ∧
      edit.grid.colCount = max (max g.colCount (target.col + 1)) e.lastColumn ∧
      ∀ r c, ¬(r = target.row ∧ c = target.col) → edit.grid.get r c = g.get r c := by
  intro g outcome value
  have hg : g.WellFormed := wellFormed_ofRows rows
  refine ⟨⟨?_, ?_⟩, fun edit hedit => ?_⟩
  · rintro ⟨edit, hedit⟩
    obtain ⟨result, hresult, -⟩ := Intent.execute_eq_ok.1 hedit
    obtain ⟨hwidth, hrow, hcol⟩ := setCell_bounds hresult
    obtain ⟨e, v, -, hv, -⟩ := setCell_spec hg hresult
    exact ⟨hwidth, hrow, hcol, v, hv⟩
  · rintro ⟨hwidth, hrow, hcol, v, hv⟩
    obtain ⟨result, hresult⟩ := exists_setCell hg hwidth hrow hcol hv
    exact ⟨_, Intent.execute_eq_ok.2 ⟨result, hresult, rfl⟩⟩
  · obtain ⟨result, hresult, rfl⟩ := Intent.execute_eq_ok.1 hedit
    obtain ⟨e, v, he, hv, hmessage, hshape, hget⟩ := setCell_spec hg hresult
    have htarget : result.1.getAt target = v := by
      rw [getAt, hget, if_pos ⟨rfl, rfl⟩]
    dsimp only
    rw [normalized_of_wellFormed hshape.wellFormed, htarget]
    refine ⟨e, he, hv, hmessage, hshape.rowCount_eq, hshape.colCount_eq, fun r c hother => ?_⟩
    rw [hget, if_neg hother]

/-- The expression reads the target itself. -/
theorem setCell_outcome_itself :
    let g := ofRows [[.text "n"], [.number 4]]
    ∃ edit, (Intent.setCell ⟨1, 0⟩ "a2 * a2").execute g = .ok edit ∧
      edit.grid.getAt ⟨1, 0⟩ = .number 16 ∧ edit.grid.rowCount = 2 ∧ edit.grid.colCount = 1 := by
  intro g
  have hwidth : g.colCount ≤ maxCols := by decide
  have hvalue : (evaluateText "a2 * a2" 1 g).1 = .ok (.number 16) := by decide +kernel
  have htext : ofText "a2 * a2" = .ok (.cells ⟨"a", "2"⟩ .mul ⟨"a", "2"⟩) := by decide +kernel
  obtain ⟨hok, hspec⟩ := setCell_outcome [[.text "n"], [.number 4]] ⟨1, 0⟩ "a2 * a2"
  obtain ⟨edit, hedit⟩ := hok.2 ⟨hwidth, by decide, by decide, _, hvalue⟩
  obtain ⟨e, he, hv, -, hrows, hcols, -⟩ := hspec edit hedit
  obtain rfl := Except.ok.inj (htext.symm.trans he)
  exact ⟨edit, hedit, Except.ok.inj (hv.symm.trans hvalue), hrows.trans (by decide),
    hcols.trans (by decide)⟩

end GridTalk
