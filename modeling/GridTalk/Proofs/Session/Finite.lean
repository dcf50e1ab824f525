import GridTalk.Proofs.Edit.Finite
import GridTalk.Proofs.Session.Growth

/-!
# No number out of range

An instruction can calculate a number that is out of range, but it never writes one.  So a dataset
of finite numbers stays one, however many instructions are run on it.

* `isFinite_applyInstruction`: one instruction.
* `Session.inRange_runAll`: any instructions, and what calculating on the grid that they leave can
  lead to.
-/

namespace GridTalk

open Grid

theorem isFinite_applyInstruction {g : Grid} {text : String} {edit : Edit} (hg : g.WellFormed)
    (hfinite : g.IsFinite) (h : applyInstruction g text = .ok edit) : edit.grid.IsFinite := by
  obtain ⟨intent, -, h⟩ := bind_eq_ok.1 h
  exact isFinite_execute hg hfinite h

namespace Session

/-- **No instruction introduces a number out of range.**  A dataset of finite numbers has finite
numbers after any instructions.  Literals, copies and amounts are finite as well, and a result that
overflows leaves a cell empty, or in an adjustment as it was. -/
theorem inRange_runAll (session : Session) {rows : List (List Cell)} (sheetName fileName : String)
    (hrows : ∀ r ∈ rows, ∀ v ∈ r, v.IsFinite) (texts : List String) :
    ∃ g, ((session.load rows sheetName fileName).runAll texts).grid = some g ∧ g.IsFinite ∧
      g.InRange := by
  have hload : (session.load rows sheetName fileName).grid = some (ofRows rows) := rfl
  have hstep : ∀ g text edit, g.WellFormed ∧ g.IsFinite → applyInstruction g text = .ok edit →
      edit.grid.WellFormed ∧ edit.grid.IsFinite := fun g text edit hg h =>
    ⟨(growsTo_applyInstruction hg.1 h).wellFormed, isFinite_applyInstruction hg.1 hg.2 h⟩
  obtain ⟨g, hgrid, hg, hfinite⟩ :=
    runAll_invariant hstep ⟨wellFormed_ofRows rows, isFinite_ofRows hrows⟩ hload texts
  exact ⟨g, hgrid, hfinite, inRange_of_isFinite hg hfinite⟩

/-- A cell is copied, and the sum of it and zero overflows when it is rounded. -/
theorem inRange_runAll_overflow :
    let rows : List (List Cell) := [[.text "n", .text "m"], [.number 1e308, .number 2]]
    let texts := ["set cell b1 to a2", "set cell b2 to a2 + 0"]
    (∀ r ∈ rows, ∀ v ∈ r, v.IsFinite) ∧
      ∃ g, (((new 0).load rows "" "").runAll texts).grid = some g ∧ g.IsFinite ∧
        g.get 0 1 = .number 1e308 ∧ g.get 1 1 = .empty := by
  intro rows texts
  have hrows : ∀ r ∈ rows, ∀ v ∈ r, v.IsFinite := by decide +kernel
  have hrun : (((new 0).load rows "" "").runAll texts).grid
      = some ⟨[[.text "n", .number 1e308], [.number 1e308, .empty]]⟩ := by decide +kernel
  obtain ⟨g, hgrid, hfinite, -⟩ := inRange_runAll (new 0) "" "" hrows texts
  obtain rfl := Option.some.inj (hrun.symm.trans hgrid)
  exact ⟨hrows, _, hgrid, hfinite, rfl, rfl⟩

end Session

end GridTalk
