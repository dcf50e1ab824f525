import GridTalk.Proofs.Edit.Frame
import GridTalk.Session

/-!
# The grid of a session

While instructions are run on a loaded dataset, the grid stays well formed, never shrinks, and grows
only up to the bounds, even if the dataset was larger than these or had rows without cells.

* `Session.runAll`: a sequence of instructions, one after the other.
* `Session.runAll_invariant`: what every edit keeps is kept by any instructions.
* `Session.growsTo_run`: what one instruction does to the grid.
* `Session.growsTo_runAll`: the same after any instructions.
-/

namespace GridTalk

open Grid

theorem growsTo_applyInstruction {g : Grid} {text : String} {edit : Edit} (hg : g.WellFormed)
    (h : applyInstruction g text = .ok edit) : g.GrowsTo edit.grid := by
  obtain ⟨intent, -, h⟩ := bind_eq_ok.1 h
  exact (changesTo_execute hg h).toGrowsTo

namespace Session

/-- A sequence of instructions, each run on the session that the one before has left. -/
def runAll (session : Session) (texts : List String) : Session :=
  texts.foldl (fun session text => (session.run text).2) session

/-- One instruction, whether it succeeds or fails. -/
theorem growsTo_run {session : Session} {g : Grid} (hg : g.WellFormed)
    (h : session.grid = some g) (text : String) :
    ∃ g', (session.run text).2.grid = some g' ∧ g.GrowsTo g' := by
  cases happly : applyInstruction g text with
  | error e =>
    exact ⟨g, by simp only [run, h, happly], (ChangesTo.refl (W := fun _ _ => False) hg).toGrowsTo⟩
  | ok edit =>
    exact ⟨edit.grid, by simp only [run, h, happly], growsTo_applyInstruction hg happly⟩

/-- What every edit keeps, a session keeps, since an instruction that fails changes nothing. -/
theorem runAll_invariant {P : Grid → Prop}
    (hstep : ∀ g text edit, P g → applyInstruction g text = .ok edit → P edit.grid)
    {session : Session} {g : Grid} (hg : P g) (h : session.grid = some g) (texts : List String) :
    ∃ g', (session.runAll texts).grid = some g' ∧ P g' := by
  induction texts generalizing session g with
  | nil => exact ⟨g, h, hg⟩
  | cons text texts ih =>
    cases happly : applyInstruction g text with
    | error e => exact ih hg (by simp only [run, h, happly])
    | ok edit => exact ih (hstep g text edit hg happly) (by simp only [run, h, happly])

/-- The grid of a session stays well formed. -/
theorem wellFormed_runAll {session : Session} {g : Grid} (hg : g.WellFormed)
    (h : session.grid = some g) (texts : List String) :
    ∃ g', (session.runAll texts).grid = some g' ∧ g'.WellFormed :=
  runAll_invariant (fun _ _ _ hg h => (growsTo_applyInstruction hg h).wellFormed) hg h texts

/-- **After each instruction** on a loaded dataset the grid is well formed and has grown at most up
to the bounds.  Every routine leaves a rectangle, so that the padding after it has nothing to do. -/
theorem growsTo_runAll (session : Session) (rows : List (List Cell)) (sheetName fileName : String)
    (texts : List String) (text : String) :
    ∃ g g', ((session.load rows sheetName fileName).runAll texts).grid = some g ∧
      ((session.load rows sheetName fileName).runAll (texts ++ [text])).grid = some g' ∧
      g.WellFormed ∧ g.GrowsTo g' ∧
      ∀ intent result, Intent.perform intent g = .ok result →
        result.1.Rectangular ∧ result.1.normalized = result.1 := by
  have hload : (session.load rows sheetName fileName).grid = some (ofRows rows) := rfl
  obtain ⟨g, hgrid, hg⟩ := wellFormed_runAll (wellFormed_ofRows rows) hload texts
  obtain ⟨g', hgrid', hgrows⟩ := growsTo_run hg hgrid text
  refine ⟨g, g', hgrid, ?_, hg, hgrows, fun intent result hperform => ?_⟩
  · rw [runAll, List.foldl_append]
    exact hgrid'
  · have hresult := (changesTo_perform hg hperform).wellFormed
    exact ⟨hresult.rectangular, normalized_of_wellFormed hresult⟩

end Session

end GridTalk
