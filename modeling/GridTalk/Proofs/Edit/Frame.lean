import GridTalk.Proofs.Edit.Filling

/-!
# The frame of an edit

An edit changes only the cells that its intent names.  Which ones these are can depend on what the
grid holds: an adjustment passes over cells that are not numeric, filling over cells that are not
blank.

* `Intent.Writes`: the positions that an intent may write.
* `changesTo_execute`: a successful edit changes nothing else.
* `get_execute_of_not_writes`: the same for each position, inside the grid or outside of it.
-/

namespace GridTalk

open Grid

/-- The positions that an intent may write on a grid. -/
def Intent.Writes (g : Grid) : Intent → Nat → Nat → Prop
  | setCell target _, r, c => r = target.row ∧ c = target.col
  | adjustColumn _ column _, r, c => 1 ≤ r ∧ c = column ∧ (g.get r c).toNumber?.isSome
  | addColumn target _ _ _, r, c => r < g.rowCount ∧ c = target
  | fillColumn column _, r, c => 1 ≤ r ∧ c = column ∧ (g.get r c).isBlank
  | renameColumn column _, r, c => r = 0 ∧ c = column
  | clearColumn column, r, c => 1 ≤ r ∧ r < g.rowCount ∧ c = column

variable {g : Grid} {intent : Intent}

/-- A routine touches only what its intent names. -/
theorem changesTo_perform {result : Grid × String} (hg : g.WellFormed)
    (h : intent.perform g = .ok result) : ChangesTo (intent.Writes g) g result.1 := by
  cases intent with
  | setCell target expression => exact changesTo_setCell hg h
  | adjustColumn action column amount => exact changesTo_adjustColumn hg h
  | addColumn target left right subtract => exact changesTo_addColumn hg h
  | fillColumn column expression =>
    obtain ⟨e, last, -, -, hfilled⟩ := filledUpTo_fillColumn hg h
    exact hfilled.mono fun r c hw => ⟨hw.1, hw.2.2⟩
  | renameColumn column title => exact changesTo_renameColumn hg h
  | clearColumn column => exact changesTo_clearColumn hg h

/-- The padding at the end of an edit has nothing to do. -/
theorem changesTo_execute {edit : Edit} (hg : g.WellFormed) (h : intent.execute g = .ok edit) :
    ChangesTo (intent.Writes g) g edit.grid := by
  obtain ⟨result, hperform, rfl⟩ := Intent.execute_eq_ok.1 h
  have hchange := changesTo_perform hg hperform
  rwa [← normalized_of_wellFormed hchange.wellFormed] at hchange

/-- **An edit changes only the cells that its intent names.**  An adjustment, a filling and a
clearing leave the header alone, cells that are added and not written are empty, and what an
expression or an amount adds to the grid is empty. -/
theorem get_execute_of_not_writes {rows : List (List Cell)} {edit : Edit}
    (h : intent.execute (ofRows rows) = .ok edit) :
    (∀ r c, ¬intent.Writes (ofRows rows) r c → edit.grid.get r c = (ofRows rows).get r c) ∧
    (intent.kind ∈ [.adjustColumn, .fillColumn, .clearColumn] →
      ∀ c, edit.grid.get 0 c = (ofRows rows).get 0 c) ∧
    (∀ r c, (ofRows rows).rowCount ≤ r ∨ (ofRows rows).colCount ≤ c →
      ¬intent.Writes (ofRows rows) r c → edit.grid.get r c = .empty) ∧
    (∀ text row r c, (evaluateText text row (ofRows rows)).2.get r c = (ofRows rows).get r c) := by
  have hg := wellFormed_ofRows rows
  have hchange := changesTo_execute hg h
  refine ⟨hchange.get_eq, fun hkind c => hchange.get_eq 0 c ?_, fun r c hout hw => ?_,
    fun text row r c => (padsTo_evaluateText hg text row).get r c⟩
  · cases intent <;> simp [Intent.kind, Intent.Writes] at hkind ⊢
  · rw [hchange.get_eq r c hw, get_of_le hout]

/-- The target lies outside the grid, which grows to it. -/
theorem get_execute_of_not_writes_setCell :
    let rows : List (List Cell) := [[.text "n"], [.number 7]]
    let edit : Edit := ⟨⟨[[.text "n", .empty, .empty], [.number 7, .empty, .empty],
      [.empty, .empty, .number 9]]⟩, "Set C3 to 9", .setCell⟩
    (Intent.setCell ⟨2, 2⟩ "a2 + 2").execute (ofRows rows) = .ok edit ∧
      edit.grid.get 1 0 = (ofRows rows).get 1 0 ∧ edit.grid.get 2 1 = .empty := by
  intro rows edit
  have h : (Intent.setCell ⟨2, 2⟩ "a2 + 2").execute (ofRows rows) = .ok edit := by
    decide +kernel
  have hframe := get_execute_of_not_writes h
  refine ⟨h, hframe.1 1 0 ?_, hframe.2.2.1 2 1 ?_ ?_⟩
  · simp [Intent.Writes]
  · decide
  · simp [Intent.Writes]

end GridTalk
