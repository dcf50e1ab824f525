import GridTalk.Proofs.Edit.Columnwise

/-!
# Edits of unrelated columns

Two edits column by column that have no column in common can change places.  The one that comes
first can make the grid wider, but not so wide that the other one fails for it.

* `Intent.cellAfter_of_not_mem`, `Intent.cellAfter_congr`: an edit writes and reads its own columns
  only.
* `Intent.cellAfter_comm`: so that on each row two edits can change places.
* `Rewrites.accepts_iff`: neither of them makes the other one fail.
* `Intent.executeBoth_spec`: what two edits come to, one after the other.
* `Intent.executeBoth_comm`: the order makes no difference.
-/

namespace GridTalk

open Grid

namespace Intent

variable {a b : Intent} {row c : Nat} {cells cells' : Nat → Cell}

/-- An edit writes no column that it does not name. -/
theorem cellAfter_of_not_mem (hc : c ∉ a.columns) : a.cellAfter row cells c = cells c := by
  cases a with
  | setCell | fillColumn => rfl
  | adjustColumn action column amount =>
    have hne : c ≠ column := fun h => hc (List.mem_singleton.2 h)
    unfold cellAfter
    dsimp only
    split
    · exact if_neg fun hw => hne hw.2
    · rfl
  | addColumn target left right subtract =>
    have hne : c ≠ target := fun h => hc (by simp [columns, h])
    exact if_neg hne
  | renameColumn column title => exact if_neg fun hw => hc (List.mem_singleton.2 hw.2)
  | clearColumn column => exact if_neg fun hw => hc (List.mem_singleton.2 hw.2)

/-- An edit reads no column that it does not name. -/
theorem cellAfter_congr (h : ∀ c ∈ a.columns, cells' c = cells c) (hc : c ∈ a.columns) :
    a.cellAfter row cells' c = a.cellAfter row cells c := by
  have hcell := h c hc
  cases a with
  | setCell | fillColumn => exact hcell
  | adjustColumn | renameColumn | clearColumn => simp only [cellAfter, hcell]
  | addColumn target left right subtract =>
    have hleft : cells' left = cells left := h left (by simp [columns])
    have hright : cells' right = cells right := h right (by simp [columns])
    simp only [cellAfter, hcell, hleft, hright]

/-- On a row, two edits without a common column can change places. -/
theorem cellAfter_comm (hdisjoint : ∀ c ∈ a.columns, c ∉ b.columns) (row : Nat)
    (cells : Nat → Cell) :
    a.cellAfter row (b.cellAfter row cells) = b.cellAfter row (a.cellAfter row cells) := by
  funext c
  by_cases ha : c ∈ a.columns
  · calc
      _ = a.cellAfter row cells c :=
        cellAfter_congr (fun c hc => cellAfter_of_not_mem (hdisjoint c hc)) ha
      _ = _ := (cellAfter_of_not_mem (hdisjoint c ha)).symm
  · by_cases hb : c ∈ b.columns
    · calc
        _ = b.cellAfter row cells c := cellAfter_of_not_mem ha
        _ = _ := (cellAfter_congr
          (fun c hc => cellAfter_of_not_mem fun hc' => hdisjoint c hc' hc) hb).symm
    · rw [cellAfter_of_not_mem ha, cellAfter_of_not_mem hb, cellAfter_of_not_mem hb,
        cellAfter_of_not_mem ha]

end Intent

variable {g g' : Grid}

/-- Whether an edit succeeds does not depend on another one having been carried out before. -/
theorem Rewrites.accepts_iff {a b : Intent} (h : Rewrites a g g') (ha : a.Accepts g) :
    b.Accepts g' ↔ b.Accepts g := by
  have hreach := ha.1
  have hwidth : g'.colCount ≤ maxCols ↔ g.colCount ≤ maxCols := by
    rw [h.hasShape.colCount_eq]
    omega
  cases b <;> simp only [Intent.Accepts, hwidth, h.hasShape.rowCount_eq]

namespace Intent

/-- Two edits, one after the other, and the grid that they leave. -/
def executeBoth (first second : Intent) (g : Grid) : Except SheetError Grid := do
  let edit ← first.execute g
  let edit ← second.execute edit.grid
  return edit.grid

variable {a b : Intent}

/-- What an edit column by column comes to, the padding at its end included. -/
theorem execute_columnwise (hg : g.WellFormed) (ha : a.IsColumnwise) :
    (a.Accepts g → ∃ edit, a.execute g = .ok edit ∧ Rewrites a g edit.grid) ∧
      (¬a.Accepts g → ∃ e, a.execute g = .error e) := by
  rw [← exists_perform_iff hg ha]
  constructor
  · rintro ⟨result, h⟩
    have hrewrites := rewrites_perform hg ha h
    refine ⟨_, Intent.execute_eq_ok.2 ⟨result, h, rfl⟩, ?_⟩
    rwa [normalized_of_wellFormed hrewrites.hasShape.wellFormed]
  · intro hnone
    cases h : a.execute g with
    | error e => exact ⟨e, rfl⟩
    | ok edit =>
      obtain ⟨result, hresult, -⟩ := Intent.execute_eq_ok.1 h
      exact absurd ⟨result, hresult⟩ hnone

/-- Two edits succeed on the grids on which each of them does. -/
theorem executeBoth_spec (hg : g.WellFormed) (ha : a.IsColumnwise) (hb : b.IsColumnwise) :
    (a.Accepts g ∧ b.Accepts g → ∃ g', a.executeBoth b g = .ok g' ∧
      g'.HasShape g.rowCount (max (max g.colCount a.reach) b.reach) ∧
      ∀ r c, g'.get r c = b.cellAfter r (a.cellAfter r (g.get r)) c) ∧
    (¬(a.Accepts g ∧ b.Accepts g) → ∃ e, a.executeBoth b g = .error e) := by
  obtain ⟨hok, herror⟩ := execute_columnwise hg ha
  by_cases hfirst : a.Accepts g
  · obtain ⟨edit, hedit, hrewrites⟩ := hok hfirst
    have hshape := hrewrites.hasShape
    have hrow : ∀ r, edit.grid.get r = a.cellAfter r (g.get r) := fun r =>
      funext (hrewrites.get_eq r)
    obtain ⟨hok', herror'⟩ := execute_columnwise hshape.wellFormed hb
    rw [hrewrites.accepts_iff hfirst] at hok' herror'
    constructor
    · rintro ⟨-, hsecond⟩
      obtain ⟨edit', hedit', hrewrites'⟩ := hok' hsecond
      refine ⟨edit'.grid, ?_, ?_, fun r c => ?_⟩
      · exact bind_eq_ok.2 ⟨edit, hedit, bind_eq_ok.2 ⟨edit', hedit', rfl⟩⟩
      · rw [← hshape.rowCount_eq, ← hshape.colCount_eq]
        exact hrewrites'.hasShape
      · rw [hrewrites'.get_eq, hrow]
    · intro hnot
      obtain ⟨e, he⟩ := herror' fun hsecond => hnot ⟨hfirst, hsecond⟩
      exact ⟨e, bind_eq_error.2 (.inr ⟨edit, hedit, bind_eq_error.2 (.inl he)⟩)⟩
  · refine ⟨fun hboth => absurd hboth.1 hfirst, fun _ => ?_⟩
    obtain ⟨e, he⟩ := herror hfirst
    exact ⟨e, bind_eq_error.2 (.inl he)⟩

/-- **Edits of unrelated columns can change places.**  An adjustment by a literal number, a computed
column, a new title or a clearing, and another such edit that has no column in common with it:
either order fails, or both leave the same grid. -/
theorem executeBoth_comm {a b : Intent} (ha : a.IsColumnwise) (hb : b.IsColumnwise)
    (hdisjoint : ∀ c ∈ a.columns, c ∉ b.columns) (rows : List (List Cell)) :
    (a.executeBoth b (ofRows rows)).toOption = (b.executeBoth a (ofRows rows)).toOption := by
  have hg := wellFormed_ofRows rows
  obtain ⟨hok, herror⟩ := executeBoth_spec hg ha hb
  obtain ⟨hok', herror'⟩ := executeBoth_spec hg hb ha
  by_cases hboth : a.Accepts (ofRows rows) ∧ b.Accepts (ofRows rows)
  · obtain ⟨g₁, h₁, hshape₁, hget₁⟩ := hok hboth
    obtain ⟨g₂, h₂, hshape₂, hget₂⟩ := hok' hboth.symm
    rw [Nat.max_right_comm] at hshape₂
    have hsame : g₂ = g₁ := hshape₁.eq_of_get hshape₂ fun r c => by
      rw [hget₁, hget₂, cellAfter_comm hdisjoint]
    rw [h₁, h₂, hsame]
  · obtain ⟨e₁, h₁⟩ := herror hboth
    obtain ⟨e₂, h₂⟩ := herror' fun hsymm => hboth hsymm.symm
    rw [h₁, h₂]
    rfl

/-- The column that is divided lies behind the grid, and the computed column is one of its own
operands. -/
theorem executeBoth_comm_wider :
    let a := addColumn 1 0 1 true
    let b := adjustColumn .divide 3 "2,5"
    let rows : List (List Cell) := [[.text "n", .text "m"], [.number 5, .text "3"]]
    let grid : Grid := ⟨[[.text "n", .text "A-B", .empty, .empty],
      [.number 5, .number 2, .empty, .empty]]⟩
    a.IsColumnwise ∧ b.IsColumnwise ∧ (∀ c ∈ a.columns, c ∉ b.columns) ∧
      (a.executeBoth b (ofRows rows)).toOption = some grid ∧
      (b.executeBoth a (ofRows rows)).toOption = some grid := by
  intro a b rows grid
  have ha : a.IsColumnwise := trivial
  have hb : b.IsColumnwise := ⟨2.5, by decide +kernel⟩
  have hdisjoint : ∀ c ∈ a.columns, c ∉ b.columns := by decide
  have hfirst : (a.executeBoth b (ofRows rows)).toOption = some grid := by decide +kernel
  exact ⟨ha, hb, hdisjoint, hfirst, (executeBoth_comm ha hb hdisjoint rows).symm.trans hfirst⟩

end Intent

end GridTalk
