import GridTalk.Proofs.Edit.Pass
import GridTalk.Proofs.Expression.Addresses

/-!
# Filling comes to an end

The rows that an evaluation adds are filled as well, and they are blank, so that each of them is
evaluated in turn.  But the first evaluation has already made the grid as long as the addresses of
the expression ask for, and no later one adds anything.

* `BlankFrom`: there is something to fill from a row on.
* `hasShape_fillRow`, `rowCount_fillRow`: how far one step makes the grid grow.
* `FillPass.visited_eq`, `FillPass.rowCount_eq`: the rows that a pass visits, and how many there are
  in the end.
* `fillColumn_terminates`: the same for filling a column.
-/

namespace GridTalk

open Expression Grid

/-- There is a blank cell in the column, in this row or below it. -/
def BlankFrom (g : Grid) (column row : Nat) : Prop :=
  ∃ i, row ≤ i ∧ i < g.rowCount ∧ (g.get i column).isBlank

variable {e : Expression} {column row : Nat} {g g' : Grid}

theorem blankFrom_congr (hrows : g'.rowCount = g.rowCount) (hget : ∀ r c, g'.get r c = g.get r c) :
    BlankFrom g' column row ↔ BlankFrom g column row := by
  simp only [BlankFrom, hrows, hget]

/-- A row that is not blank can be left out. -/
theorem blankFrom_succ_iff (hfull : (g.get row column).isBlank = false) :
    BlankFrom g column (row + 1) ↔ BlankFrom g column row := by
  constructor
  · rintro ⟨i, hi, hlt, hb⟩
    exact ⟨i, by omega, hlt, hb⟩
  · rintro ⟨i, hi, hlt, hb⟩
    refine ⟨i, Nat.lt_of_le_of_ne hi ?_, hlt, hb⟩
    rintro rfl
    rw [hfull] at hb
    cases hb

/-- One step that writes makes the grid grow to the addresses and to the cell, within the bounds. -/
theorem hasShape_fillRow (hg : g.WellFormed) (hspelled : ∀ r ∈ e.addresses, r.IsSpelled)
    (hb : (g.get row column).isBlank) (h : fillRow e column row g = .ok g') :
    g'.HasShape (max (max g.rowCount e.lastRow) (row + 1))
        (max (max g.colCount e.lastColumn) (column + 1)) ∧
      row < maxRows ∧ g'.colCount ≤ maxCols := by
  rcases fillRow_cases h with ⟨hfull, -⟩ | ⟨-, v, g₁, hv, hset⟩
  · rw [hfull] at hb
    cases hb
  · have hpad : g.PadsTo g₁ := by
      simpa [hv] using e.padsTo_evaluate hg row
    obtain ⟨hrows, hcols⟩ : g₁.rowCount = max g.rowCount e.lastRow ∧
        g₁.colCount = max g.colCount e.lastColumn := by
      simpa [hv] using shape_evaluate hg hspelled (congrArg Prod.fst hv)
    have hshape := hpad.wellFormed.hasShape.set hset
    obtain ⟨g₂, hgrown, -⟩ := set_eq_ok.1 hset
    obtain ⟨hrow, hcol, -⟩ := ensureRows_eq_ok.1 hgrown
    have hwidth := hshape.colCount_eq
    rw [hrows, hcols] at hshape
    exact ⟨hshape, hrow, by omega⟩

/-- One step in the grid adds the rows that the expression names, or none. -/
theorem rowCount_fillRow (hg : g.WellFormed) (hspelled : ∀ r ∈ e.addresses, r.IsSpelled)
    (hlt : row < g.rowCount) (h : fillRow e column row g = .ok g') :
    g'.rowCount = if (g.get row column).isBlank then max g.rowCount e.lastRow else g.rowCount := by
  split
  · next hb =>
    rw [(hasShape_fillRow hg hspelled hb h).1.rowCount_eq]
    omega
  · next hb =>
    rcases fillRow_cases h with ⟨-, rfl⟩ | ⟨hb', -⟩
    · rfl
    · exact absurd hb' hb

namespace FillPass

variable {visited : List Nat}

/-- A pass that succeeds has visited all rows of the grid which it leaves, from the top, each of
them once. -/
theorem visited_eq (hg : g.WellFormed) (hrow : row ≤ g.rowCount)
    (h : FillPass e column row g visited (.ok g')) :
    row ≤ g'.rowCount ∧ visited = List.range' row (g'.rowCount - row) := by
  generalize hout : Except.ok g' = outcome at h
  induction h with
  | ended hend =>
    cases hout
    obtain rfl := Nat.le_antisymm hrow hend
    exact ⟨Nat.le_refl _, by rw [Nat.sub_self]; rfl⟩
  | failed => cases hout
  | @next row g g₁ visited outcome hlt hstep hrest ih =>
    have hgrown := changesTo_fillRow hg hstep
    have hmore := hgrown.rowCount_le
    obtain ⟨hle, hvisited⟩ := ih hgrown.wellFormed (by omega) hout
    refine ⟨by omega, ?_⟩
    rw [hvisited, ← List.range'_succ]
    congr 1
    omega

/-- **The first blank cell decides how long the grid becomes.**  From there on the grid has all rows
that the expression names. -/
theorem rowCount_eq (hg : g.WellFormed) (hspelled : ∀ r ∈ e.addresses, r.IsSpelled)
    (h : FillPass e column row g visited (.ok g')) :
    (BlankFrom g column row → g'.rowCount = max g.rowCount e.lastRow) ∧
      (¬BlankFrom g column row → g'.rowCount = g.rowCount) := by
  generalize hout : Except.ok g' = outcome at h
  induction h with
  | ended hend =>
    cases hout
    refine ⟨?_, fun _ => rfl⟩
    rintro ⟨i, hi, hlt, -⟩
    omega
  | failed => cases hout
  | @next row g g₁ visited outcome hlt hstep hrest ih =>
    obtain ⟨hblank, hfull⟩ := ih (changesTo_fillRow hg hstep).wellFormed hout
    have hcount := rowCount_fillRow hg hspelled hlt hstep
    rcases fillRow_cases hstep with ⟨hb, rfl⟩ | ⟨hb, -⟩
    · rw [← blankFrom_succ_iff hb]
      exact ⟨hblank, hfull⟩
    · -- the grid has grown here, whatever is below
      rw [if_pos hb] at hcount
      refine ⟨fun _ => ?_, fun hnone => absurd ⟨row, Nat.le_refl row, hlt, hb⟩ hnone⟩
      by_cases hmore : BlankFrom g₁ column (row + 1)
      · rw [hblank hmore, hcount, Nat.max_assoc, Nat.max_self]
      · rw [hfull hmore, hcount]

end FillPass

/-- **Filling comes to an end**, although the grid can become longer while it is being filled.  The
pass over the column has one course, which is also that of the edit.  If it succeeds, it has visited
all data rows of the grid that it leaves, from the top, each of them once; the grid has become as
long as the addresses of the expression ask for if a data cell of the column was blank, and is as
long as it was otherwise.  There is no pass if the column is out of bounds or the text cannot be
read. -/
theorem fillColumn_terminates (rows : List (List Cell)) (column : Nat) (expression : String) :
    let g := ofRows rows
    let outcome := fillColumn g column expression
    if maxCols ≤ column then outcome = .error (.column (Column.label column))
    else match ofText expression with
      | .error err => outcome = .error err
      | .ok e => ∃ visited result, FillPass e column 1 (g.widen (column + 1)) visited result ∧
          (∀ visited' result', FillPass e column 1 (g.widen (column + 1)) visited' result' →
            visited' = visited ∧ result' = result) ∧
          outcome
            = result.map (·, "Filled empty cells in column " ++ Column.label column) ∧
          ∀ g', result = .ok g' →
            (BlankFrom g column 1 → g'.rowCount = max g.rowCount e.lastRow) ∧
            (¬BlankFrom g column 1 → g'.rowCount = g.rowCount) ∧
            visited = List.range' 1 (g'.rowCount - 1) := by
  intro g outcome
  have hg : g.WellFormed := wellFormed_ofRows rows
  split
  · next hout => exact bind_eq_error.2 (.inl (if_pos (Nat.lt_succ_of_le hout)))
  · next hin =>
    have hwide : g.ensureCols (column + 1) = .ok (g.widen (column + 1)) :=
      ensureCols_eq_ok.2 ⟨Nat.lt_of_not_le hin, rfl⟩
    cases he : ofText expression with
    | error err => exact bind_eq_error.2 (.inr ⟨_, hwide, bind_eq_error.2 (.inl he)⟩)
    | ok e =>
      have hpad := padsTo_ensureCols hg hwide
      have hrows : (g.widen (column + 1)).rowCount = g.rowCount :=
        (hg.hasShape.ensureCols hwide).rowCount_eq
      obtain ⟨visited, hpass⟩ := exists_fillPass_data e column hpad.wellFormed
      refine ⟨visited, _, hpass, fun _ _ => hpass.unique,
        fillColumn_of_pass hg hwide he hpass, fun g' hresult => ?_⟩
      rw [hresult] at hpass
      have hcount := hpass.rowCount_eq hpad.wellFormed (isSpelled_of_ofText he)
      rw [hrows, blankFrom_congr hrows hpad.get] at hcount
      have hpos := hpad.wellFormed.hasShape.pos
      exact ⟨hcount.1, hcount.2, (hpass.visited_eq hpad.wellFormed hpos).2⟩

end GridTalk
