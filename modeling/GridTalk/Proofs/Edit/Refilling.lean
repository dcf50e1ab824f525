import GridTalk.Proofs.Edit.Filling
import GridTalk.Proofs.Edit.Termination

/-!
# Filling once is enough

A cell can be blank even after it has been filled, with nothing or with a text that has no
characters in it.  It is evaluated and written once more when the column is filled again.  But its
value cannot have changed, and the grid has room for all that the expression names.

* `HasRoom`: a step of filling does not make the grid grow.
* `RoomUpTo`: so it is for all rows above a row; `roomUpTo_fillRow` carries it through the pass.
* `outcome_of_filled`: the value of a cell that is still blank.
* `fillRow_of_filled`: a second step changes nothing.
* `execute_fillColumn_again`: nor does a second filling.
-/

namespace GridTalk

open Expression Grid

/-- The grid reaches as far as the addresses of the expression and the column, and the row of the
column can be written. -/
structure HasRoom (e : Expression) (row column : Nat) (g : Grid) : Prop where
  row_lt : row < maxRows
  col_lt : column < g.colCount
  colCount_le : g.colCount ≤ maxCols
  lastRow_le : e.lastRow ≤ g.rowCount
  lastColumn_le : e.lastColumn ≤ g.colCount

variable {e : Expression} {column row last : Nat} {g g' g'' : Grid}

/-- Growth takes no room away. -/
theorem HasRoom.mono (h : HasRoom e row column g) (hgrown : g.GrowsTo g') :
    HasRoom e row column g' where
  row_lt := h.row_lt
  col_lt := Nat.lt_of_lt_of_le h.col_lt hgrown.colCount_le
  colCount_le := Nat.le_trans hgrown.colCount_le_max (Nat.max_le.2 ⟨h.colCount_le, Nat.le_refl _⟩)
  lastRow_le := Nat.le_trans h.lastRow_le hgrown.rowCount_le
  lastColumn_le := Nat.le_trans h.lastColumn_le hgrown.colCount_le

/-- A step that writes makes room. -/
theorem hasRoom_fillRow (hg : g.WellFormed) (hspelled : ∀ r ∈ e.addresses, r.IsSpelled)
    (hb : (g.get row column).isBlank) (h : fillRow e column row g = .ok g') :
    HasRoom e row column g' := by
  obtain ⟨hshape, hrow, hwidth⟩ := hasShape_fillRow hg hspelled hb h
  have hrows := hshape.rowCount_eq
  have hcols := hshape.colCount_eq
  exact ⟨hrow, by omega, hwidth, by omega, by omega⟩

/-- There is room for each blank cell of the data above `row`. -/
def RoomUpTo (e : Expression) (column : Nat) (g : Grid) (row : Nat) (g' : Grid) : Prop :=
  ∀ r, 1 ≤ r → r < row → (g.get r column).isBlank → HasRoom e r column g'

/-- One row keeps the invariant. -/
theorem roomUpTo_fillRow (hspelled : ∀ r ∈ e.addresses, r.IsSpelled)
    (hfilled : FilledUpTo e column g row g') (hroom : RoomUpTo e column g row g')
    (h : fillRow e column row g' = .ok g'') : RoomUpTo e column g (row + 1) g'' := by
  intro r h1 h2 hb
  by_cases hlast : r = row
  · subst hlast
    rw [← hfilled.get_of_le (Nat.le_refl r)] at hb
    exact hasRoom_fillRow hfilled.wellFormed hspelled hb h
  · exact (hroom r h1 (by omega) hb).mono (changesTo_fillRow hfilled.wellFormed h).toGrowsTo

/-- A whole pass fills the column and makes room for it. -/
theorem filledUpTo_and_roomUpTo_of_pass {visited : List Nat} (hg : g.WellFormed)
    (hspelled : ∀ r ∈ e.addresses, r.IsSpelled) (h : FillPass e column 1 g visited (.ok g')) :
    ∃ last, g'.rowCount ≤ last ∧ FilledUpTo e column g last g' ∧ RoomUpTo e column g last g' := by
  obtain ⟨last, hlast, -, hfilled, hroom⟩ := h.invariant
    (P := fun row g' => 1 ≤ row ∧ FilledUpTo e column g row g' ∧ RoomUpTo e column g row g')
    (fun row g₁ g₂ _ hrow hstep => ⟨by omega, filledUpTo_fillRow hrow.1 hrow.2.1 hstep,
      roomUpTo_fillRow hspelled hrow.2.1 hrow.2.2 hstep⟩)
    ⟨Nat.le_refl 1, filledUpTo_one (.refl hg), fun r h1 h2 => absurd h2 (by omega)⟩
  exact ⟨last, hlast, hfilled, hroom⟩

/-- A cell that is blank was blank before. -/
theorem isBlank_of_filled (hfilled : FilledUpTo e column g last g')
    (hb : (g'.get row column).isBlank) : (g.get row column).isBlank := by
  by_cases hbefore : (g.get row column).isBlank
  · exact hbefore
  · rwa [hfilled.get_eq row column fun hw => hbefore hw.2.2.2] at hb

/-- **What has been filled with a blank value has this value again.**  In its row only this cell can
differ from what it was, and it is blank in either case. -/
theorem outcome_of_filled (hfilled : FilledUpTo e column g last g') (h1 : 1 ≤ row) (h2 : row < last)
    (hb : (g'.get row column).isBlank) : e.outcome row g' = .ok (g'.get row column) := by
  have hbefore := isBlank_of_filled hfilled hb
  refine (outcome_of_filledUpTo hfilled fun c => ?_).trans (hfilled.filled row h1 h2 hbefore)
  by_cases hc : c = column
  · subst hc
    rw [toNumber?_of_isBlank hb, toNumber?_of_isBlank hbefore]
  · rw [hfilled.get_eq row c fun hw => hc hw.2.2.1]

/-- A second step changes nothing. -/
theorem fillRow_of_filled (hspelled : ∀ r ∈ e.addresses, r.IsSpelled)
    (hfilled : FilledUpTo e column g last g') (hroom : RoomUpTo e column g last g') (h1 : 1 ≤ row)
    (h2 : row < last) (hrow : row < g'.rowCount) : fillRow e column row g' = .ok g' := by
  have hwf := hfilled.wellFormed
  by_cases hb : (g'.get row column).isBlank
  · have houtcome := outcome_of_filled hfilled h1 h2 hb
    obtain ⟨hrowlt, hcol, hwidth, hlastRow, hlastColumn⟩ :=
      hroom row h1 h2 (isBlank_of_filled hfilled hb)
    have heval : e.evaluate row g' = (.ok (g'.get row column), g') := by
      have hfst := (e.evaluate_fst hwf row).trans houtcome
      obtain ⟨hrows, hcols⟩ := shape_evaluate hwf hspelled hfst
      have hsnd := (e.padsTo_evaluate hwf row).eq_of_shape hwf (by omega) (by omega)
      exact Prod.ext hfst hsnd
    have hset : g'.set row column (g'.get row column) = .ok g' := by
      obtain ⟨g₁, hset⟩ :=
        exists_set (g'.get row column) hrowlt (Nat.lt_of_lt_of_le hcol hwidth) hwidth
      have hshape := hwf.hasShape.set hset
      rw [Nat.max_eq_left hrow, Nat.max_eq_left hcol] at hshape
      rw [hset, hwf.hasShape.eq_of_get hshape fun r c => ?_]
      rw [get_of_set hwf hset]
      split
      · next hrc => rw [hrc.1, hrc.2]
      · rfl
    rw [fillRow, if_pos hb, heval]
    exact hset
  · rw [fillRow, if_neg hb]

/-- A grid that is wide enough is not widened. -/
theorem ensureCols_of_le {cols : Nat} (hg : g.WellFormed) (hle : cols ≤ g.colCount)
    (hbound : cols ≤ maxCols) : g.ensureCols cols = .ok g := by
  have hwide : g.ensureCols cols = .ok (g.widen cols) := ensureCols_eq_ok.2 ⟨hbound, rfl⟩
  have hshape := hg.hasShape.ensureCols hwide
  rw [Nat.max_eq_left hle] at hshape
  rw [hwide, hg.hasShape.eq_of_get hshape (get_of_ensureCols hwide)]

/-- **Filling once is enough.**  To fill a column again with the same expression leaves the grid as
it is, with the same message. -/
theorem execute_fillColumn_again {rows : List (List Cell)} {column : Nat} {expression : String}
    {edit : Edit} (h : (Intent.fillColumn column expression).execute (ofRows rows) = .ok edit) :
    (Intent.fillColumn column expression).execute edit.grid = .ok edit := by
  have hg := wellFormed_ofRows rows
  obtain ⟨result, hperform, rfl⟩ := Intent.execute_eq_ok.1 h
  obtain ⟨g₁, e, visited, g₂, hwide, he, hpass, rfl⟩ := (fillColumn_eq_ok hg).1 hperform
  have hspelled := isSpelled_of_ofText he
  have hg₁ := hg.hasShape.ensureCols hwide
  obtain ⟨last, hlast, hfilled, hroom⟩ :=
    filledUpTo_and_roomUpTo_of_pass hg₁.wellFormed hspelled hpass
  have hg₂ := hfilled.wellFormed
  have hwide' : g₂.ensureCols (column + 1) = .ok g₂ := by
    have hle := hfilled.colCount_le
    rw [hg₁.colCount_eq] at hle
    exact ensureCols_of_le hg₂ (by omega) (ensureCols_eq_ok.1 hwide).1
  obtain ⟨visited', hagain⟩ : ∃ visited', FillPass e column 1 g₂ visited' (.ok g₂) :=
    FillPass.of_fixed g₂.rowCount (by omega) fun r h1 h2 =>
      fillRow_of_filled hspelled hfilled hroom h1 (by omega) h2
  simp only [normalized_of_wellFormed hg₂]
  refine Intent.execute_eq_ok.2 ⟨_, fillColumn_of_pass hg₂ hwide' he hagain, ?_⟩
  rw [normalized_of_wellFormed hg₂]

/-- The expression reads the column that is filled and names a row and a column which are not there
yet; and it gives nothing, so that the cells are still blank. -/
theorem execute_fillColumn_again_blank :
    let rows : List (List Cell) := [[.text "n"], [.empty], [.number 7]]
    let edit : Edit := ⟨⟨[[.text "n", .empty], [.empty, .empty], [.number 7, .empty],
      [.empty, .empty]]⟩, "Filled empty cells in column A", .fillColumn⟩
    (Intent.fillColumn 0 "a4 - b2").execute (ofRows rows) = .ok edit ∧
      (Intent.fillColumn 0 "a4 - b2").execute edit.grid = .ok edit := by
  intro rows edit
  have h : (Intent.fillColumn 0 "a4 - b2").execute (ofRows rows) = .ok edit := by decide +kernel
  exact ⟨h, execute_fillColumn_again h⟩

end GridTalk
