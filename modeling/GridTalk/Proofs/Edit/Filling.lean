import GridTalk.Proofs.Edit.Change
import GridTalk.Proofs.Edit.Pass

/-!
# Filling the blank cells of a column

The blank cells are filled from the top, each from the grid as the rows above have left it.  An
expression can refer to the column that is being filled, to the very cell that is being filled, or
to rows that are only added on the way.  Still every cell gets the value that the expression has on
the grid as it was:

* `FilledUpTo`: what the rows above a row look like while the column is being filled.
* `outcome_of_filledUpTo`: the value in a row is the same on the grid being filled.
* `filledUpTo_fillRow`, `filledUpTo_of_pass`: one row and the whole pass keep the invariant.
* `get_execute_fillColumn`: the column after filling.
-/

namespace GridTalk

open Grid

theorem toNumber?_of_isBlank {v : Cell} (h : v.isBlank) : v.toNumber? = none := by
  cases v with
  | empty => rfl
  | number x => simp [Cell.isBlank] at h
  | boolean b => rfl
  | text s =>
    obtain rfl : s = "" := by simpa [Cell.isBlank] using h
    decide

/-- The grid `g'` is `g` with the blank cells of the column filled in the data rows above `row`. -/
structure FilledUpTo (e : Expression) (column : Nat) (g : Grid) (row : Nat) (g' : Grid) : Prop
    extends ChangesTo
      (fun r c => 1 ≤ r ∧ r < row ∧ c = column ∧ (g.get r c).isBlank) g g' where
  filled : ∀ r, 1 ≤ r → r < row → (g.get r column).isBlank →
    e.outcome r g = .ok (g'.get r column)

section Step

variable {e : Expression} {column row : Nat} {g g' g'' : Grid}

/-- Rows from `row` on are as they were. -/
theorem FilledUpTo.get_of_le (h : FilledUpTo e column g row g') {r : Nat} (hr : row ≤ r) (c : Nat) :
    g'.get r c = g.get r c :=
  h.get_eq r c fun hw => by omega

/-- An operand that is a filled cell has no numeric value, neither before nor after, provided that
the expression gives an empty cell whenever this operand is blank. -/
theorem FilledUpTo.toNumber? (h : FilledUpTo e column g row g') {p : Coord}
    (hp : (g.getAt p).isBlank → e.outcome p.row g = .ok .empty) :
    (g'.getAt p).toNumber? = (g.getAt p).toNumber? := by
  by_cases hw : 1 ≤ p.row ∧ p.row < row ∧ p.col = column ∧ (g.get p.row p.col).isBlank
  · obtain ⟨h1, h2, rfl, hb⟩ := hw
    have hv := h.filled p.row h1 h2 hb
    rw [hp hb, Except.ok.injEq] at hv
    rw [getAt, getAt, ← hv, toNumber?_of_isBlank hb]
    rfl
  · rw [getAt, getAt, h.get_eq _ _ hw]

/-- **A value does not depend on what has been filled so far**, if the row that it is to be written
to is as good as it was. -/
theorem outcome_of_filledUpTo {last : Nat} (h : FilledUpTo e column g last g')
    (hrow : ∀ c, (g'.get row c).toNumber? = (g.get row c).toNumber?) :
    e.outcome row g' = e.outcome row g := by
  have hlocate := Reference.locate_of_growsTo h.toGrowsTo
  cases e with
  | quoted | blank | number | label => rfl
  | columns left op right =>
    rw [Expression.outcome, columnNumber?_congr hrow, columnNumber?_congr hrow, Expression.outcome]
  | cell source =>
    cases hp : source.locate g.colCount with
    | error err => simp only [Expression.outcome, hlocate, hp, Except.map]
    | ok p =>
      have hout : ∀ r, (Expression.cell source).outcome r g = .ok (g.getAt p) := fun r => by
        simp [Expression.outcome, hp, Except.map]
      have hsame : g'.getAt p = g.getAt p := by
        by_cases hw : 1 ≤ p.row ∧ p.row < last ∧ p.col = column ∧ (g.get p.row p.col).isBlank
        · -- the cell that is copied has itself been filled, with its own value
          obtain ⟨h1, h2, rfl, hb⟩ := hw
          have hv := h.filled p.row h1 h2 hb
          rw [hout, Except.ok.injEq] at hv
          exact hv.symm
        · exact h.get_eq _ _ hw
      simp only [Expression.outcome, hlocate, hp, Except.map, hsame]
  | cellNumber left op y =>
    cases hp : left.locate g.colCount with
    | error err => simp only [Expression.outcome, hlocate, hp, Except.map]
    | ok p =>
      have hout : ∀ r, (Expression.cellNumber left op y).outcome r g
          = .ok (arithmetic (g.getAt p).toNumber? op (some y)) := fun r => by
        simp [Expression.outcome, hp, Except.map]
      have hleft : (g'.getAt p).toNumber? = (g.getAt p).toNumber? := h.toNumber? fun hb => by
        rw [hout, toNumber?_of_isBlank hb]
        rfl
      simp only [Expression.outcome, hlocate, hp, Except.map, hleft]
  | cells left op right =>
    cases hp : left.locate g.colCount with
    | error err => simp only [Expression.outcome, hlocate, hp, bind, Except.bind]
    | ok p =>
      cases hq : right.locate g.colCount with
      | error err => simp only [Expression.outcome, hlocate, hp, hq, bind, Except.bind]
      | ok q =>
        have hout : ∀ r, (Expression.cells left op right).outcome r g
            = .ok (arithmetic (g.getAt p).toNumber? op (g.getAt q).toNumber?) := fun r => by
          simp [Expression.outcome, hp, hq, bind, Except.bind, pure, Except.pure]
        -- either operand may have been filled, and a blank one makes the whole value empty
        have hleft : (g'.getAt p).toNumber? = (g.getAt p).toNumber? := h.toNumber? fun hb => by
          rw [hout, toNumber?_of_isBlank hb]
          rfl
        have hright : (g'.getAt q).toNumber? = (g.getAt q).toNumber? := h.toNumber? fun hb => by
          rw [hout, toNumber?_of_isBlank hb]
          cases (g.getAt p).toNumber? <;> rfl
        simp only [Expression.outcome, hlocate, hp, hq, bind, Except.bind, hleft, hright]

/-- Nothing has been filled above the first data row. -/
theorem filledUpTo_one (h : g.PadsTo g') : FilledUpTo e column g 1 g' :=
  ⟨h.mono fun _ _ hw => hw.elim, fun r h1 h2 => absurd h2 (by omega)⟩

/-- One row keeps the invariant. -/
theorem filledUpTo_fillRow (hrow : 1 ≤ row) (h : FilledUpTo e column g row g')
    (hf : fillRow e column row g' = .ok g'') : FilledUpTo e column g (row + 1) g'' := by
  have hsame := h.get_of_le (Nat.le_refl row) column
  have hmore : ChangesTo
      (fun r c => 1 ≤ r ∧ r < row + 1 ∧ c = column ∧ (g.get r c).isBlank) g g' :=
    h.mono fun r c hw => ⟨hw.1, by omega, hw.2.2⟩
  rcases fillRow_cases hf with ⟨hb, rfl⟩ | ⟨hb, v, g₁, hv, hset⟩
  · rw [hsame] at hb
    refine ⟨hmore, fun r h1 h2 hr => ?_⟩
    by_cases hlast : r = row
    · subst hlast
      rw [hb] at hr
      cases hr
    · exact h.filled r h1 (by omega) hr
  · rw [hsame] at hb
    have hpad : g'.PadsTo g₁ := by
      simpa [hv] using e.padsTo_evaluate h.wellFormed row
    have hout : e.outcome row g = .ok v := by
      have hfst := e.evaluate_fst h.wellFormed row
      rw [hv, outcome_of_filledUpTo h fun c => by rw [h.get_of_le (Nat.le_refl row)]] at hfst
      exact hfst.symm
    have hwrite := changesTo_set hpad.wellFormed hset
    have hget := get_of_set hpad.wellFormed hset
    refine ⟨hmore.trans (hpad.changesTo (hwrite.mono ?_)), fun r h1 h2 hr => ?_⟩
    · rintro r c ⟨rfl, rfl⟩
      exact ⟨hrow, by omega, rfl, hb⟩
    · by_cases hlast : r = row
      · subst hlast
        rw [hget, if_pos ⟨rfl, rfl⟩, hout]
      · rw [hget, if_neg fun hw => hlast hw.1, hpad.get]
        exact h.filled r h1 (by omega) hr

/-- A whole pass keeps the invariant and reaches the end of the grid, however much of it was added
on the way. -/
theorem filledUpTo_of_pass {visited : List Nat} (hpad : g.PadsTo g')
    (h : FillPass e column 1 g' visited (.ok g'')) :
    ∃ last, g''.rowCount ≤ last ∧ FilledUpTo e column g last g'' := by
  obtain ⟨last, hlast, -, hfilled⟩ := h.invariant
    (P := fun row g' => 1 ≤ row ∧ FilledUpTo e column g row g')
    (fun row g₁ g₂ _ hrow hstep => ⟨by omega, filledUpTo_fillRow hrow.1 hrow.2 hstep⟩)
    ⟨Nat.le_refl 1, filledUpTo_one hpad⟩
  exact ⟨last, hlast, hfilled⟩

end Step

/-- Filling a column is one pass over a padded grid. -/
theorem filledUpTo_fillColumn {g : Grid} {column : Nat} {expression : String}
    {result : Grid × String} (hg : g.WellFormed) (h : fillColumn g column expression = .ok result) :
    ∃ e last, Expression.ofText expression = .ok e ∧ result.1.rowCount ≤ last ∧
      FilledUpTo e column g last result.1 := by
  obtain ⟨g₁, e, visited, g₂, hwide, he, hpass, rfl⟩ := (fillColumn_eq_ok hg).1 h
  obtain ⟨last, hlast, hfilled⟩ := filledUpTo_of_pass (padsTo_ensureCols hg hwide) hpass
  exact ⟨e, last, he, hlast, hfilled⟩

/-- **Filling in place is filling all at once.**  Every blank cell of the data gets the value that
the expression has in its row of the grid as it was, and every other cell of the column stays. -/
theorem get_execute_fillColumn {rows : List (List Cell)} {column : Nat} {expression : String}
    {edit : Edit} (h : (Intent.fillColumn column expression).execute (ofRows rows) = .ok edit)
    {row : Nat} (h1 : 1 ≤ row) (h2 : row < edit.grid.rowCount) :
    if ((ofRows rows).get row column).isBlank then
      (evaluateText expression row (ofRows rows)).1 = .ok (edit.grid.get row column)
    else edit.grid.get row column = (ofRows rows).get row column := by
  have hg := wellFormed_ofRows rows
  obtain ⟨result, hperform, rfl⟩ := Intent.execute_eq_ok.1 h
  obtain ⟨e, last, he, hlast, hfilled⟩ := filledUpTo_fillColumn hg hperform
  simp only [normalized_of_wellFormed hfilled.wellFormed] at h2 ⊢
  split
  · next hb =>
    rw [evaluateText, he]
    exact (e.evaluate_fst hg row).trans (hfilled.filled row h1 (by omega) hb)
  · next hb => exact hfilled.get_eq row column fun hw => hb hw.2.2.2

/-- The fifth row is there only because the expression names the sixth one. -/
theorem get_execute_fillColumn_past_end :
    let rows : List (List Cell) := [[.text "n"], [.text ""], [.number 7], [.empty]]
    let edit : Edit := ⟨⟨[[.text "n"], [.empty], [.number 7], [.empty], [.empty], [.empty]]⟩,
      "Filled empty cells in column A", .fillColumn⟩
    (Intent.fillColumn 0 "A6").execute (ofRows rows) = .ok edit ∧ 1 ≤ 4 ∧ 4 < edit.grid.rowCount ∧
      (evaluateText "A6" 4 (ofRows rows)).1 = .ok (edit.grid.get 4 0) := by
  intro rows edit
  have h : (Intent.fillColumn 0 "A6").execute (ofRows rows) = .ok edit := by decide +kernel
  have h1 : 1 ≤ 4 := by decide
  have h2 : 4 < edit.grid.rowCount := by decide
  have hv := get_execute_fillColumn h h1 h2
  rw [if_pos (by decide)] at hv
  exact ⟨h, h1, h2, hv⟩

end GridTalk
