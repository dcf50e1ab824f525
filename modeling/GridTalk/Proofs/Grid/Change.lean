import GridTalk.Proofs.Grid.Shape

/-!
# What a change to a grid may touch

* `Grid.GrowsTo`: the later grid is well formed and not smaller, and it is larger only up to the
  bounds.
* `Grid.ChangesTo W`: the grid has grown, and outside the positions `W` it reads as before.
* `Grid.PadsTo`: the same with no position at all, which is what growth alone does.
* `Grid.HasShape.eq_of_get`: two grids are equal if they have the same shape and read alike.
* `Grid.exists_set_title`, `Grid.set_title_spec`: a title in a column that may have to be added.

Changes compose, so what a routine touches is read off what its steps touch: `padsTo_ensureCols`,
`padsTo_ensureRows`, `changesTo_set` and `changesTo_mapData`.
-/

namespace GridTalk
namespace Grid

/-- The grid `g'` is well formed and not smaller than `g`, and larger only up to the bounds. -/
structure GrowsTo (g g' : Grid) : Prop where
  wellFormed : g'.WellFormed
  rowCount_le : g.rowCount ≤ g'.rowCount
  colCount_le : g.colCount ≤ g'.colCount
  rowCount_le_max : g'.rowCount ≤ max g.rowCount maxRows
  colCount_le_max : g'.colCount ≤ max g.colCount maxCols

/-- The grid `g` has grown to `g'`, which reads as `g` does outside `W`. -/
structure ChangesTo (W : Nat → Nat → Prop) (g g' : Grid) : Prop extends GrowsTo g g' where
  get_eq : ∀ r c, ¬W r c → g'.get r c = g.get r c

/-- The grid `g` has grown to `g'`, and all that was added is empty. -/
abbrev PadsTo (g g' : Grid) : Prop := ChangesTo (fun _ _ => False) g g'

variable {g g' g'' : Grid} {W W' : Nat → Nat → Prop}

namespace ChangesTo

theorem refl (h : g.WellFormed) : ChangesTo W g g :=
  ⟨⟨h, Nat.le_refl _, Nat.le_refl _, Nat.le_max_left _ _, Nat.le_max_left _ _⟩, fun _ _ _ => rfl⟩

theorem trans (h : ChangesTo W g g') (h' : ChangesTo W g' g'') : ChangesTo W g g'' where
  wellFormed := h'.wellFormed
  rowCount_le := Nat.le_trans h.rowCount_le h'.rowCount_le
  colCount_le := Nat.le_trans h.colCount_le h'.colCount_le
  rowCount_le_max := by
    have h1 := h.rowCount_le_max
    have h2 := h'.rowCount_le_max
    omega
  colCount_le_max := by
    have h1 := h.colCount_le_max
    have h2 := h'.colCount_le_max
    omega
  get_eq r c hw := (h'.get_eq r c hw).trans (h.get_eq r c hw)

theorem mono (h : ChangesTo W g g') (hw : ∀ r c, W r c → W' r c) : ChangesTo W' g g' :=
  ⟨h.toGrowsTo, fun r c hr => h.get_eq r c fun hr' => hr (hw r c hr')⟩

end ChangesTo

theorem PadsTo.get (h : g.PadsTo g') (r c : Nat) : g'.get r c = g.get r c :=
  h.get_eq r c not_false

/-- Padding first changes nothing about what is touched. -/
theorem PadsTo.changesTo (h : g.PadsTo g') (h' : ChangesTo W g' g'') : ChangesTo W g g'' :=
  (h.mono fun _ _ hw => hw.elim).trans h'

theorem HasShape.growsTo {m n m' n' : Nat} (h : g.HasShape m n) (h' : g'.HasShape m' n')
    (hm : m ≤ m' ∧ m' ≤ max m maxRows) (hn : n ≤ n' ∧ n' ≤ max n maxCols) : g.GrowsTo g' := by
  have hr := h.rowCount_eq
  have hc := h.colCount_eq
  have hr' := h'.rowCount_eq
  have hc' := h'.colCount_eq
  exact ⟨h'.wellFormed, by omega, by omega, by omega, by omega⟩

/-- Outside the grid all is empty. -/
theorem get_of_le {r c : Nat} (h : g.rowCount ≤ r ∨ g.colCount ≤ c) :
    g.get r c = .empty := by
  unfold get cellAt
  by_cases hr : r < g.rows.length
  · have hc : g.colCount ≤ c := h.resolve_left (Nat.not_le.2 hr)
    have hlen : g.rows[r].length ≤ g.colCount := length_le_widest (List.getElem_mem hr)
    rw [List.getElem?_eq_getElem hr, Option.getD_some, List.getElem?_eq_none (by omega)]
    rfl
  · rw [List.getElem?_eq_none (Nat.not_lt.1 hr)]
    rfl

theorem get_eq_getElem {r c : Nat} (hr : r < g.rows.length) (hc : c < g.rows[r].length) :
    g.get r c = g.rows[r][c] := by
  simp [get, cellAt, hr, hc]

/-- A grid is its shape and what it reads as. -/
theorem HasShape.eq_of_get {m n : Nat} (h : g.HasShape m n) (h' : g'.HasShape m n)
    (hget : ∀ r c, g'.get r c = g.get r c) : g' = g := by
  have hrows : g'.rows = g.rows := by
    refine List.ext_getElem (h'.rowCount_eq.trans h.rowCount_eq.symm) fun r hr' hr => ?_
    have hlen := h.length_eq _ (List.getElem_mem hr)
    have hlen' := h'.length_eq _ (List.getElem_mem hr')
    refine List.ext_getElem (hlen'.trans hlen.symm) fun c hc' hc => ?_
    rw [← get_eq_getElem hr' hc', ← get_eq_getElem hr hc, hget]
  exact congrArg Grid.mk hrows

/-- Growth that adds neither a row nor a column leaves the grid alone. -/
theorem PadsTo.eq_of_shape (h : g.PadsTo g') (hg : g.WellFormed) (hrows : g'.rowCount = g.rowCount)
    (hcols : g'.colCount = g.colCount) : g' = g := by
  have hshape := h.wellFormed.hasShape
  rw [hrows, hcols] at hshape
  exact hg.hasShape.eq_of_get hshape h.get

/-! ### Growth -/

theorem padsTo_ensureCols {cols : Nat} (h : g.WellFormed) (hg : g.ensureCols cols = .ok g') :
    g.PadsTo g' := by
  have hle := (ensureCols_eq_ok.1 hg).1
  refine ⟨h.hasShape.growsTo (h.hasShape.ensureCols hg) ?_ ?_, fun r c _ => ?_⟩
  · omega
  · omega
  · exact get_of_ensureCols hg r c

theorem padsTo_ensureRows {rows cols : Nat} (h : g.WellFormed)
    (hg : g.ensureRows rows cols = .ok g') : g.PadsTo g' := by
  obtain ⟨hr, hc, -⟩ := ensureRows_eq_ok.1 hg
  refine ⟨h.hasShape.growsTo (h.hasShape.ensureRows hg) ?_ ?_, fun r c _ => ?_⟩
  · omega
  · omega
  · exact get_of_ensureRows hg r c

/-! ### Writing -/

/-- Growth to a position makes room for it. -/
theorem exists_row_of_ensureRows {row col : Nat} (h : g.WellFormed)
    (hg : g.ensureRows (row + 1) (max g.colCount (col + 1)) = .ok g') :
    ∃ cells, g'.rows[row]? = some cells ∧ col < cells.length := by
  have hs := h.hasShape.ensureRows hg
  have hrow : row < g'.rows.length := by
    have hcount : g'.rows.length = max g.rowCount (row + 1) := hs.rowCount_eq
    omega
  have hlen : (g'.rows[row]).length = max g.colCount (max g.colCount (col + 1)) :=
    hs.length_eq _ (List.getElem_mem hrow)
  exact ⟨g'.rows[row], List.getElem?_eq_getElem hrow, by omega⟩

/-- A write is seen at its position and nowhere else. -/
theorem get_of_set {row col : Nat} {v : Cell} (h : g.WellFormed) (hg : g.set row col v = .ok g')
    (r c : Nat) : g'.get r c = if r = row ∧ c = col then v else g.get r c := by
  obtain ⟨g₁, h₁, rfl⟩ := set_eq_ok.1 hg
  obtain ⟨cells, hrow, hcol⟩ := exists_row_of_ensureRows h h₁
  rw [get_place hrow hcol v r c, get_of_ensureRows h₁]

theorem changesTo_set {row col : Nat} {v : Cell} (h : g.WellFormed)
    (hg : g.set row col v = .ok g') : ChangesTo (fun r c => r = row ∧ c = col) g g' := by
  obtain ⟨g₁, h₁, -⟩ := set_eq_ok.1 hg
  obtain ⟨hr, hc, -⟩ := ensureRows_eq_ok.1 h₁
  refine ⟨h.hasShape.growsTo (h.hasShape.set hg) ?_ ?_, fun r c hw => ?_⟩
  · omega
  · omega
  · rw [get_of_set h hg, if_neg hw]

/-! ### A title on a widened grid -/

/-- A grid that is not too wide can be widened and given a title. -/
theorem exists_set_title {cols col : Nat} (v : Cell) (h : g.WellFormed)
    (hwidth : g.colCount ≤ maxCols) (hcol : col < cols) (hcols : cols ≤ maxCols) :
    ∃ g₁ g', g.ensureCols cols = .ok g₁ ∧ g₁.set 0 col v = .ok g' := by
  have hwide : g.ensureCols cols = .ok (g.widen cols) := ensureCols_eq_ok.2 ⟨hcols, rfl⟩
  have hwidth₁ : (g.widen cols).colCount ≤ maxCols := by
    rw [(h.hasShape.ensureCols hwide).colCount_eq]
    exact Nat.max_le.2 ⟨hwidth, hcols⟩
  obtain ⟨g', hset⟩ : ∃ g', (g.widen cols).set 0 col v = .ok g' :=
    exists_set v (by decide) (Nat.lt_of_lt_of_le hcol hcols) hwidth₁
  exact ⟨_, g', hwide, hset⟩

/-- A grid that has been widened and given a title was not too wide. -/
theorem set_title_spec {g₁ : Grid} {cols col : Nat} {v : Cell} (hg : g.WellFormed)
    (hwide : g.ensureCols cols = .ok g₁) (hcol : col < cols) (hset : g₁.set 0 col v = .ok g') :
    g.colCount ≤ maxCols ∧ g'.HasShape g.rowCount (max g.colCount cols) ∧
      ∀ r c, g'.get r c = if r = 0 ∧ c = col then v else g.get r c := by
  have hpad := padsTo_ensureCols hg hwide
  have hshape₁ := hg.hasShape.ensureCols hwide
  have hshape := hshape₁.set hset
  obtain ⟨g₂, hgrown, -⟩ := set_eq_ok.1 hset
  obtain ⟨-, hwidth, -⟩ := ensureRows_eq_ok.1 hgrown
  rw [hshape₁.colCount_eq] at hwidth
  rw [Nat.max_eq_left hg.hasShape.pos, Nat.max_eq_left (by omega)] at hshape
  refine ⟨by omega, hshape, fun r c => ?_⟩
  rw [get_of_set hpad.wellFormed hset, hpad.get]

/-! ### Changing the data of a column -/

theorem cellAt_modify (row : List Cell) (col : Nat) (f : Cell → Cell) (c : Nat) :
    cellAt (row.modify col f) c
      = if c = col ∧ c < row.length then f (cellAt row c) else cellAt row c := by
  unfold cellAt
  rw [List.getElem?_modify]
  by_cases hlt : c < row.length
  · by_cases hc : c = col
    · subst hc
      simp [hlt]
    · simp [hlt, hc, Ne.symm hc]
  · simp [hlt]

/-- What a change of the data of a column does to each position. -/
theorem get_mapData (h : g.WellFormed) (col : Nat) (f : Cell → Cell) (r c : Nat) :
    (g.mapData col f).get r c
      = if 1 ≤ r ∧ r < g.rowCount ∧ c = col ∧ c < g.colCount then f (g.get r c)
        else g.get r c := by
  have hlen := h.rectangular
  obtain ⟨rows⟩ := g
  cases rows with
  | nil => exact absurd rfl h.rows_ne_nil
  | cons header data =>
    cases r with
    | zero => simp [mapData, get]
    | succ r =>
      by_cases hr : r < data.length
      · have hd := hlen data[r] (List.mem_cons_of_mem header (List.getElem_mem hr))
        simp [mapData, get, cellAt_modify, rowCount, hr, ← hd]
      · simp [mapData, get, rowCount, hr]

/-- The same where empty cells stay empty. -/
theorem get_mapData_of_empty (h : g.WellFormed) (col : Nat) {f : Cell → Cell}
    (hf : f .empty = .empty) (r c : Nat) :
    (g.mapData col f).get r c = if 1 ≤ r ∧ c = col then f (g.get r c) else g.get r c := by
  rw [get_mapData h]
  by_cases hpos : 1 ≤ r ∧ c = col
  · rw [if_pos hpos]
    split_ifs with hin
    · rfl
    · rw [get_of_le (by omega), hf]
  · rw [if_neg hpos, if_neg fun hin => hpos ⟨hin.1, hin.2.2.1⟩]

theorem changesTo_mapData (h : g.WellFormed) (col : Nat) (f : Cell → Cell) :
    ChangesTo (fun r c => 1 ≤ r ∧ c = col ∧ f (g.get r c) ≠ g.get r c) g (g.mapData col f) := by
  refine ⟨h.hasShape.growsTo (h.hasShape.mapData col f) ?_ ?_, fun r c hw => ?_⟩
  · omega
  · omega
  · rw [get_mapData h]
    split_ifs with hpos
    · exact Classical.byContradiction fun hne => hw ⟨hpos.1, hpos.2.2.1, hne⟩
    · rfl

end Grid
end GridTalk
