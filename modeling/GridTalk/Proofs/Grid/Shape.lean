import GridTalk.Grid
import GridTalk.Proofs.Failure
import Mathlib.Tactic.SplitIfs

/-!
# The shape of a grid

A grid is well formed when it has a row and all its rows have the same length.  Grids built from
rows are, and growth and writing keep them so.

* `Grid.WellFormed`: the invariant, and `Grid.HasShape`: the same with its two numbers named.
* `wellFormed_ofRows`, `normalized_of_wellFormed`: padding makes a grid well formed, and leaves one
  alone that is.
* `HasShape.ensureRows`, `HasShape.ensureCols`, `HasShape.set`, `HasShape.mapData`: the exact shape
  after each operation.
-/

namespace GridTalk
namespace Grid

/-- There is a row, and all rows have the same length. -/
structure WellFormed (g : Grid) : Prop where
  rows_ne_nil : g.rows ≠ []
  rectangular : g.Rectangular

/-- There are `m` rows, at least one, and each of them has `n` cells. -/
structure HasShape (g : Grid) (m n : Nat) : Prop where
  pos : 0 < m
  rowCount_eq : g.rowCount = m
  length_eq : ∀ r ∈ g.rows, r.length = n

variable {g g' : Grid} {m n : Nat}

namespace HasShape

theorem rows_ne_nil (h : g.HasShape m n) : g.rows ≠ [] := by
  have hpos := h.pos
  rw [← h.rowCount_eq] at hpos
  exact List.ne_nil_of_length_pos hpos

theorem colCount_eq (h : g.HasShape m n) : g.colCount = n :=
  widest_eq_of_forall h.rows_ne_nil h.length_eq

theorem wellFormed (h : g.HasShape m n) : g.WellFormed where
  rows_ne_nil := h.rows_ne_nil
  rectangular r hr := (h.length_eq r hr).trans h.colCount_eq.symm

end HasShape

theorem WellFormed.hasShape (h : g.WellFormed) : g.HasShape g.rowCount g.colCount where
  pos := List.length_pos_iff.2 h.rows_ne_nil
  rowCount_eq := rfl
  length_eq := h.rectangular

/-! ### Padding -/

theorem rows_ofRows_ne_nil (rows : List (List Cell)) : (ofRows rows).rows ≠ [] := by
  cases rows <;> simp [ofRows]

/-- A grid built from rows is as wide as the longest of them. -/
theorem colCount_ofRows {rows : List (List Cell)} (hne : rows ≠ []) :
    (ofRows rows).colCount = widest rows := by
  cases rows with
  | nil => exact absurd rfl hne
  | cons s rows =>
    refine widest_eq_of_forall (rows_ofRows_ne_nil _) fun r hr => ?_
    obtain ⟨t, ht, rfl⟩ := List.mem_map.1 hr
    rw [length_padTo, Nat.max_eq_right (length_le_widest ht)]

/-- A grid built from rows is well formed, whatever the rows were. -/
theorem wellFormed_ofRows (rows : List (List Cell)) : (ofRows rows).WellFormed :=
  ⟨rows_ofRows_ne_nil rows, rectangular_ofRows rows⟩

/-- Padding leaves a well-formed grid alone. -/
theorem normalized_of_wellFormed (h : g.WellFormed) : g.normalized = g := by
  have hrows : g.rows.map (padTo (widest g.rows)) = g.rows := by
    refine (List.map_congr_left fun r hr => ?_).trans (List.map_id g.rows)
    exact padTo_of_le (Nat.le_of_eq (h.rectangular r hr).symm)
  obtain ⟨rows⟩ := g
  cases rows with
  | nil => exact absurd rfl h.rows_ne_nil
  | cons r rows => exact congrArg Grid.mk hrows

/-! ### When growth and writing succeed -/

/-- Growth in both directions happens exactly within the bounds. -/
theorem ensureRows_eq_ok {rows cols : Nat} :
    g.ensureRows rows cols = .ok g' ↔
      rows ≤ maxRows ∧ cols ≤ maxCols ∧
        (g.lengthen rows (max cols g.colCount)).widen cols = g' := by
  unfold ensureRows
  split_ifs with h1 h2
  · simp; omega
  · simp; omega
  · rw [Except.ok.injEq]
    exact ⟨fun h => ⟨by omega, by omega, h⟩, fun h => h.2.2⟩

/-- Growth in width happens exactly within the bound. -/
theorem ensureCols_eq_ok {cols : Nat} :
    g.ensureCols cols = .ok g' ↔ cols ≤ maxCols ∧ g.widen cols = g' := by
  unfold ensureCols
  split_ifs with h
  · simp; omega
  · rw [Except.ok.injEq]
    exact ⟨fun h' => ⟨by omega, h'⟩, fun h' => h'.2⟩

/-- Growth is refused by naming the row or the column that is out of bounds. -/
theorem ensureRows_eq_error {rows cols : Nat} {e : SheetError}
    (h : g.ensureRows rows cols = .error e) : ∃ kind token, e = .invalidReference kind token := by
  unfold ensureRows at h
  split_ifs at h
  · cases h
    exact ⟨_, _, rfl⟩
  · cases h
    exact ⟨_, _, rfl⟩

/-- A write succeeds exactly when the grid can be grown to the position. -/
theorem set_eq_ok {row col : Nat} {v : Cell} :
    g.set row col v = .ok g' ↔
      ∃ g₁, g.ensureRows (row + 1) (max g.colCount (col + 1)) = .ok g₁ ∧
        g₁.place row col v = g' :=
  map_eq_ok

theorem set_eq_error {row col : Nat} {v : Cell} {e : SheetError}
    (h : g.set row col v = .error e) : ∃ kind token, e = .invalidReference kind token := by
  unfold set at h
  cases hgrown : g.ensureRows (row + 1) (max g.colCount (col + 1)) with
  | error e' =>
    rw [hgrown] at h
    cases h
    exact ensureRows_eq_error hgrown
  | ok g₁ =>
    rw [hgrown] at h
    cases h

/-- Within the bounds a grid that is not too wide can be written everywhere. -/
theorem exists_set {row col : Nat} (v : Cell) (hrow : row < maxRows) (hcol : col < maxCols)
    (hwidth : g.colCount ≤ maxCols) : ∃ g', g.set row col v = .ok g' := by
  have hgrown : g.ensureRows (row + 1) (max g.colCount (col + 1)) = .ok _ :=
    ensureRows_eq_ok.2 ⟨hrow, Nat.max_le.2 ⟨hwidth, hcol⟩, rfl⟩
  exact ⟨_, set_eq_ok.2 ⟨_, hgrown, rfl⟩⟩

namespace HasShape

theorem ensureCols (h : g.HasShape m n) {cols : Nat} (hg : g.ensureCols cols = .ok g') :
    g'.HasShape m (max n cols) := by
  obtain ⟨-, rfl⟩ := ensureCols_eq_ok.1 hg
  rw [widen_eq]
  refine ⟨h.pos, by simpa [rowCount] using h.rowCount_eq, fun r hr => ?_⟩
  obtain ⟨s, hs, rfl⟩ := List.mem_map.1 hr
  rw [length_padTo, h.length_eq s hs]

theorem ensureRows (h : g.HasShape m n) {rows cols : Nat}
    (hg : g.ensureRows rows cols = .ok g') : g'.HasShape (max m rows) (max n cols) := by
  obtain ⟨-, -, rfl⟩ := ensureRows_eq_ok.1 hg
  rw [widen_eq, lengthen_eq, h.colCount_eq, h.rowCount_eq]
  refine ⟨Nat.lt_of_lt_of_le h.pos (Nat.le_max_left m rows), ?_, fun r hr => ?_⟩
  · have hlen : g.rows.length = m := h.rowCount_eq
    simp only [rowCount, List.length_map, List.length_append, List.length_replicate, hlen]
    omega
  · obtain ⟨s, hs, rfl⟩ := List.mem_map.1 hr
    rw [length_padTo]
    rcases List.mem_append.1 hs with hs | hs
    · rw [h.length_eq s hs]
    · -- a new row is already as wide as the grid will be
      rw [(List.mem_replicate.1 hs).2, List.length_replicate]
      omega

theorem place (h : g.HasShape m n) (row col : Nat) (v : Cell) :
    (g.place row col v).HasShape m n := by
  refine ⟨h.pos, by simpa [Grid.place, rowCount] using h.rowCount_eq, fun r hr => ?_⟩
  obtain ⟨i, hi, rfl⟩ := List.mem_iff_getElem.1 hr
  simp only [Grid.place, List.getElem_modify]
  split_ifs
  · rw [List.length_set]
    exact h.length_eq _ (List.getElem_mem _)
  · exact h.length_eq _ (List.getElem_mem _)

theorem set (h : g.HasShape m n) {row col : Nat} {v : Cell} (hg : g.set row col v = .ok g') :
    g'.HasShape (max m (row + 1)) (max n (col + 1)) := by
  obtain ⟨g₁, hr, rfl⟩ := set_eq_ok.1 hg
  have h₁ := h.ensureRows hr
  rw [h.colCount_eq, ← Nat.max_assoc, Nat.max_self] at h₁
  exact h₁.place row col v

theorem mapData (h : g.HasShape m n) (col : Nat) (f : Cell → Cell) :
    (g.mapData col f).HasShape m n := by
  obtain ⟨rows⟩ := g
  cases rows with
  | nil => exact h
  | cons header data =>
    refine ⟨h.pos, by simpa [Grid.mapData, rowCount] using h.rowCount_eq, fun r hr => ?_⟩
    rcases List.mem_cons.1 hr with rfl | hr
    · exact h.length_eq r (List.mem_cons_self ..)
    · obtain ⟨s, hs, rfl⟩ := List.mem_map.1 hr
      rw [List.length_modify]
      exact h.length_eq s (List.mem_cons_of_mem header hs)

end HasShape

end Grid
end GridTalk
