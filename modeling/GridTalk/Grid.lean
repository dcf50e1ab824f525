import GridTalk.Address
import GridTalk.Cell

/-!
# Grids

A grid is a list of rows of cells.  Row 0 is the header, the rows after it hold the data.

* `Grid.ofRows`: rows of any lengths, padded to the longest one.
* `Grid.get`: the one view of a grid; whatever lies outside reads as empty.
* `Grid.ensureRows`, `Grid.ensureCols`: growth, which either fits the bounds or does not happen.
* `Grid.set`: a write, after growth to the position written.
* `Grid.Rectangular`: all rows have the same length, as `rectangular_ofRows` says of every grid
  that was built from rows.
-/

namespace GridTalk

/-- Rows of cells. -/
structure Grid where
  rows : List (List Cell)
  deriving DecidableEq, Repr

namespace Grid

/-- The most rows that a grid may grow to. -/
def maxRows : Nat := 1048576

/-- The most columns that a grid may grow to; the last one is XFD. -/
def maxCols : Nat := 16384

/-- The title of the only column of a grid that was built from no rows. -/
def defaultHeader : String := "Column A"

/-- The number of rows. -/
def rowCount (g : Grid) : Nat := g.rows.length

/-- The length of the longest row. -/
def widest (rows : List (List Cell)) : Nat := rows.foldl (fun n r => max n r.length) 0

/-- The number of columns. -/
def colCount (g : Grid) : Nat := widest g.rows

/-- All rows have the same length. -/
def Rectangular (g : Grid) : Prop := ∀ r ∈ g.rows, r.length = g.colCount

/-- A row with empty cells added up to a length; a longer row stays. -/
def padTo (n : Nat) (row : List Cell) : List Cell :=
  row ++ List.replicate (n - row.length) .empty

/-- The grid of these rows, padded to the longest one.  No rows make a grid of one header cell. -/
def ofRows : List (List Cell) → Grid
  | [] => ⟨[[.text defaultHeader]]⟩
  | rows => ⟨rows.map (padTo (widest rows))⟩

/-- The grid with its rows padded to the longest one. -/
def normalized (g : Grid) : Grid := ofRows g.rows

/-- The cell at an index of a row; behind its end all is empty. -/
def cellAt (row : List Cell) (col : Nat) : Cell := row[col]?.getD .empty

/-- The cell at a position; outside the grid all is empty. -/
def get (g : Grid) (row col : Nat) : Cell := cellAt (g.rows[row]?.getD []) col

/-- The cell at a position. -/
def getAt (g : Grid) (p : Coord) : Cell := g.get p.row p.col

/-- Every row padded to a length.  A grid whose rows are long enough is left alone. -/
def widen (g : Grid) (cols : Nat) : Grid :=
  if g.rows.all fun r => cols ≤ r.length then g else ⟨g.rows.map (padTo cols)⟩

/-- Rows of empty cells of the given width added at the end, up to a number of rows.  A grid that
has as many rows is left alone. -/
def lengthen (g : Grid) (rows width : Nat) : Grid :=
  if rows ≤ g.rowCount then g
  else ⟨g.rows ++ List.replicate (rows - g.rowCount) (List.replicate width .empty)⟩

/-- At least this many columns.  The bound is checked first, and the last column asked for is
reported. -/
def ensureCols (g : Grid) (cols : Nat) : Except SheetError Grid :=
  if cols > maxCols then .error (.column (Column.label (cols - 1)))
  else .ok (g.widen cols)

/-- At least this many rows and columns.  Both bounds are checked first, the rows' before the
columns', and a new row is as wide as the grid already is. -/
def ensureRows (g : Grid) (rows cols : Nat) : Except SheetError Grid :=
  if rows > maxRows then .error (.row (toString rows))
  else if cols > maxCols then .error (.column (Column.label (cols - 1)))
  else .ok ((g.lengthen rows (max cols g.colCount)).widen cols)

/-- The cell at a position replaced, if there is one. -/
def place (g : Grid) (row col : Nat) (v : Cell) : Grid :=
  ⟨g.rows.modify row (·.set col v)⟩

/-- The cell at a position inside the grid replaced, `none` for a position outside. -/
def replace? (g : Grid) (row col : Nat) (v : Cell) : Option Grid :=
  match g.rows[row]? with
  | some r => if col < r.length then some (g.place row col v) else none
  | none => none

/-- A cell written, after growth to its position. -/
def set (g : Grid) (row col : Nat) (v : Cell) : Except SheetError Grid :=
  (g.ensureRows (row + 1) (max g.colCount (col + 1))).map (·.place row col v)

/-- The cells of one column changed in all data rows that reach it; the header stays. -/
def mapData (g : Grid) (col : Nat) (f : Cell → Cell) : Grid :=
  match g.rows with
  | [] => g
  | header :: data => ⟨header :: data.map (·.modify col f)⟩

/-- The texts of all cells. -/
def textRows (g : Grid) : List (List String) := g.rows.map (·.map Cell.asText)

/-! ### The longest row -/

theorem le_foldl_max (rows : List (List Cell)) (n : Nat) :
    n ≤ rows.foldl (fun n r => max n r.length) n := by
  induction rows generalizing n with
  | nil => exact Nat.le_refl n
  | cons r rows ih => exact Nat.le_trans (Nat.le_max_left n r.length) (ih _)

theorem length_le_foldl_max {rows : List (List Cell)} {r : List Cell} (h : r ∈ rows) (n : Nat) :
    r.length ≤ rows.foldl (fun n r => max n r.length) n := by
  induction rows generalizing n with
  | nil => simp at h
  | cons s rows ih =>
    rcases List.mem_cons.1 h with rfl | h
    · exact Nat.le_trans (Nat.le_max_right n r.length) (le_foldl_max rows _)
    · exact ih h _

theorem length_le_widest {rows : List (List Cell)} {r : List Cell} (h : r ∈ rows) :
    r.length ≤ widest rows :=
  length_le_foldl_max h 0

theorem foldl_max_le {rows : List (List Cell)} {n m : Nat} (hn : n ≤ m)
    (h : ∀ r ∈ rows, r.length ≤ m) : rows.foldl (fun n r => max n r.length) n ≤ m := by
  induction rows generalizing n with
  | nil => exact hn
  | cons r rows ih =>
    exact ih (Nat.max_le.2 ⟨hn, h r (List.mem_cons_self ..)⟩)
      fun s hs => h s (List.mem_cons_of_mem r hs)

theorem widest_le {rows : List (List Cell)} {n : Nat} (h : ∀ r ∈ rows, r.length ≤ n) :
    widest rows ≤ n :=
  foldl_max_le (Nat.zero_le n) h

theorem widest_eq_of_forall {rows : List (List Cell)} {n : Nat} (hne : rows ≠ [])
    (h : ∀ r ∈ rows, r.length = n) : widest rows = n := by
  refine Nat.le_antisymm (widest_le fun r hr => Nat.le_of_eq (h r hr)) ?_
  obtain ⟨r, hr⟩ := List.exists_mem_of_ne_nil rows hne
  exact h r hr ▸ length_le_widest hr

@[simp] theorem length_padTo (n : Nat) (row : List Cell) :
    (padTo n row).length = max row.length n := by
  simp [padTo]; omega

theorem padTo_of_le {n : Nat} {row : List Cell} (h : n ≤ row.length) : padTo n row = row := by
  simp [padTo, Nat.sub_eq_zero_of_le h]

/-- Leaving a wide grid alone is padding all its rows. -/
theorem widen_eq (g : Grid) (cols : Nat) : g.widen cols = ⟨g.rows.map (padTo cols)⟩ := by
  unfold widen
  split
  · next h =>
    have hrows : g.rows.map (padTo cols) = g.rows := by
      refine (List.map_congr_left fun r hr => ?_).trans (List.map_id g.rows)
      exact padTo_of_le (by simpa using List.all_eq_true.1 h r hr)
    rw [hrows]
  · rfl

/-- Leaving a long grid alone is adding no row. -/
theorem lengthen_eq (g : Grid) (rows width : Nat) :
    g.lengthen rows width
      = ⟨g.rows ++ List.replicate (rows - g.rowCount) (List.replicate width .empty)⟩ := by
  unfold lengthen
  split
  · next h => simp [Nat.sub_eq_zero_of_le h]
  · rfl

/-- A grid built from rows is rectangular, whatever the rows were. -/
theorem rectangular_ofRows (rows : List (List Cell)) : (ofRows rows).Rectangular := by
  cases rows with
  | nil => simp [ofRows, Rectangular, colCount, widest]
  | cons s rows =>
    have hlen : ∀ r ∈ (s :: rows).map (padTo (widest (s :: rows))),
        r.length = widest (s :: rows) := by
      intro r hr
      obtain ⟨t, ht, rfl⟩ := List.mem_map.1 hr
      simp [Nat.max_eq_right (length_le_widest ht)]
    intro r hr
    exact (hlen r hr).trans (widest_eq_of_forall (by simp) hlen).symm

/-! ### What growth and writing do to the view -/

@[simp] theorem cellAt_nil (col : Nat) : cellAt [] col = .empty := rfl

@[simp] theorem cellAt_replicate (n col : Nat) : cellAt (List.replicate n .empty) col = .empty := by
  simp only [cellAt, List.getElem?_replicate]
  split <;> rfl

/-- Padding is not seen. -/
@[simp] theorem cellAt_padTo (n : Nat) (row : List Cell) (col : Nat) :
    cellAt (padTo n row) col = cellAt row col := by
  unfold cellAt padTo
  by_cases h : col < row.length
  · rw [List.getElem?_append_left h]
  · rw [List.getElem?_append_right (by omega), List.getElem?_eq_none (by omega : row.length ≤ col),
      List.getElem?_replicate]
    split <;> rfl

@[simp] theorem get_widen (g : Grid) (cols row col : Nat) :
    (g.widen cols).get row col = g.get row col := by
  rw [widen_eq, get, get, List.getElem?_map]
  cases g.rows[row]? <;> simp

@[simp] theorem get_lengthen (g : Grid) (rows width row col : Nat) :
    (g.lengthen rows width).get row col = g.get row col := by
  rw [lengthen_eq, get, get]
  by_cases h : row < g.rows.length
  · rw [List.getElem?_append_left h]
  · rw [List.getElem?_append_right (by omega), List.getElem?_replicate,
      List.getElem?_eq_none (by omega : g.rows.length ≤ row)]
    split <;> simp

/-- Growth is not seen. -/
theorem get_of_ensureCols {g g' : Grid} {cols : Nat} (h : g.ensureCols cols = .ok g')
    (row col : Nat) : g'.get row col = g.get row col := by
  unfold ensureCols at h
  split at h
  · cases h
  · cases h; simp

/-- Growth is not seen. -/
theorem get_of_ensureRows {g g' : Grid} {rows cols : Nat} (h : g.ensureRows rows cols = .ok g')
    (row col : Nat) : g'.get row col = g.get row col := by
  unfold ensureRows at h
  split at h
  · cases h
  · split at h
    · cases h
    · cases h; simp

/-- Replacing a cell is seen there and nowhere else. -/
theorem get_place {g : Grid} {row col : Nat} {cells : List Cell} (hr : g.rows[row]? = some cells)
    (hc : col < cells.length) (v : Cell) (r c : Nat) :
    (g.place row col v).get r c = if r = row ∧ c = col then v else g.get r c := by
  unfold place get cellAt
  simp only [List.getElem?_modify]
  by_cases h : r = row
  · subst h
    simp only [hr, Option.map_eq_map, Option.map_some, Option.getD_some, if_true, true_and]
    by_cases h' : c = col
    · subst h'; simp [hc]
    · simp [h', Ne.symm h']
  · simp [h, Ne.symm h]

end Grid

end GridTalk
