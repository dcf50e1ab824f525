import GridTalk.Grid

/-!
# Rows of one length

Rows of any lengths are brought to the length of the longest one.  A row that is brought to a length
is cut off there as well as filled up to it.  Nothing is lost because no row is longer than the
longest one, and a second time nothing is left to do.

* `resize`, `normalize`: a row brought to a length, and all rows to the greatest of their lengths.
* `rows_ofRows`: these are the rows of a grid that is built from rows.
* `IsLongest`, `cellIn?`: the length of the longest row, and the cell at a position, if there is
  one.
* `PadsOut`: what padding is, said without computing a length; `PadsOut.unique`: no other rows
  answer to it.
* `padsOut_normalize`: the rows are padded out; `normalize_lossless`: they are that and nothing
  else, and stay as they are a second time.
-/

namespace GridTalk
namespace Grid

/-! ### What is done -/

/-- A row brought to a length: cut off there, or filled up with empty cells. -/
def resize (n : Nat) (row : List Cell) : List Cell :=
  row.take n ++ List.replicate (n - row.length) .empty

/-- All rows brought to the greatest of their lengths.  No rows become one with a header cell. -/
def normalize : List (List Cell) → List (List Cell)
  | [] => [[.text defaultHeader]]
  | rows => rows.map (resize ((rows.map List.length).max?.getD 0))

/-! ### What it is to come to -/

/-- The length is that of the longest row. -/
structure IsLongest (rows : List (List Cell)) (n : Nat) : Prop where
  attained : ∃ r ∈ rows, r.length = n
  length_le : ∀ r ∈ rows, r.length ≤ n

/-- The cell at a position of these rows, `none` where they have none. -/
def cellIn? (rows : List (List Cell)) (row col : Nat) : Option Cell := rows[row]?.bind (·[col]?)

/-- There are as many rows as before, each as long as the longest one was; what was there is there
still, and all else is empty. -/
structure PadsOut (rows padded : List (List Cell)) : Prop where
  length_eq : padded.length = rows.length
  isLongest : ∀ r ∈ padded, IsLongest rows r.length
  kept : ∀ row col v, cellIn? rows row col = some v → cellIn? padded row col = some v
  added : ∀ row col v, cellIn? rows row col = none → cellIn? padded row col = some v → v = .empty

variable {rows padded : List (List Cell)} {m n : Nat}

/-! ### The longest row -/

theorem IsLongest.unique (hm : IsLongest rows m) (hn : IsLongest rows n) : m = n := by
  obtain ⟨r, hr, rfl⟩ := hm.attained
  obtain ⟨s, hs, rfl⟩ := hn.attained
  exact Nat.le_antisymm (hn.length_le r hr) (hm.length_le s hs)

theorem IsLongest.widest_eq (h : IsLongest rows n) : widest rows = n := by
  obtain ⟨r, hr, rfl⟩ := h.attained
  exact Nat.le_antisymm (widest_le h.length_le) (length_le_widest hr)

/-- The greatest of the lengths is the length of a row, and of no row it is exceeded. -/
theorem isLongest_max? (hne : rows ≠ []) :
    IsLongest rows ((rows.map List.length).max?.getD 0) := by
  cases hmax : (rows.map List.length).max? with
  | none => exact absurd (List.map_eq_nil_iff.1 (List.max?_eq_none_iff.1 hmax)) hne
  | some n =>
    obtain ⟨hmem, hle⟩ := List.max?_eq_some_iff.1 hmax
    exact ⟨List.mem_map.1 hmem, fun r hr => hle _ (List.mem_map_of_mem hr)⟩

/-! ### One row -/

@[simp] theorem length_resize (n : Nat) (row : List Cell) : (resize n row).length = n := by
  simp only [resize, List.length_append, List.length_take, List.length_replicate]
  omega

/-- A row that is not too long is only filled up. -/
theorem resize_of_le {row : List Cell} (h : row.length ≤ n) : resize n row = padTo n row := by
  rw [resize, List.take_of_length_le h, padTo]

/-- Where the row had a cell it has it still, and behind its end it has empty ones. -/
theorem getElem?_resize {row : List Cell} (h : row.length ≤ n) (col : Nat) :
    (resize n row)[col]? = if col < n then some (cellAt row col) else none := by
  split
  · next hcol =>
    rw [← cellAt_padTo n, ← resize_of_le h, cellAt,
      List.getElem?_eq_getElem ((length_resize n row).symm ▸ hcol), Option.getD_some]
  · next hcol => exact List.getElem?_eq_none (by rw [length_resize]; omega)

/-! ### All rows -/

/-- The rows of a grid that is built from rows are these rows, brought to one length. -/
theorem rows_ofRows (rows : List (List Cell)) : (ofRows rows).rows = normalize rows := by
  cases rows with
  | nil => rfl
  | cons r rows =>
    have hlongest := isLongest_max? (List.cons_ne_nil r rows)
    refine List.map_congr_left fun s hs => ?_
    -- no row is longer than the longest one, and none is cut off
    rw [hlongest.widest_eq, resize_of_le (hlongest.length_le s hs)]

theorem normalize_of_ne_nil (hne : rows ≠ []) (h : IsLongest rows n) :
    normalize rows = rows.map (resize n) := by
  rw [← (isLongest_max? hne).unique h]
  cases rows with
  | nil => exact absurd rfl hne
  | cons r rows => rfl

theorem cellIn?_map_resize (h : ∀ r ∈ rows, r.length ≤ n) (row col : Nat) :
    cellIn? (rows.map (resize n)) row col
      = rows[row]?.bind fun r => if col < n then some (cellAt r col) else none := by
  rw [cellIn?, List.getElem?_map]
  cases hrow : rows[row]? with
  | none => rfl
  | some r => exact getElem?_resize (h r (List.mem_of_getElem? hrow)) col

/-- Rows are padded out, and none of their cells is lost. -/
theorem padsOut_normalize (hne : rows ≠ []) : PadsOut rows (normalize rows) := by
  obtain ⟨n, hlongest⟩ : ∃ n, IsLongest rows n := ⟨_, isLongest_max? hne⟩
  rw [normalize_of_ne_nil hne hlongest]
  refine ⟨List.length_map _, fun r hr => ?_, fun row col v hv => ?_, fun row col v hnone hv => ?_⟩
  · obtain ⟨s, -, rfl⟩ := List.mem_map.1 hr
    rwa [length_resize]
  · obtain ⟨r, hrow, hcol⟩ := Option.bind_eq_some_iff.1 hv
    -- the position lies inside its row, and so in front of the end of the longest one
    have hlt := (List.getElem?_eq_some_iff.1 hcol).1
    have hle := hlongest.length_le r (List.mem_of_getElem? hrow)
    rw [cellIn?_map_resize hlongest.length_le, hrow, Option.bind_some, if_pos (by omega), cellAt,
      hcol, Option.getD_some]
  · rw [cellIn?_map_resize hlongest.length_le] at hv
    obtain ⟨r, hrow, hcell⟩ := Option.bind_eq_some_iff.1 hv
    rw [cellIn?, hrow, Option.bind_some] at hnone
    split at hcell
    · rw [cellAt, hnone] at hcell
      exact (Option.some.inj hcell).symm
    · cases hcell

theorem cellIn?_eq_getElem {row col : Nat} (hr : row < rows.length) (hc : col < rows[row].length) :
    cellIn? rows row col = some rows[row][col] := by
  rw [cellIn?, List.getElem?_eq_getElem hr, Option.bind_some, List.getElem?_eq_getElem hc]

/-- There is one way to pad rows out. -/
theorem PadsOut.unique {padded' : List (List Cell)} (h : PadsOut rows padded)
    (h' : PadsOut rows padded') : padded = padded' := by
  refine List.ext_getElem (h.length_eq.trans h'.length_eq.symm) fun row hr hr' => ?_
  have hlength := (h.isLongest _ (List.getElem_mem hr)).unique
    (h'.isLongest _ (List.getElem_mem hr'))
  refine List.ext_getElem hlength fun col hc hc' => ?_
  have hv := cellIn?_eq_getElem hr hc
  have hv' := cellIn?_eq_getElem hr' hc'
  -- a cell is the one that was there, or it is empty
  cases hcell : cellIn? rows row col with
  | none => rw [h.added row col _ hcell hv, h'.added row col _ hcell hv']
  | some v =>
    rw [h.kept row col v hcell] at hv
    rw [h'.kept row col v hcell] at hv'
    exact (Option.some.inj hv).symm.trans (Option.some.inj hv')

/-- Padded rows are all of one length, and have nothing to be padded with. -/
theorem PadsOut.self (h : PadsOut rows padded) : PadsOut padded padded where
  length_eq := rfl
  isLongest r hr := by
    refine ⟨⟨r, hr, rfl⟩, fun s hs => ?_⟩
    exact Nat.le_of_eq ((h.isLongest s hs).unique (h.isLongest r hr))
  kept _ _ _ hv := hv
  added _ _ _ hnone hv := by
    rw [hnone] at hv
    cases hv

theorem normalize_normalize (rows : List (List Cell)) :
    normalize (normalize rows) = normalize rows := by
  cases rows with
  | nil => rfl
  | cons r rows =>
    have hpads := padsOut_normalize (List.cons_ne_nil r rows)
    exact (padsOut_normalize (by simp [normalize])).unique hpads.self

/-- **Rows are padded as far as needed, once.**  The rows of a grid that is built from rows are a
single header cell if there were none.  Else they are the only rows that pad these out: nothing is
lost, nothing but empty cells is added, and no row is made longer than the longest one.  To do so
again changes nothing, whatever the rows were. -/
theorem normalize_lossless (rows : List (List Cell)) :
    (ofRows rows).rows = normalize rows ∧
    normalize [] = [[.text "Column A"]] ∧
    (rows ≠ [] → ∀ padded, normalize rows = padded ↔ PadsOut rows padded) ∧
    normalize (normalize rows) = normalize rows := by
  refine ⟨rows_ofRows rows, rfl, fun hne padded => ⟨?_, fun h => ?_⟩, normalize_normalize rows⟩
  · rintro rfl
    exact padsOut_normalize hne
  · exact (padsOut_normalize hne).unique h

/-- The widest row comes last, and a row without cells is filled up; rows that all have no cells
stay so. -/
theorem normalize_lossless_ragged :
    let rows : List (List Cell) :=
      [[.text "Name", .text "Hours"], [], [.text "Rohan", .number 40, .boolean true]]
    let padded : List (List Cell) :=
      [[.text "Name", .text "Hours", .empty], [.empty, .empty, .empty],
        [.text "Rohan", .number 40, .boolean true]]
    rows ≠ [] ∧ (ofRows rows).rows = padded ∧ PadsOut rows padded ∧ normalize padded = padded ∧
      PadsOut [[], []] [[], []] := by
  intro rows padded
  have hne : rows ≠ [] := by simp [rows]
  have hpadded : normalize rows = padded := rfl
  obtain ⟨hrows, -, hpads, hagain⟩ := normalize_lossless rows
  have hempty := (normalize_lossless [[], []]).2.2.1 (by simp)
  refine ⟨hne, hrows.trans hpadded, (hpads hne padded).1 hpadded, ?_, (hempty _).1 rfl⟩
  rwa [hpadded] at hagain

end Grid
end GridTalk
