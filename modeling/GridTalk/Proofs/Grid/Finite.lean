import GridTalk.Proofs.Grid.Change

/-!
# Grids of finite numbers

A number in a grid can be an infinity or no number at all, but only if it was loaded so.

* `Cell.IsFinite`, `Grid.IsFinite`: no such number in a cell, or in any cell of a grid.
* `Cell.isFinite_of_toNumber?`: what is read from a cell is finite.
* `Grid.isFinite_iff_get`: the same for every position, inside the grid or outside of it; with it
  `PadsTo.isFinite`, `isFinite_of_set` and `isFinite_mapData` follow from what growth and writing do
  to the view.
-/

namespace GridTalk

/-! ### Cells -/

/-- If the cell holds a number, it is finite. -/
def Cell.IsFinite : Cell → Prop
  | number x => x.isFinite
  | empty | boolean _ | text _ => True

instance : DecidablePred Cell.IsFinite
  | .number x => inferInstanceAs (Decidable (x.isFinite = true))
  | .empty | .boolean _ | .text _ => .isTrue trivial

@[simp] theorem Cell.isFinite_text (s : String) : (text s).IsFinite := trivial

/-- Arithmetic works with finite numbers only. -/
theorem Cell.isFinite_of_toNumber? {v : Cell} {x : Float} (h : v.toNumber? = some x) :
    x.isFinite := by
  cases v with
  | number y =>
    obtain ⟨hfinite, rfl⟩ := Option.ite_some_none_eq_some.1 h
    exact hfinite
  | text s => exact isFinite_of_finiteOf? h
  | empty => cases h
  | boolean b => cases h

namespace Grid

/-! ### Grids -/

/-- All numbers in the grid are finite. -/
def IsFinite (g : Grid) : Prop := ∀ r ∈ g.rows, ∀ v ∈ r, v.IsFinite

variable {g g' : Grid}

theorem isFinite_cellAt {row : List Cell} (h : ∀ v ∈ row, v.IsFinite) (c : Nat) :
    (cellAt row c).IsFinite := by
  rw [cellAt]
  cases hv : row[c]? with
  | none => trivial
  | some v => exact h v (List.mem_of_getElem? hv)

/-- A grid is finite as it is seen. -/
theorem isFinite_iff_get : g.IsFinite ↔ ∀ r c, (g.get r c).IsFinite := by
  constructor
  · intro h r c
    rw [get]
    cases hrow : g.rows[r]? with
    | none => trivial
    | some row => exact isFinite_cellAt (h row (List.mem_of_getElem? hrow)) c
  · intro h row hrow v hv
    obtain ⟨r, hr, rfl⟩ := List.mem_iff_getElem.1 hrow
    obtain ⟨c, hc, rfl⟩ := List.mem_iff_getElem.1 hv
    exact get_eq_getElem hr hc ▸ h r c

theorem isFinite_ofRows {rows : List (List Cell)} (h : ∀ r ∈ rows, ∀ v ∈ r, v.IsFinite) :
    (ofRows rows).IsFinite := by
  cases rows with
  | nil =>
    intro r hr v hv
    obtain rfl := List.mem_singleton.1 hr
    obtain rfl := List.mem_singleton.1 hv
    trivial
  | cons s rows =>
    intro r hr v hv
    obtain ⟨t, ht, rfl⟩ := List.mem_map.1 hr
    rcases List.mem_append.1 hv with hv | hv
    · exact h t ht v hv
    · rw [List.eq_of_mem_replicate hv]
      trivial

/-- Padding adds no number. -/
theorem PadsTo.isFinite (h : g.PadsTo g') (hg : g.IsFinite) : g'.IsFinite :=
  isFinite_iff_get.2 fun r c => h.get r c ▸ isFinite_iff_get.1 hg r c

theorem isFinite_of_set {row col : Nat} {v : Cell} (h : g.WellFormed) (hg : g.IsFinite)
    (hv : v.IsFinite) (hset : g.set row col v = .ok g') : g'.IsFinite := by
  refine isFinite_iff_get.2 fun r c => ?_
  rw [get_of_set h hset]
  split
  · exact hv
  · exact isFinite_iff_get.1 hg r c

theorem isFinite_mapData (h : g.WellFormed) (hg : g.IsFinite) (col : Nat) {f : Cell → Cell}
    (hf : ∀ v, v.IsFinite → (f v).IsFinite) : (g.mapData col f).IsFinite := by
  refine isFinite_iff_get.2 fun r c => ?_
  rw [get_mapData h]
  split
  · exact hf _ (isFinite_iff_get.1 hg r c)
  · exact isFinite_iff_get.1 hg r c

end Grid

end GridTalk
