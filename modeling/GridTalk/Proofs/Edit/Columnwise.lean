import GridTalk.Proofs.Edit.Arithmetic

/-!
# Edits column by column

An adjustment by a literal number, a computed column, a new title and a clearing all do the same to
every row: they read and write cells in the columns that they name, and nothing in another row has
any part in it.

* `Intent.IsColumnwise`: the edits of this sort.
* `Intent.Accepts`: the grids on which such an edit succeeds, by `exists_perform_iff`.
* `Intent.cellAfter`: a row after the edit, in terms of the row before.
* `Rewrites`: the grid that the edit leaves, in terms of the grid before; `rewrites_perform`.
-/

namespace GridTalk

open Expression Grid

/-! ### What is said about an edit -/

namespace Intent

/-- How many columns a grid has at least when it has all that the edit names. -/
def reach (intent : Intent) : Nat := (intent.columns.map (· + 1)).foldr max 0

/-- The edit reads nothing but the columns that it names, each row by itself. -/
def IsColumnwise : Intent → Prop
  | adjustColumn _ _ amount => ∃ x, Expression.ofText amount = .ok (.number x)
  | addColumn .. | renameColumn .. | clearColumn .. => True
  | setCell .. | fillColumn .. => False

/-- The edit succeeds on this grid.  A title and a computed column are written, which a grid out of
bounds does not allow; the other edits change cells that are there. -/
def Accepts (intent : Intent) (g : Grid) : Prop :=
  intent.reach ≤ maxCols ∧
  match intent with
  | adjustColumn action _ amount =>
    ∃ x, Expression.ofText amount = .ok (.number x) ∧ ¬(action = .divide ∧ x == 0.0)
  | addColumn .. => g.colCount ≤ maxCols ∧ g.rowCount ≤ maxRows
  | renameColumn .. => g.colCount ≤ maxCols
  | clearColumn .. => True
  | setCell .. | fillColumn .. => False

/-- The title of a computed column. -/
def sumTitle (left right : Nat) (subtract : Bool) : String :=
  Column.label left ++ (if subtract then "-" else "+") ++ Column.label right

/-- A row after the edit, in terms of the row before. -/
def cellAfter (intent : Intent) (row : Nat) (cells : Nat → Cell) (c : Nat) : Cell :=
  match intent with
  | adjustColumn action column amount =>
    match Expression.ofText amount with
    | .ok (.number x) => if 1 ≤ row ∧ c = column then adjusted action x (cells c) else cells c
    | _ => cells c
  | addColumn target left right subtract =>
    if c = target then
      if row = 0 then .text (sumTitle left right subtract)
      else arithmetic (cells left).toNumber? (if subtract then .sub else .add)
        (cells right).toNumber?
    else cells c
  | renameColumn column title =>
    if row = 0 ∧ c = column then
      .text (String.ofList (Text.capitalizeWords (Text.trim title.toList)))
    else cells c
  | clearColumn column => if 1 ≤ row ∧ c = column then .empty else cells c
  | setCell .. | fillColumn .. => cells c

end Intent

/-- The edit leaves the grid `g'`. -/
structure Rewrites (intent : Intent) (g g' : Grid) : Prop where
  hasShape : g'.HasShape g.rowCount (max g.colCount intent.reach)
  get_eq : ∀ r c, g'.get r c = intent.cellAfter r (g.get r) c

variable {g g₁ g' : Grid} {cols : Nat} {result : Grid × String}

/-! ### Adjusting and clearing -/

section Data

variable {column : Nat}

/-- The data of a column is changed when the grid has been widened. -/
theorem get_mapData_of_ensureCols (hg : g.WellFormed) (hwide : g.ensureCols cols = .ok g₁)
    {f : Cell → Cell} (hf : f .empty = .empty) (r c : Nat) :
    (g₁.mapData column f).get r c = if 1 ≤ r ∧ c = column then f (g.get r c) else g.get r c := by
  have hpad := padsTo_ensureCols hg hwide
  rw [get_mapData_of_empty hpad.wellFormed column hf, hpad.get]

/-- A literal is its own number, and no grid grows for it. -/
theorem numericValue_of_number {amount : String} {x : Float}
    (hx : ofText amount = .ok (.number x)) (row : Nat) (g : Grid) :
    numericValue amount row g = (.ok x, g) := by
  have hvalue : evaluateText amount row g = (.ok (.number x), g) := evaluateText_of_ok hx row g
  have hnumber : (Cell.number x).toNumber? = some x := if_pos (isFinite_of_ofText hx)
  rw [numericValue, hvalue]
  dsimp only
  rw [hnumber]

variable {action : Adjustment} {amount : String}

theorem exists_adjustColumn_iff (hx : ∃ x, ofText amount = .ok (.number x)) :
    (∃ result, adjustColumn g action column amount = .ok result) ↔
      (Intent.adjustColumn action column amount).Accepts g := by
  obtain ⟨x, hx⟩ := hx
  constructor
  · rintro ⟨result, h⟩
    obtain ⟨g₁, factor, g₂, hwide, hv, hzero, -⟩ := adjustColumn_eq_ok.1 h
    obtain ⟨rfl, rfl⟩ : x = factor ∧ g₁ = g₂ := by
      simpa [numericValue_of_number hx] using hv
    exact ⟨(ensureCols_eq_ok.1 hwide).1, x, hx, hzero⟩
  · rintro ⟨hcol, y, hy, hzero⟩
    exact ⟨_, adjustColumn_eq_ok.2 ⟨_, y, _, ensureCols_eq_ok.2 ⟨hcol, rfl⟩,
      numericValue_of_number hy 1 _, hzero, rfl⟩⟩

theorem rewrites_adjustColumn (hg : g.WellFormed) (hx : ∃ x, ofText amount = .ok (.number x))
    (h : adjustColumn g action column amount = .ok result) :
    Rewrites (.adjustColumn action column amount) g result.1 := by
  obtain ⟨x, hx⟩ := hx
  obtain ⟨g₁, factor, g₂, hwide, hv, -, rfl⟩ := adjustColumn_eq_ok.1 h
  obtain ⟨rfl, rfl⟩ : x = factor ∧ g₁ = g₂ := by
    simpa [numericValue_of_number hx] using hv
  refine ⟨(hg.hasShape.ensureCols hwide).mapData column _, fun r c => ?_⟩
  rw [get_mapData_of_ensureCols hg hwide rfl, Intent.cellAfter, hx]

theorem exists_clearColumn_iff :
    (∃ result, clearColumn g column = .ok result) ↔ (Intent.clearColumn column).Accepts g := by
  constructor
  · rintro ⟨result, h⟩
    obtain ⟨g₁, hwide, -⟩ := clearColumn_eq_ok.1 h
    exact ⟨(ensureCols_eq_ok.1 hwide).1, trivial⟩
  · rintro ⟨hcol, -⟩
    exact ⟨_, clearColumn_eq_ok.2 ⟨_, ensureCols_eq_ok.2 ⟨hcol, rfl⟩, rfl⟩⟩

theorem rewrites_clearColumn (hg : g.WellFormed) (h : clearColumn g column = .ok result) :
    Rewrites (.clearColumn column) g result.1 := by
  obtain ⟨g₁, hwide, rfl⟩ := clearColumn_eq_ok.1 h
  exact ⟨(hg.hasShape.ensureCols hwide).mapData column _, get_mapData_of_ensureCols hg hwide rfl⟩

end Data

/-! ### Titles -/

section Title

variable {column : Nat} {title : String}

theorem exists_renameColumn_iff (hg : g.WellFormed) :
    (∃ result, renameColumn g column title = .ok result) ↔
      (Intent.renameColumn column title).Accepts g := by
  constructor
  · rintro ⟨result, h⟩
    obtain ⟨g₁, hwide, g₂, hset, -⟩ := renameColumn_eq_ok.1 h
    exact ⟨(ensureCols_eq_ok.1 hwide).1, (set_title_spec hg hwide column.lt_succ_self hset).1⟩
  · rintro ⟨hcol, hwidth⟩
    obtain ⟨g₁, g₂, hwide, hset⟩ := exists_set_title _ hg hwidth column.lt_succ_self hcol
    exact ⟨_, renameColumn_eq_ok.2 ⟨g₁, hwide, g₂, hset, rfl⟩⟩

theorem rewrites_renameColumn (hg : g.WellFormed) (h : renameColumn g column title = .ok result) :
    Rewrites (.renameColumn column title) g result.1 := by
  obtain ⟨g₁, hwide, g₂, hset, rfl⟩ := renameColumn_eq_ok.1 h
  obtain ⟨-, hshape, hget⟩ := set_title_spec hg hwide column.lt_succ_self hset
  exact ⟨hshape, hget⟩

end Title

/-! ### Computing a column -/

section Sum

variable {target left right : Nat} {subtract : Bool}

theorem reach_addColumn :
    (Intent.addColumn target left right subtract).reach = max (max target left) right + 1 := by
  simp [Intent.reach, Intent.columns]

/-- The rows below the title are written in the grid as it is. -/
theorem hasShape_foldlM_set {m n : Nat} {title : Cell} (hg : g.HasShape m n)
    (htarget : target < n) (htitle : g.get 0 target = title)
    (hrun : g.dataRows.foldlM
      (fun g row => g.set row target (combined g row left right subtract)) g = .ok g') :
    g'.HasShape m n ∧ g'.get 0 target = title := by
  refine foldlM_invariant (P := fun g => g.HasShape m n ∧ g.get 0 target = title)
    (fun row hrow g₁ g₂ hg₁ hset => ?_) ⟨hg, htitle⟩ hrun
  rw [dataRows, hg.rowCount_eq] at hrow
  obtain ⟨h1, h2⟩ := List.mem_range'_1.1 hrow
  have hshape := hg₁.1.set hset
  rw [Nat.max_eq_left (by omega), Nat.max_eq_left htarget] at hshape
  refine ⟨hshape, ?_⟩
  rw [get_of_set hg₁.1.wellFormed hset, if_neg (by omega), hg₁.2]

theorem exists_addColumn_iff (hg : g.WellFormed) :
    (∃ result, addColumn g target left right subtract = .ok result) ↔
      (Intent.addColumn target left right subtract).Accepts g := by
  rw [Intent.Accepts, reach_addColumn]
  constructor
  · rintro ⟨result, h⟩
    obtain ⟨g₁, hwide, g₂, htitle, g₃, hrun, -⟩ := addColumn_eq_ok.1 h
    obtain ⟨hwidth, hshape, -⟩ := set_title_spec hg hwide (by omega) htitle
    refine ⟨(ensureCols_eq_ok.1 hwide).1, hwidth, Nat.le_of_not_lt fun hheight => ?_⟩
    -- the last row has been written, too
    have hlast : g.rowCount - 1 ∈ g₂.dataRows := by
      have hrows : 1 < maxRows := by decide
      rw [dataRows, hshape.rowCount_eq, List.mem_range'_1]
      omega
    obtain ⟨g₄, g₅, hset⟩ := exists_step_of_foldlM hrun hlast
    obtain ⟨_, hgrown, -⟩ := set_eq_ok.1 hset
    have hrow := (ensureRows_eq_ok.1 hgrown).1
    omega
  · rintro ⟨hcols, hwidth, hheight⟩
    have htarget : target < maxCols := by omega
    have hleft : left < maxCols := by omega
    have hright : right < maxCols := by omega
    obtain ⟨result, hresult, -⟩ :=
      exists_addColumn hg hwidth hheight htarget hleft hright subtract
    exact ⟨result, hresult⟩

theorem rewrites_addColumn (hg : g.WellFormed)
    (h : addColumn g target left right subtract = .ok result) :
    Rewrites (.addColumn target left right subtract) g result.1 := by
  have hcomputed := computedUpTo_addColumn hg h
  obtain ⟨g₁, hwide, g₂, htitle, g₃, hrun, rfl⟩ := addColumn_eq_ok.1 h
  obtain ⟨-, hshape, hget⟩ := set_title_spec hg hwide (by omega) htitle
  obtain ⟨hshape₃, htitle₃⟩ :=
    hasShape_foldlM_set hshape (by omega) ((hget 0 target).trans (if_pos ⟨rfl, rfl⟩)) hrun
  refine ⟨by rwa [reach_addColumn], fun r c => ?_⟩
  simp only [Intent.cellAfter]
  split
  · next hc =>
    subst hc
    split
    · next hr =>
      rw [hr, htitle₃]
      rfl
    · next hr =>
      rw [← combined_eq_arithmetic]
      by_cases hin : r < g.rowCount
      · exact hcomputed.computed r (by omega) hin
      · have hempty : ∀ c, g.get r c = .empty := fun c => get_of_le (.inl (Nat.not_lt.1 hin))
        have hempty₃ : g₃.get r c = .empty :=
          get_of_le (.inl (hshape₃.rowCount_eq ▸ Nat.not_lt.1 hin))
        rw [hempty₃, combined, hempty, hempty]
        rfl
  · next hc => exact hcomputed.get_eq r c fun hw => hc hw.2

end Sum

/-! ### All of them -/

variable {intent : Intent}

theorem exists_perform_iff (hg : g.WellFormed) (hcolumnwise : intent.IsColumnwise) :
    (∃ result, intent.perform g = .ok result) ↔ intent.Accepts g := by
  cases intent with
  | setCell | fillColumn => cases hcolumnwise
  | adjustColumn => exact exists_adjustColumn_iff hcolumnwise
  | addColumn => exact exists_addColumn_iff hg
  | renameColumn => exact exists_renameColumn_iff hg
  | clearColumn => exact exists_clearColumn_iff

theorem rewrites_perform (hg : g.WellFormed) (hcolumnwise : intent.IsColumnwise)
    (h : intent.perform g = .ok result) : Rewrites intent g result.1 := by
  cases intent with
  | setCell | fillColumn => cases hcolumnwise
  | adjustColumn => exact rewrites_adjustColumn hg hcolumnwise h
  | addColumn => exact rewrites_addColumn hg h
  | renameColumn => exact rewrites_renameColumn hg h
  | clearColumn => exact rewrites_clearColumn hg h

end GridTalk
