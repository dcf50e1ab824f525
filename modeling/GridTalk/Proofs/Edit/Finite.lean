import GridTalk.Proofs.Edit.Arithmetic
import GridTalk.Proofs.Edit.Frame
import GridTalk.Proofs.Grid.Finite
import Mathlib.Data.Option.NAry

/-!
# Calculating within range

Every number that is calculated is looked at before it is written.  If it is out of range, be it
only after the rounding, the cell is left empty, or as it was.

* `Overflows`: a result that is not written.
* `Expression.result?`, `Expression.outcome_of_result?`: what a formula makes of its result.
* `isFinite_of_evaluateText`: values are finite.
* `isFinite_setCell`, `isFinite_adjustColumn`, `isFinite_addColumn`, `isFinite_fillColumn`,
  `isFinite_renameColumn`, `isFinite_clearColumn`, `isFinite_execute`: no edit makes a finite grid
  infinite.
* `Grid.InRange`: all that calculating on a finite grid can lead to, by `inRange_of_isFinite`.
-/

namespace GridTalk

open Grid

/-! ### Results -/

/-- The result, or only what rounding makes of it, is out of range. -/
def Overflows (z : Float) : Prop := (roundNumber z).isFinite = false

theorem isFinite_computedCell (z : Float) : (computedCell z).IsFinite := by
  unfold computedCell
  split
  · next h => exact h
  · trivial

theorem computedCell_of_overflows {z : Float} (h : Overflows z) : computedCell z = .empty := by
  rw [computedCell, h]
  rfl

theorem isFinite_arithmetic (left : Option Float) (op : Operator) (right : Option Float) :
    (arithmetic left op right).IsFinite := by
  unfold arithmetic
  split
  · exact isFinite_computedCell _
  · trivial

theorem isFinite_adjusted {action : Adjustment} {factor : Float} {v : Cell} (h : v.IsFinite) :
    (adjusted action factor v).IsFinite := by
  unfold adjusted
  split
  · exact h
  · dsimp only
    split
    · next hfinite => exact hfinite
    · exact h

theorem adjusted_of_overflows {action : Adjustment} {factor x : Float} {v : Cell}
    (hx : v.toNumber? = some x) (h : Overflows (action.apply x factor)) :
    adjusted action factor v = v := by
  refine adjusted_eq_self fun y hy => ?_
  obtain rfl := Option.some.inj (hx.symm.trans hy)
  exact h

/-! ### Values -/

/-- The value of a cell in arithmetic, `none` if the grid cannot grow to it. -/
def Reference.number? (r : Reference) (g : Grid) : Option Float :=
  match r.locate g.colCount with
  | .error _ => none
  | .ok p => (g.getAt p).toNumber?

namespace Expression

/-- The result of a formula before it is rounded, if both operands have a value in arithmetic. -/
def result? (e : Expression) (row : Nat) (g : Grid) : Option Float :=
  match e with
  | columns left op right =>
    Option.map₂ op.apply (columnNumber? left row g) (columnNumber? right row g)
  | cells left op right => Option.map₂ op.apply (left.number? g) (right.number? g)
  | cellNumber left op y => (left.number? g).map (op.apply · y)
  | quoted _ | blank | cell _ | number _ | label _ => none

variable {e : Expression} {row : Nat} {g : Grid}

theorem exists_locate_of_number? {r : Reference} {x : Float} (h : r.number? g = some x) :
    ∃ p, r.locate g.colCount = .ok p ∧ (g.getAt p).toNumber? = some x := by
  unfold Reference.number? at h
  split at h
  · cases h
  · next p hp => exact ⟨p, hp, h⟩

/-- What a formula makes of its result. -/
theorem outcome_of_result? {z : Float} (h : e.result? row g = some z) :
    e.outcome row g = .ok (computedCell z) := by
  cases e with
  | quoted | blank | cell | number | label => cases h
  | columns left op right =>
    obtain ⟨x, y, hx, hy, rfl⟩ := Option.map₂_eq_some_iff.1 h
    rw [outcome, hx, hy]
    rfl
  | cells left op right =>
    obtain ⟨x, y, hx, hy, rfl⟩ := Option.map₂_eq_some_iff.1 h
    obtain ⟨p, hp, hx⟩ := exists_locate_of_number? hx
    obtain ⟨q, hq, hy⟩ := exists_locate_of_number? hy
    refine bind_eq_ok.2 ⟨p, hp, bind_eq_ok.2 ⟨q, hq, ?_⟩⟩
    rw [hx, hy]
    rfl
  | cellNumber left op y =>
    obtain ⟨x, hx, rfl⟩ := Option.map_eq_some_iff.1 h
    obtain ⟨p, hp, hx⟩ := exists_locate_of_number? hx
    refine map_eq_ok.2 ⟨p, hp, ?_⟩
    rw [hx]
    rfl

/-- A value is calculated, or copied from the grid, or it is the literal. -/
theorem isFinite_of_outcome {v : Cell} (hg : g.IsFinite) (he : ∀ x, e = .number x → x.isFinite)
    (h : e.outcome row g = .ok v) : v.IsFinite := by
  cases e with
  | quoted text =>
    cases h
    trivial
  | blank =>
    cases h
    trivial
  | label text =>
    cases h
    trivial
  | number x =>
    cases h
    exact he x rfl
  | columns left op right =>
    cases h
    exact isFinite_arithmetic _ _ _
  | cell source =>
    obtain ⟨p, -, rfl⟩ := map_eq_ok.1 h
    exact isFinite_iff_get.1 hg _ _
  | cells left op right =>
    obtain ⟨p, -, h⟩ := bind_eq_ok.1 h
    obtain ⟨q, -, h⟩ := bind_eq_ok.1 h
    obtain rfl := pure_eq_ok.1 h
    exact isFinite_arithmetic _ _ _
  | cellNumber left op y =>
    obtain ⟨p, -, rfl⟩ := map_eq_ok.1 h
    exact isFinite_arithmetic _ _ _

end Expression

theorem isFinite_of_evaluateText {g : Grid} (hg : g.WellFormed) (hfinite : g.IsFinite)
    {text : String} {row : Nat} {v : Cell} (h : (evaluateText text row g).1 = .ok v) :
    v.IsFinite := by
  cases he : Expression.ofText text with
  | error err =>
    rw [evaluateText_of_error he] at h
    cases h
  | ok e =>
    rw [evaluateText_of_ok he, e.evaluate_fst hg] at h
    refine Expression.isFinite_of_outcome hfinite (fun x hx => ?_) h
    exact Expression.isFinite_of_ofText (hx ▸ he)

/-! ### Edits -/

section Edits

variable {g : Grid} {result : Grid × String} (hg : g.WellFormed) (hfinite : g.IsFinite)
include hg hfinite

theorem isFinite_setCell {target : Coord} {expression : String}
    (h : setCell g target expression = .ok result) : result.1.IsFinite := by
  obtain ⟨g₁, v, g₂, g₃, hgrown, hv, hset, rfl⟩ := setCell_eq_ok.1 h
  have hpad := padsTo_ensureRows hg hgrown
  have heval := padsTo_evaluateText hpad.wellFormed expression target.row
  have hvalue := isFinite_of_evaluateText hpad.wellFormed (hpad.isFinite hfinite)
    (congrArg Prod.fst hv)
  rw [hv] at heval
  exact isFinite_of_set heval.wellFormed (heval.isFinite (hpad.isFinite hfinite)) hvalue hset

theorem isFinite_adjustColumn {action : Adjustment} {column : Nat} {amount : String}
    (h : adjustColumn g action column amount = .ok result) : result.1.IsFinite := by
  obtain ⟨factor, g', -, hpad, hmap⟩ := exists_mapData_of_adjustColumn hg h
  rw [← hmap]
  exact isFinite_mapData hpad.wellFormed (hpad.isFinite hfinite) column fun v => isFinite_adjusted

theorem isFinite_addColumn {target left right : Nat} {subtract : Bool}
    (h : addColumn g target left right subtract = .ok result) : result.1.IsFinite := by
  obtain ⟨g₁, hwide, g₂, htitle, g₃, hrun, rfl⟩ := addColumn_eq_ok.1 h
  have hpad := padsTo_ensureCols hg hwide
  have hset : ∀ {row v g g'}, (g : Grid).WellFormed ∧ g.IsFinite → v.IsFinite →
      g.set row target v = .ok g' → g'.WellFormed ∧ g'.IsFinite := fun hg hv h =>
    ⟨(changesTo_set hg.1 h).wellFormed, isFinite_of_set hg.1 hg.2 hv h⟩
  have hstart := hset ⟨hpad.wellFormed, hpad.isFinite hfinite⟩ (Cell.isFinite_text _) htitle
  refine (foldlM_invariant (fun row _ g g' hg h => hset hg ?_ h) hstart hrun).2
  rw [combined_eq_arithmetic]
  exact isFinite_arithmetic _ _ _

theorem isFinite_fillColumn {column : Nat} {expression : String}
    (h : fillColumn g column expression = .ok result) : result.1.IsFinite := by
  obtain ⟨e, last, he, -, hfilled⟩ := filledUpTo_fillColumn hg h
  refine isFinite_iff_get.2 fun r c => ?_
  by_cases hw : 1 ≤ r ∧ r < last ∧ c = column ∧ (g.get r c).isBlank
  · obtain ⟨h1, h2, rfl, hb⟩ := hw
    refine Expression.isFinite_of_outcome hfinite (fun x hx => ?_) (hfilled.filled r h1 h2 hb)
    exact Expression.isFinite_of_ofText (hx ▸ he)
  · rw [hfilled.get_eq r c hw]
    exact isFinite_iff_get.1 hfinite r c

theorem isFinite_renameColumn {column : Nat} {title : String}
    (h : renameColumn g column title = .ok result) : result.1.IsFinite := by
  obtain ⟨g₁, hwide, g₂, hset, rfl⟩ := renameColumn_eq_ok.1 h
  have hpad := padsTo_ensureCols hg hwide
  exact isFinite_of_set hpad.wellFormed (hpad.isFinite hfinite) (Cell.isFinite_text _) hset

theorem isFinite_clearColumn {column : Nat} (h : clearColumn g column = .ok result) :
    result.1.IsFinite := by
  obtain ⟨g₁, hwide, rfl⟩ := clearColumn_eq_ok.1 h
  have hpad := padsTo_ensureCols hg hwide
  exact isFinite_mapData hpad.wellFormed (hpad.isFinite hfinite) column fun _ _ => trivial

/-- No edit makes a finite grid infinite. -/
theorem isFinite_execute {intent : Intent} {edit : Edit} (h : intent.execute g = .ok edit) :
    edit.grid.IsFinite := by
  obtain ⟨result, hperform, rfl⟩ := Intent.execute_eq_ok.1 h
  rw [normalized_of_wellFormed (changesTo_perform hg hperform).wellFormed]
  cases intent with
  | setCell target expression => exact isFinite_setCell hg hfinite hperform
  | adjustColumn action column amount => exact isFinite_adjustColumn hg hfinite hperform
  | addColumn target left right subtract => exact isFinite_addColumn hg hfinite hperform
  | fillColumn column expression => exact isFinite_fillColumn hg hfinite hperform
  | renameColumn column title => exact isFinite_renameColumn hg hfinite hperform
  | clearColumn column => exact isFinite_clearColumn hg hfinite hperform

end Edits

/-- Nothing that is calculated on the grid is out of range. -/
structure Grid.InRange (g : Grid) : Prop where
  /-- A literal, the copy of a cell and the value of a formula are finite. -/
  value : ∀ text row v, (evaluateText text row g).1 = .ok v → v.IsFinite
  /-- The amount of an adjustment is finite. -/
  amount : ∀ text row x, (numericValue text row g).1 = .ok x → x.isFinite
  /-- A formula whose result overflows gives an empty cell. -/
  formula : ∀ text e row z, Expression.ofText text = .ok e → e.result? row g = some z →
    Overflows z → (evaluateText text row g).1 = .ok .empty
  /-- An adjustment leaves the cells whose new value overflows. -/
  adjustment : ∀ action column amount edit,
    (Intent.adjustColumn action column amount).execute g = .ok edit →
      ∃ factor, (numericValue amount 1 g).1 = .ok factor ∧ factor.isFinite ∧
        ∀ row x, (g.get row column).toNumber? = some x → Overflows (action.apply x factor) →
          edit.grid.get row column = g.get row column
  /-- A computed column is empty where the sum or the difference overflows. -/
  addition : ∀ target left right subtract edit,
    (Intent.addColumn target left right subtract).execute g = .ok edit →
      ∀ row x y, 1 ≤ row → row < g.rowCount → (g.get row left).toNumber? = some x →
        (g.get row right).toNumber? = some y → Overflows (if subtract then x - y else x + y) →
          edit.grid.get row target = .empty

/-- On a finite grid all calculations stay in range. -/
theorem inRange_of_isFinite {g : Grid} (hg : g.WellFormed) (hfinite : g.IsFinite) : g.InRange where
  value text row v h := isFinite_of_evaluateText hg hfinite h
  amount text row x h := by
    obtain ⟨v, -, hx⟩ := numericValue_eq_ok.1 h
    exact Cell.isFinite_of_toNumber? hx
  formula text e row z he hz hover := by
    rw [evaluateText_of_ok he, e.evaluate_fst hg, Expression.outcome_of_result? hz,
      computedCell_of_overflows hover]
  adjustment action column amount edit h := by
    obtain ⟨result, hperform, rfl⟩ := Intent.execute_eq_ok.1 h
    obtain ⟨factor, hfactor, hget⟩ := get_adjustColumn hg hperform
    obtain ⟨v, -, hx⟩ := numericValue_eq_ok.1 hfactor
    refine ⟨factor, hfactor, Cell.isFinite_of_toNumber? hx, fun row x hx hover => ?_⟩
    rw [normalized_of_wellFormed (changesTo_perform hg hperform).wellFormed, hget,
      adjusted_of_overflows hx hover, ite_self]
  addition target left right subtract edit h row x y h1 h2 hx hy hover := by
    obtain ⟨result, hperform, rfl⟩ := Intent.execute_eq_ok.1 h
    have hcomputed := computedUpTo_addColumn hg hperform
    rw [normalized_of_wellFormed hcomputed.wellFormed, hcomputed.computed row h1 h2,
      combined_eq_arithmetic, hx, hy]
    cases subtract with
    | false => exact computedCell_of_overflows hover
    | true => exact computedCell_of_overflows hover

end GridTalk
