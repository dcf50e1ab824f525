import GridTalk.Expression.Value
import GridTalk.Proofs.Grid.Change

/-!
# Evaluation and growth

Evaluating an expression makes the grid grow to the addresses it names, and a second address is
resolved on a grid that has already grown to the first.  None of this can be told from the value:

* `Expression.outcome`: the value or the error, read off the grid as it is.
* `Expression.padsTo_evaluate`: the grid left behind is padded with empty cells, whether or not
  evaluation succeeds.
* `Expression.evaluate_fst`: the value or the error is the one read off the grid as it was.
* `Expression.outcome_of_padsTo`, `evaluateText_of_padsTo`: nor is it another one if the grid has
  grown before.
* `numericValue_fst`, `numericValue_eq_ok`: the number that is read off the value.
-/

namespace GridTalk

/-- The position of an address, unless a grid with this many columns cannot grow to it. -/
def Reference.locate (r : Reference) (width : Nat) : Except SheetError Coord :=
  match Coord.ofParts r.letters r.digits with
  | .error e => .error e
  | .ok p =>
    if p.row + 1 > Grid.maxRows then .error (.row (toString (p.row + 1)))
    else if max width (p.col + 1) > Grid.maxCols then
      .error (.column (Column.label (max width (p.col + 1) - 1)))
    else .ok p

namespace Reference

/-- An address is located within the bounds, and nowhere else. -/
theorem locate_eq_ok {r : Reference} {width : Nat} {p : Coord} :
    r.locate width = .ok p ↔
      Coord.ofParts r.letters r.digits = .ok p ∧ p.row + 1 ≤ Grid.maxRows ∧
        max width (p.col + 1) ≤ Grid.maxCols := by
  unfold locate
  cases Coord.ofParts r.letters r.digits with
  | error e => simp
  | ok q =>
    simp only [Except.ok.injEq]
    split_ifs with h1 h2
    · simp only [false_iff]
      rintro ⟨rfl, hr, -⟩
      omega
    · simp only [false_iff]
      rintro ⟨rfl, -, hc⟩
      omega
    · rw [Except.ok.injEq]
      exact ⟨fun h => ⟨h, by rw [← h]; omega, by rw [← h]; omega⟩, fun h => h.1⟩

/-- Growth in width within the bound makes no difference to an address, not even to its error. -/
theorem locate_max {r : Reference} {width n : Nat} (hn : n ≤ Grid.maxCols) :
    r.locate (max width n) = r.locate width := by
  unfold locate
  cases Coord.ofParts r.letters r.digits with
  | error e => rfl
  | ok q =>
    by_cases hq : max width (q.col + 1) ≤ Grid.maxCols
    · have h1 : ¬ max (max width n) (q.col + 1) > Grid.maxCols := by omega
      have h2 : ¬ max width (q.col + 1) > Grid.maxCols := by omega
      simp only [h1, h2, if_false]
    · have h1 : max (max width n) (q.col + 1) = max width (q.col + 1) := by omega
      simp only [h1]

/-- A grid that grows never grows beyond the bound, so that growth makes no difference to an
address. -/
theorem locate_of_growsTo {g g' : Grid} (h : g.GrowsTo g') (r : Reference) :
    r.locate g'.colCount = r.locate g.colCount := by
  have hle := h.colCount_le
  have hmax := h.colCount_le_max
  by_cases hwide : g'.colCount ≤ Grid.maxCols
  · have hsame : r.locate (max g.colCount g'.colCount) = r.locate g.colCount := locate_max hwide
    rwa [Nat.max_eq_right hle] at hsame
  · have hsame : g'.colCount = g.colCount := by omega
    rw [hsame]

/-- An address is either refused, and the grid stays, or located, and the grid grows to it. -/
theorem resolve_cases {g : Grid} (hg : g.WellFormed) (r : Reference) :
    (∃ e, r.locate g.colCount = .error e ∧ r.resolve g = (.error e, g)) ∨
    (∃ p g', r.locate g.colCount = .ok p ∧ r.resolve g = (.ok p, g') ∧ g.PadsTo g' ∧
      g'.rowCount = max g.rowCount (p.row + 1) ∧ g'.colCount = max g.colCount (p.col + 1)) := by
  cases hp : Coord.ofParts r.letters r.digits with
  | error e => exact .inl ⟨e, by simp [locate, hp], by simp [resolve, hp]⟩
  | ok p =>
    cases hg' : g.ensureRows (p.row + 1) (max g.colCount (p.col + 1)) with
    | error e =>
      refine .inl ⟨e, ?_, by simp [resolve, hp, hg']⟩
      unfold Grid.ensureRows at hg'
      simp only [locate, hp]
      split_ifs at hg' ⊢ <;> simp_all
    | ok g' =>
      obtain ⟨hr, hc, -⟩ := Grid.ensureRows_eq_ok.1 hg'
      have hs := hg.hasShape.ensureRows hg'
      refine .inr ⟨p, g', locate_eq_ok.2 ⟨hp, hr, hc⟩, by simp [resolve, hp, hg'],
        Grid.padsTo_ensureRows hg hg', hs.rowCount_eq, ?_⟩
      rw [hs.colCount_eq, ← Nat.max_assoc, Nat.max_self]

end Reference

theorem columnNumber?_congr {g g' : Grid} {row : Nat}
    (h : ∀ c, (g'.get row c).toNumber? = (g.get row c).toNumber?) (label : String) :
    columnNumber? label row g' = columnNumber? label row g := by
  unfold columnNumber?
  cases Column.ofLabel label with
  | error e => rfl
  | ok col => exact h col

namespace Expression

/-- The value of an expression in a row, or the error, read off the grid without any growth. -/
def outcome (e : Expression) (row : Nat) (g : Grid) : Except SheetError Cell :=
  match e with
  | quoted text => .ok (.text text)
  | blank => .ok .empty
  | cell source => (source.locate g.colCount).map g.getAt
  | number x => .ok (.number x)
  | columns left op right =>
    .ok (arithmetic (columnNumber? left row g) op (columnNumber? right row g))
  | cells left op right => do
    let p ← left.locate g.colCount
    let q ← right.locate g.colCount
    return arithmetic (g.getAt p).toNumber? op (g.getAt q).toNumber?
  | cellNumber left op y =>
    (left.locate g.colCount).map fun p => arithmetic (g.getAt p).toNumber? op (some y)
  | label text => .ok (.text (String.ofList (Text.capitalizeWords text.toList)))

/-- Evaluation pads the grid and gives the outcome on the grid as it was. -/
theorem evaluate_spec {g : Grid} (hg : g.WellFormed) (e : Expression) (row : Nat) :
    (e.evaluate row g).1 = e.outcome row g ∧ g.PadsTo (e.evaluate row g).2 := by
  have stays : g.PadsTo g := .refl hg
  cases e with
  | quoted text => exact ⟨rfl, stays⟩
  | blank => exact ⟨rfl, stays⟩
  | number x => exact ⟨rfl, stays⟩
  | columns left op right => exact ⟨rfl, stays⟩
  | label text => exact ⟨rfl, stays⟩
  | cell source =>
    rcases source.resolve_cases hg with ⟨err, hl, hr⟩ | ⟨p, g', hl, hr, hpad, -⟩
    · simp [evaluate, outcome, hl, hr, Except.map, stays]
    · simp [evaluate, outcome, hl, hr, Except.map, hpad, Grid.getAt, hpad.get]
  | cellNumber left op y =>
    rcases left.resolve_cases hg with ⟨err, hl, hr⟩ | ⟨p, g', hl, hr, hpad, -⟩
    · simp [evaluate, outcome, hl, hr, Except.map, stays]
    · simp [evaluate, outcome, hl, hr, Except.map, hpad, Grid.getAt, hpad.get]
  | cells left op right =>
    rcases left.resolve_cases hg with ⟨err, hl, hr⟩ | ⟨p, g₁, hl, hr, hpad, -⟩
    · simp [evaluate, outcome, hl, hr, bind, Except.bind, stays]
    · -- the right address is resolved on the grid that has grown to the left one
      have hloc : right.locate g₁.colCount = right.locate g.colCount :=
        right.locate_of_growsTo hpad.toGrowsTo
      rcases right.resolve_cases hpad.wellFormed with ⟨err, hl', hr'⟩ | ⟨q, g₂, hl', hr', hpad', -⟩
      · rw [hloc] at hl'
        simp [evaluate, outcome, hl, hr, hl', hr', bind, Except.bind, hpad]
      · rw [hloc] at hl'
        have hpad₂ : g.PadsTo g₂ := hpad.trans hpad'
        simp [evaluate, outcome, hl, hr, hl', hr', bind, Except.bind, pure, Except.pure, hpad₂,
          Grid.getAt, hpad₂.get]

theorem evaluate_fst {g : Grid} (hg : g.WellFormed) (e : Expression) (row : Nat) :
    (e.evaluate row g).1 = e.outcome row g :=
  (evaluate_spec hg e row).1

theorem padsTo_evaluate {g : Grid} (hg : g.WellFormed) (e : Expression) (row : Nat) :
    g.PadsTo (e.evaluate row g).2 :=
  (evaluate_spec hg e row).2

end Expression

/-- Growth makes no difference to the outcome. -/
theorem Expression.outcome_of_padsTo {g g' : Grid} (hpad : g.PadsTo g') (e : Expression)
    (row : Nat) : e.outcome row g' = e.outcome row g := by
  have hget : g'.getAt = g.getAt := funext fun p => hpad.get p.row p.col
  have hlocate := Reference.locate_of_growsTo hpad.toGrowsTo
  cases e with
  | quoted | blank | number | label => rfl
  | columns left op right =>
    have hrow : ∀ c, (g'.get row c).toNumber? = (g.get row c).toNumber? := fun c => by
      rw [hpad.get]
    rw [outcome, columnNumber?_congr hrow, columnNumber?_congr hrow, outcome]
  | cell | cellNumber | cells => simp only [outcome, hlocate, hget]

theorem evaluateText_of_ok {text : String} {e : Expression} (h : Expression.ofText text = .ok e)
    (row : Nat) (g : Grid) : evaluateText text row g = e.evaluate row g := by
  rw [evaluateText, h]

theorem evaluateText_of_error {text : String} {err : SheetError}
    (h : Expression.ofText text = .error err) (row : Nat) (g : Grid) :
    evaluateText text row g = (.error err, g) := by
  rw [evaluateText, h]

/-- The text of an expression pads the grid as the expression does, or leaves it alone. -/
theorem padsTo_evaluateText {g : Grid} (hg : g.WellFormed) (text : String) (row : Nat) :
    g.PadsTo (evaluateText text row g).2 := by
  cases h : Expression.ofText text with
  | error e =>
    rw [evaluateText_of_error h]
    exact .refl hg
  | ok e =>
    rw [evaluateText_of_ok h]
    exact e.padsTo_evaluate hg row

/-- What a text stands for on a grid that has grown, it stands for on the grid as it was. -/
theorem evaluateText_of_padsTo {g g' : Grid} (hg : g.WellFormed) (hpad : g.PadsTo g')
    (text : String) (row : Nat) : (evaluateText text row g').1 = (evaluateText text row g).1 := by
  cases he : Expression.ofText text with
  | error err => rw [evaluateText_of_error he, evaluateText_of_error he]
  | ok e =>
    rw [evaluateText_of_ok he, evaluateText_of_ok he, e.evaluate_fst hpad.wellFormed,
      e.evaluate_fst hg, e.outcome_of_padsTo hpad]

/-- The number that a text stands for is that of its value. -/
theorem numericValue_fst (text : String) (row : Nat) (g : Grid) :
    (numericValue text row g).1 = (evaluateText text row g).1.bind fun v =>
      match v.toNumber? with
      | some x => .ok x
      | none => .error (.notNumeric (String.ofList (Text.trim text.toList))) := by
  unfold numericValue
  rcases evaluateText text row g with ⟨err | v, g'⟩
  · rfl
  · cases hx : v.toNumber? <;> simp [Except.bind, hx]

theorem numericValue_of_padsTo {g g' : Grid} (hg : g.WellFormed) (hpad : g.PadsTo g')
    (text : String) (row : Nat) : (numericValue text row g').1 = (numericValue text row g).1 := by
  rw [numericValue_fst, numericValue_fst, evaluateText_of_padsTo hg hpad]

/-- A number is asked for and there is one in the value. -/
theorem numericValue_eq_ok {text : String} {row : Nat} {g : Grid} {x : Float} :
    (numericValue text row g).1 = .ok x ↔
      ∃ v, (evaluateText text row g).1 = .ok v ∧ v.toNumber? = some x := by
  unfold numericValue
  rcases evaluateText text row g with ⟨err | v, g'⟩
  · simp
  · cases hx : v.toNumber? <;> simp [hx]

theorem padsTo_numericValue {g : Grid} (hg : g.WellFormed) (text : String) (row : Nat) :
    g.PadsTo (numericValue text row g).2 := by
  have hpad := padsTo_evaluateText hg text row
  unfold numericValue
  split
  · next h => rwa [h] at hpad
  · next h =>
    rw [h] at hpad
    split <;> exact hpad

end GridTalk
