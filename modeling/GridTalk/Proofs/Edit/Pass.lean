import GridTalk.Edit
import GridTalk.Proofs.Expression.Evaluation
import GridTalk.Proofs.Failure

/-!
# A pass over a column

Filling walks down a column and looks at the number of rows again before each step, because an
evaluation can have added rows.  The walk is told here as it goes, without any bound on its steps.

* `FillPass`: the walk from a row on, with the rows that it visits and what it comes to.
* `FillPass.unique`: there is no more than one walk.
* `exists_fillPass`, `exists_fillPass_data`: there is one, because no evaluation makes the grid
  longer than the bound; and the steps that `fillFrom` is given suffice for it.
* `FillPass.invariant`: what each step keeps, the whole walk keeps.
* `fillColumn_of_pass`, `fillColumn_eq_ok`: filling a column is one walk.
-/

namespace GridTalk

open Grid

/-- From a row on, a pass over a column visits these rows one after the other, and this is what it
comes to.  It fails in the row whose step fails, and it ends behind the last row of the grid as this
has become. -/
inductive FillPass (e : Expression) (column : Nat) :
    Nat → Grid → List Nat → Except SheetError Grid → Prop
  | ended {row : Nat} {g : Grid} (hend : g.rowCount ≤ row) : FillPass e column row g [] (.ok g)
  | failed {row : Nat} {g : Grid} {err : SheetError} (hlt : row < g.rowCount)
      (hstep : fillRow e column row g = .error err) : FillPass e column row g [row] (.error err)
  | next {row : Nat} {g g' : Grid} {visited : List Nat} {outcome : Except SheetError Grid}
      (hlt : row < g.rowCount) (hstep : fillRow e column row g = .ok g')
      (hrest : FillPass e column (row + 1) g' visited outcome) :
      FillPass e column row g (row :: visited) outcome

variable {e : Expression} {column row : Nat} {g g' : Grid}

/-- A row is passed over, or evaluated and written. -/
theorem fillRow_cases (h : fillRow e column row g = .ok g') :
    ((g.get row column).isBlank = false ∧ g = g') ∨
    ((g.get row column).isBlank = true ∧ ∃ v g₁, e.evaluate row g = (.ok v, g₁) ∧
      g₁.set row column v = .ok g') := by
  unfold fillRow at h
  split at h
  · next hb =>
    split at h
    · cases h
    · next v g₁ hv => exact .inr ⟨hb, v, g₁, hv, h⟩
  · next hb => exact .inl ⟨by simpa using hb, by simpa using h⟩

/-- One step touches no cell but its own. -/
theorem changesTo_fillRow (hg : g.WellFormed) (h : fillRow e column row g = .ok g') :
    ChangesTo (fun r c => r = row ∧ c = column) g g' := by
  rcases fillRow_cases h with ⟨-, rfl⟩ | ⟨-, v, g₁, hv, hset⟩
  · exact .refl hg
  · have hpad := e.padsTo_evaluate hg row
    rw [hv] at hpad
    exact hpad.changesTo (changesTo_set hpad.wellFormed hset)

namespace FillPass

variable {visited visited' : List Nat} {outcome outcome' : Except SheetError Grid}

theorem unique (h : FillPass e column row g visited outcome)
    (h' : FillPass e column row g visited' outcome') : visited' = visited ∧ outcome' = outcome := by
  induction h generalizing visited' outcome' with
  | ended hend =>
    cases h' with
    | ended => exact ⟨rfl, rfl⟩
    | failed hlt | next hlt => omega
  | failed hlt hstep =>
    cases h' with
    | ended hend => omega
    | failed _ hstep' =>
      rw [hstep] at hstep'
      exact ⟨rfl, hstep'.symm⟩
    | next _ hstep' =>
      rw [hstep] at hstep'
      cases hstep'
  | next hlt hstep hrest ih =>
    cases h' with
    | ended hend => omega
    | failed _ hstep' =>
      rw [hstep] at hstep'
      cases hstep'
    | next _ hstep' hrest' =>
      rw [hstep, Except.ok.injEq] at hstep'
      subst hstep'
      obtain ⟨rfl, rfl⟩ := ih hrest'
      exact ⟨rfl, rfl⟩

/-- What every step keeps, the pass keeps, until it has reached the end of the grid. -/
theorem invariant {P : Nat → Grid → Prop}
    (hstep : ∀ row g g', row < g.rowCount → P row g → fillRow e column row g = .ok g' →
      P (row + 1) g')
    (hstart : P row g) (h : FillPass e column row g visited (.ok g')) :
    ∃ last, g'.rowCount ≤ last ∧ P last g' := by
  generalize hout : Except.ok g' = outcome at h
  induction h with
  | ended hend =>
    cases hout
    exact ⟨_, hend, hstart⟩
  | failed => cases hout
  | next hlt hnext hrest ih => exact ih (hstep _ _ _ hlt hstart hnext) hout

/-- A pass that changes nothing in any row changes nothing. -/
theorem of_fixed (n : Nat) (hn : g.rowCount ≤ row + n)
    (hfixed : ∀ r, row ≤ r → r < g.rowCount → fillRow e column r g = .ok g) :
    ∃ visited, FillPass e column row g visited (.ok g) := by
  induction n generalizing row with
  | zero => exact ⟨_, .ended hn⟩
  | succ n ih =>
    by_cases hlt : row < g.rowCount
    · obtain ⟨visited, hrest⟩ : ∃ visited, FillPass e column (row + 1) g visited (.ok g) :=
        ih (by omega) fun r hr => hfixed r (by omega)
      exact ⟨_, .next hlt (hfixed row (Nat.le_refl row) hlt) hrest⟩
    · exact ⟨_, .ended (Nat.not_lt.1 hlt)⟩

end FillPass

/-- **There is a pass from every row of every grid**, and with enough steps `fillFrom` comes to the
same.  In each step the grid can grow, but not beyond the bound that it has not exceeded already. -/
theorem exists_fillPass (e : Expression) (column row : Nat) {fuel : Nat} (hg : g.WellFormed)
    (hfuel : max g.rowCount maxRows ≤ fuel + row) :
    ∃ visited, FillPass e column row g visited (fillFrom e column fuel row g) := by
  induction fuel generalizing row g with
  | zero => exact ⟨_, .ended (by omega)⟩
  | succ fuel ih =>
    rw [fillFrom]
    split
    · next hlt =>
      cases hstep : fillRow e column row g with
      | error err => exact ⟨_, .failed hlt hstep⟩
      | ok g₁ =>
        have hgrown := changesTo_fillRow hg hstep
        have hmax := hgrown.rowCount_le_max
        obtain ⟨visited, hrest⟩ := ih (row + 1) hgrown.wellFormed (by omega)
        exact ⟨_, .next hlt hstep hrest⟩
    · next hend => exact ⟨_, .ended (Nat.not_lt.1 hend)⟩

/-- The bound that filling sets to its steps is high enough for the pass over the data. -/
theorem exists_fillPass_data (e : Expression) (column : Nat) (hg : g.WellFormed) :
    ∃ visited, FillPass e column 1 g visited (fillFrom e column (max g.rowCount maxRows) 1 g) :=
  exists_fillPass e column 1 hg (Nat.le_succ _)

variable {expression : String}

/-- Filling a column comes to what the pass over the widened grid comes to. -/
theorem fillColumn_of_pass {g₁ : Grid} {visited : List Nat} {outcome : Except SheetError Grid}
    (hg : g.WellFormed) (hwide : g.ensureCols (column + 1) = .ok g₁)
    (he : Expression.ofText expression = .ok e) (h : FillPass e column 1 g₁ visited outcome) :
    fillColumn g column expression
      = outcome.map (·, "Filled empty cells in column " ++ Column.label column) := by
  have hg₁ := (padsTo_ensureCols hg hwide).wellFormed
  obtain ⟨_, hpass⟩ := exists_fillPass_data e column hg₁
  obtain ⟨-, hrun⟩ := h.unique hpass
  rw [fillColumn, hwide, he, ← hrun]
  dsimp only [bind, Except.bind]
  rw [hrun]
  cases outcome <;> rfl

/-- What filling a column is made of. -/
theorem fillColumn_eq_ok {result : Grid × String} (hg : g.WellFormed) :
    fillColumn g column expression = .ok result ↔
      ∃ g₁ e visited g₂, g.ensureCols (column + 1) = .ok g₁ ∧
        Expression.ofText expression = .ok e ∧ FillPass e column 1 g₁ visited (.ok g₂) ∧
        (g₂, "Filled empty cells in column " ++ Column.label column) = result := by
  constructor
  · intro h
    obtain ⟨g₁, hwide, h⟩ := bind_eq_ok.1 h
    obtain ⟨e, he, h⟩ := bind_eq_ok.1 h
    obtain ⟨g₂, hrun, h⟩ := bind_eq_ok.1 h
    have hg₁ := (padsTo_ensureCols hg hwide).wellFormed
    obtain ⟨visited, hpass⟩ := exists_fillPass_data e column hg₁
    rw [hrun] at hpass
    exact ⟨g₁, e, visited, g₂, hwide, he, hpass, pure_eq_ok.1 h⟩
  · rintro ⟨g₁, e, visited, g₂, hwide, he, hpass, rfl⟩
    exact fillColumn_of_pass hg hwide he hpass

end GridTalk
