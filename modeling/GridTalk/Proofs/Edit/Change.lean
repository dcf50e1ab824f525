import GridTalk.Edit
import GridTalk.Proofs.Expression.Evaluation
import GridTalk.Proofs.Failure

/-!
# What each edit may touch

For each edit except filling, the positions that it may write.  Growth, whether it is asked for or
comes from the addresses of an expression, touches none.

* `changesTo_setCell`, `changesTo_adjustColumn`, `changesTo_addColumn`, `changesTo_renameColumn`,
  `changesTo_clearColumn`: what differs after a successful edit.
* `setCell_eq_ok`, `adjustColumn_eq_ok`, `addColumn_eq_ok`, `renameColumn_eq_ok`,
  `clearColumn_eq_ok`: the steps of each edit.
* `adjusted_of_isFinite`, `adjusted_eq_self`: what an adjustment makes of one cell.
* `get_adjustColumn`: the column after an adjustment.
* `Intent.execute_eq_ok`: an intent is carried out, and the grid that is left is padded.
-/

namespace GridTalk

open Grid

variable {g : Grid} {result : Grid × String}

/-- An edit pads the grid that its routine leaves, and says what kind of edit it was. -/
theorem Intent.execute_eq_ok {intent : Intent} {edit : Edit} :
    intent.execute g = .ok edit ↔
      ∃ result, intent.perform g = .ok result ∧
        (⟨result.1.normalized, result.2, intent.kind⟩ : Edit) = edit := by
  simp only [execute, bind_eq_ok, pure_eq_ok]

/-- What a write to a cell is made of. -/
theorem setCell_eq_ok {target : Coord} {expression : String} :
    setCell g target expression = .ok result ↔
      ∃ g₁ v g₂ g₃, g.ensureRows (target.row + 1) g.colCount = .ok g₁ ∧
        evaluateText expression target.row g₁ = (.ok v, g₂) ∧
        g₂.set target.row target.col v = .ok g₃ ∧
        (g₃, "Set " ++ target.a1 ++ " to " ++ v.asText) = result := by
  constructor
  · intro h
    obtain ⟨g₁, hgrown, h⟩ := bind_eq_ok.1 h
    rcases hv : evaluateText expression target.row g₁ with ⟨err | v, g₂⟩
    · rw [hv] at h
      cases h
    · rw [hv] at h
      obtain ⟨g₃, hset, h⟩ := bind_eq_ok.1 h
      exact ⟨g₁, v, g₂, g₃, hgrown, hv, hset, pure_eq_ok.1 h⟩
  · rintro ⟨g₁, v, g₂, g₃, hgrown, hv, hset, rfl⟩
    refine bind_eq_ok.2 ⟨g₁, hgrown, ?_⟩
    rw [hv]
    exact bind_eq_ok.2 ⟨g₃, hset, rfl⟩

theorem changesTo_setCell {target : Coord} {expression : String} (hg : g.WellFormed)
    (h : setCell g target expression = .ok result) :
    ChangesTo (fun r c => r = target.row ∧ c = target.col) g result.1 := by
  obtain ⟨g₁, v, g₂, g₃, hgrown, hv, hset, rfl⟩ := setCell_eq_ok.1 h
  have hpad := padsTo_ensureRows hg hgrown
  have heval := padsTo_evaluateText hpad.wellFormed expression target.row
  rw [hv] at heval
  exact hpad.changesTo (heval.changesTo (changesTo_set heval.wellFormed hset))

/-- What an adjustment is made of. -/
theorem adjustColumn_eq_ok {action : Adjustment} {column : Nat} {amount : String} :
    adjustColumn g action column amount = .ok result ↔
      ∃ g₁ factor g₂, g.ensureCols (column + 1) = .ok g₁ ∧
        numericValue amount 1 g₁ = (.ok factor, g₂) ∧ ¬(action = .divide ∧ factor == 0.0) ∧
        (g₂.mapData column (adjusted action factor),
          String.ofList (Text.capitalizeFirst action.word.toList) ++ " column "
            ++ Column.label column ++ " by " ++ (Cell.number factor).asText) = result := by
  constructor
  · intro h
    obtain ⟨g₁, hwide, h⟩ := bind_eq_ok.1 h
    rcases hv : numericValue amount 1 g₁ with ⟨err | factor, g₂⟩
    · rw [hv] at h
      cases h
    · rw [hv] at h
      dsimp only at h
      split at h
      · cases h
      · next hne => exact ⟨g₁, factor, g₂, hwide, hv, hne, pure_eq_ok.1 h⟩
  · rintro ⟨g₁, factor, g₂, hwide, hv, hne, rfl⟩
    refine bind_eq_ok.2 ⟨g₁, hwide, ?_⟩
    rw [hv]
    dsimp only
    rw [if_neg hne]
    rfl

section Adjusted

variable {action : Adjustment} {factor x : Float} {v : Cell}

/-- An adjustment leaves every other cell. -/
theorem adjusted_eq_self
    (h : ∀ x, v.toNumber? = some x → (roundNumber (action.apply x factor)).isFinite = false) :
    adjusted action factor v = v := by
  unfold adjusted
  split
  · rfl
  · next x hx =>
    dsimp only
    rw [h x hx]
    rfl

theorem toNumber?_isSome_of_adjusted_ne (h : adjusted action factor v ≠ v) :
    v.toNumber?.isSome := by
  cases hv : v.toNumber? with
  | none => exact absurd (adjusted_eq_self (by simp [hv])) h
  | some x => rfl

end Adjusted

/-- An adjustment changes the column of a padded grid, by an amount which the grid had before. -/
theorem exists_mapData_of_adjustColumn {action : Adjustment} {column : Nat} {amount : String}
    (hg : g.WellFormed) (h : adjustColumn g action column amount = .ok result) :
    ∃ factor g', (numericValue amount 1 g).1 = .ok factor ∧ g.PadsTo g' ∧
      g'.mapData column (adjusted action factor) = result.1 := by
  obtain ⟨g₁, factor, g₂, hwide, hv, -, rfl⟩ := adjustColumn_eq_ok.1 h
  have hpad := padsTo_ensureCols hg hwide
  have heval := padsTo_numericValue hpad.wellFormed amount 1
  have hbefore := numericValue_of_padsTo hg hpad amount 1
  rw [hv] at heval hbefore
  exact ⟨factor, g₂, hbefore.symm, hpad.trans heval, rfl⟩

theorem changesTo_adjustColumn {action : Adjustment} {column : Nat} {amount : String}
    (hg : g.WellFormed) (h : adjustColumn g action column amount = .ok result) :
    ChangesTo (fun r c => 1 ≤ r ∧ c = column ∧ (g.get r c).toNumber?.isSome) g result.1 := by
  obtain ⟨factor, g', -, hpad, hmap⟩ := exists_mapData_of_adjustColumn hg h
  rw [← hmap]
  refine hpad.changesTo ((changesTo_mapData hpad.wellFormed column _).mono ?_)
  rintro r c ⟨h1, hc, hne⟩
  rw [hpad.get] at hne
  exact ⟨h1, hc, toNumber?_isSome_of_adjusted_ne hne⟩

/-- An adjustment changes each cell of the data by the same factor. -/
theorem get_adjustColumn {action : Adjustment} {column : Nat} {amount : String}
    (hg : g.WellFormed) (h : adjustColumn g action column amount = .ok result) :
    ∃ factor, (numericValue amount 1 g).1 = .ok factor ∧ ∀ r c, result.1.get r c
      = if 1 ≤ r ∧ c = column then adjusted action factor (g.get r c) else g.get r c := by
  obtain ⟨factor, g', hfactor, hpad, hmap⟩ := exists_mapData_of_adjustColumn hg h
  refine ⟨factor, hfactor, fun r c => ?_⟩
  rw [← hmap, get_mapData_of_empty hpad.wellFormed column rfl, hpad.get]

/-- What a computed column is made of. -/
theorem addColumn_eq_ok {target left right : Nat} {subtract : Bool} :
    addColumn g target left right subtract = .ok result ↔
      ∃ g₁, g.ensureCols (max (max target left) right + 1) = .ok g₁ ∧
        ∃ g₂, g₁.set 0 target (.text (Column.label left ++ (if subtract then "-" else "+")
          ++ Column.label right)) = .ok g₂ ∧
        ∃ g₃, g₂.dataRows.foldlM
          (fun g row => g.set row target (combined g row left right subtract)) g₂ = .ok g₃ ∧
        (g₃, "Computed column " ++ Column.label target ++ " from " ++ Column.label left ++ " "
          ++ (if subtract then "-" else "+") ++ " " ++ Column.label right) = result := by
  simp only [addColumn, bind_eq_ok, pure_eq_ok]

/-- What a new title is made of. -/
theorem renameColumn_eq_ok {column : Nat} {title : String} :
    renameColumn g column title = .ok result ↔
      ∃ g₁, g.ensureCols (column + 1) = .ok g₁ ∧
        ∃ g₂, g₁.set 0 column
          (.text (String.ofList (Text.capitalizeWords (Text.trim title.toList)))) = .ok g₂ ∧
        (g₂, "Renamed column " ++ Column.label column ++ " to "
          ++ String.ofList (Text.capitalizeWords (Text.trim title.toList))) = result := by
  simp only [renameColumn, bind_eq_ok, pure_eq_ok]

/-- What a clearing is made of. -/
theorem clearColumn_eq_ok {column : Nat} :
    clearColumn g column = .ok result ↔
      ∃ g₁, g.ensureCols (column + 1) = .ok g₁ ∧
        (g₁.mapData column fun _ => .empty, "Cleared column " ++ Column.label column) = result := by
  simp only [clearColumn, bind_eq_ok, pure_eq_ok]

theorem changesTo_addColumn {target left right : Nat} {subtract : Bool} (hg : g.WellFormed)
    (h : addColumn g target left right subtract = .ok result) :
    ChangesTo (fun r c => r < g.rowCount ∧ c = target) g result.1 := by
  obtain ⟨g₁, hwide, g₂, htitle, g₃, hrun, rfl⟩ := addColumn_eq_ok.1 h
  have hpad := padsTo_ensureCols hg hwide
  have hset : ∀ row v g₁ g₂, row < g.rowCount → g₁.WellFormed → g₁.set row target v = .ok g₂ →
      ChangesTo (fun r c => r < g.rowCount ∧ c = target) g₁ g₂ :=
    fun row v g₁ g₂ hrow hg₁ h => (changesTo_set hg₁ h).mono fun r c hw => ⟨hw.1 ▸ hrow, hw.2⟩
  have hfirst := hset _ _ _ _ hg.hasShape.pos hpad.wellFormed htitle
  obtain ⟨-, hshape, -⟩ := set_title_spec hg hwide (by omega) htitle
  refine hpad.changesTo (foldlM_invariant (fun row hrow g₁ g₂ h₁ h => ?_) hfirst hrun)
  have hlt : row < g.rowCount := by
    rw [dataRows, hshape.rowCount_eq] at hrow
    have hmem := List.mem_range'_1.1 hrow
    omega
  exact h₁.trans (hset row _ g₁ g₂ hlt h₁.wellFormed h)

theorem changesTo_renameColumn {column : Nat} {title : String} (hg : g.WellFormed)
    (h : renameColumn g column title = .ok result) :
    ChangesTo (fun r c => r = 0 ∧ c = column) g result.1 := by
  obtain ⟨g₁, hwide, g₂, hset, rfl⟩ := renameColumn_eq_ok.1 h
  have hpad := padsTo_ensureCols hg hwide
  exact hpad.changesTo (changesTo_set hpad.wellFormed hset)

theorem changesTo_clearColumn {column : Nat} (hg : g.WellFormed)
    (h : clearColumn g column = .ok result) :
    ChangesTo (fun r c => 1 ≤ r ∧ r < g.rowCount ∧ c = column) g result.1 := by
  obtain ⟨g₁, hwide, rfl⟩ := clearColumn_eq_ok.1 h
  have hpad := padsTo_ensureCols hg hwide
  refine hpad.changesTo ((changesTo_mapData hpad.wellFormed column _).mono ?_)
  rintro r c ⟨h1, hc, hne⟩
  refine ⟨h1, Nat.lt_of_not_le fun hle => hne ?_, hc⟩
  rw [hpad.get, get_of_le (.inl hle)]

end GridTalk
