import GridTalk.Proofs.Session.Growth
import GridTalk.Proofs.Word.Edit

/-!
# Instructions in machine words

An instruction from its text to the new grid, with all rows and columns counted in words of 64 bits.

* `ofSegments`, `ofInstruction`, `applyInstruction`: reading an instruction and carrying it out.
* `isCounted_of_ofInstruction`: the rows and columns that are read have a next one in a word.
* `applyInstruction_eq_lift`: the result is the one without the words.
* `applyInstruction_ofRows`, `applyInstruction_runAll`: no instruction leaves the words on a
  dataset, nor on what any instructions have made of it.
-/

namespace GridTalk.Word

open Grid

/-! ### Reading and carrying out -/

/-- The edit that the segments of a phrase ask for. -/
def ofSegments (kind : IntentKind) (segments : List (List Char)) : Checked Intent :=
  match kind, segments with
  | .setCell, [_, _, _, _, letters, digits, _, _, _, expression] => do
    let target ← ofParts (String.ofList letters) (String.ofList digits)
    return .setCell target (String.ofList expression)
  | .adjustColumn, [verb, _, _, _, letters, _, _, _, amount] =>
    match Adjustment.ofWord? (String.ofList verb) with
    | none => throw (.failed (.unrecognized (String.ofList segments.flatten)))
    | some action => do
      let column ← columnOf letters
      return .adjustColumn action column (String.ofList amount)
  | .addColumn, [_, _, _, _, target, _, _, _, _, _, _, _, left, _, _, _, right] => do
    let target ← columnOf target
    let left ← columnOf left
    let right ← columnOf right
    return .addColumn target left right (mentionsMinus segments.flatten)
  | .fillColumn, [_, _, _, _, _, _, _, _, letters, _, _, _, expression] => do
    let column ← columnOf letters
    return .fillColumn column (String.ofList expression)
  | .renameColumn, [_, _, _, _, letters, _, _, _, title] => do
    let column ← columnOf letters
    return .renameColumn column (String.ofList (Text.trim title))
  | .clearColumn, [_, _, _, _, letters] => do
    let column ← columnOf letters
    return .clearColumn column
  | _, _ => throw (.failed (.unrecognized (String.ofList segments.flatten)))

/-- The edit that an instruction asks for. -/
def ofInstruction (instruction : Instruction) : Checked Intent :=
  match IntentKind.all.findSome? (Intent.find? instruction) with
  | some (kind, finding) => ofSegments kind finding.segments
  | none => throw (.failed (.unrecognized instruction.typed))

/-- An instruction read and carried out. -/
def applyInstruction (g : Grid) (text : String) : Checked Edit := do
  let instruction ← lift (Instruction.ofText text)
  let intent ← ofInstruction instruction
  let (g, message) ← perform intent g
  return ⟨g.normalized, message, intent.kind⟩

/-! ### The words are never left -/

theorem columnOf_eq_lift (letters : List Char) :
    columnOf letters = lift (GridTalk.columnOf letters) :=
  ofLabel_eq_lift (String.ofList letters)

theorem ofSegments_eq_lift (kind : IntentKind) (segments : List (List Char)) :
    ofSegments kind segments = lift (Intent.ofSegments kind segments) := by
  unfold ofSegments
  split
  · rw [ofParts_eq_lift]
    exact lift_bind_congr fun _ _ => rfl
  · next verb _ _ _ letters _ _ _ amount =>
    dsimp only [Intent.ofSegments]
    cases Adjustment.ofWord? (String.ofList verb) with
    | none => rfl
    | some action =>
      dsimp only
      rw [columnOf_eq_lift]
      exact lift_bind_congr fun _ _ => rfl
  · rw [columnOf_eq_lift]
    refine lift_bind_congr fun _ _ => ?_
    rw [columnOf_eq_lift]
    refine lift_bind_congr fun _ _ => ?_
    rw [columnOf_eq_lift]
    exact lift_bind_congr fun _ _ => rfl
  · rw [columnOf_eq_lift]
    exact lift_bind_congr fun _ _ => rfl
  · rw [columnOf_eq_lift]
    exact lift_bind_congr fun _ _ => rfl
  · rw [columnOf_eq_lift]
    exact lift_bind_congr fun _ _ => rfl
  · -- no other kind of edit has segments like these
    rw [Intent.ofSegments]
    · rfl
    all_goals assumption

theorem isCounted_of_ofSegments {kind : IntentKind} {segments : List (List Char)} {intent : Intent}
    (h : Intent.ofSegments kind segments = .ok intent) : IsCounted intent := by
  have hcolumn : ∀ {letters col}, GridTalk.columnOf letters = .ok col → col < maxNumber :=
    Column.lt_of_ofLabel
  unfold Intent.ofSegments at h
  split at h
  · obtain ⟨target, htarget, h⟩ := bind_eq_ok.1 h
    obtain rfl := pure_eq_ok.1 h
    obtain ⟨hletters, hdigits⟩ := Coord.ofParts_eq_ok.1 htarget
    exact ⟨Row.lt_of_ofNumber hdigits, Column.lt_of_ofLabel hletters⟩
  · split at h
    · cases h
    · obtain ⟨column, hletters, h⟩ := bind_eq_ok.1 h
      obtain rfl := pure_eq_ok.1 h
      exact hcolumn hletters
  · obtain ⟨target, htarget, h⟩ := bind_eq_ok.1 h
    obtain ⟨left, hleft, h⟩ := bind_eq_ok.1 h
    obtain ⟨right, hright, h⟩ := bind_eq_ok.1 h
    obtain rfl := pure_eq_ok.1 h
    exact ⟨hcolumn htarget, hcolumn hleft, hcolumn hright⟩
  · obtain ⟨column, hletters, h⟩ := bind_eq_ok.1 h
    obtain rfl := pure_eq_ok.1 h
    exact hcolumn hletters
  · obtain ⟨column, hletters, h⟩ := bind_eq_ok.1 h
    obtain rfl := pure_eq_ok.1 h
    exact hcolumn hletters
  · obtain ⟨column, hletters, h⟩ := bind_eq_ok.1 h
    obtain rfl := pure_eq_ok.1 h
    exact hcolumn hletters
  · cases h

theorem ofInstruction_eq_lift (instruction : Instruction) :
    ofInstruction instruction = lift (Intent.ofInstruction instruction) := by
  rw [ofInstruction, Intent.ofInstruction]
  cases IntentKind.all.findSome? (Intent.find? instruction) with
  | none => rfl
  | some found => exact ofSegments_eq_lift found.1 found.2.segments

/-- The rows and columns that are read have a next one in a word. -/
theorem isCounted_of_ofInstruction {instruction : Instruction} {intent : Intent}
    (h : Intent.ofInstruction instruction = .ok intent) : IsCounted intent := by
  unfold Intent.ofInstruction at h
  split at h
  · exact isCounted_of_ofSegments h
  · cases h

/-- On a grid that fits the words no instruction leaves them. -/
theorem applyInstruction_eq_lift {g : Grid} (hg : Fits g) (text : String) :
    applyInstruction g text = lift (GridTalk.applyInstruction g text) := by
  rw [applyInstruction, GridTalk.applyInstruction, Intent.ofText, bind_assoc]
  refine lift_bind_congr fun instruction _ => ?_
  rw [ofInstruction_eq_lift]
  refine lift_bind_congr fun intent hread => ?_
  rw [perform_eq_lift hg (isCounted_of_ofInstruction hread)]
  exact lift_bind_congr fun _ _ => rfl

/-- **Carrying out an instruction never leaves the words.**  Whatever the text says, no next row or
column is too great for its word, nothing is subtracted from zero, and no write goes outside the
grid: the result in words is the one without them. -/
theorem applyInstruction_ofRows {rows : List (List Cell)}
    (hrows : (ofRows rows).rowCount < maxNumber) (hcols : (ofRows rows).colCount < maxNumber)
    (text : String) :
    applyInstruction (ofRows rows) text = lift (GridTalk.applyInstruction (ofRows rows) text) :=
  applyInstruction_eq_lift ⟨wellFormed_ofRows rows, hrows, hcols⟩ text

/-- The greatest row number that can be read is that of a row with a next one, which then is too far
down for any grid. -/
theorem applyInstruction_ofRows_last_row :
    let rows : List (List Cell) := [[.text "n"], [.number 1]]
    let text := "set cell b18446744073709551615 to a2"
    (ofRows rows).rowCount < maxNumber ∧ (ofRows rows).colCount < maxNumber ∧
      applyInstruction (ofRows rows) text
        = .error (.failed (.row "18446744073709551615")) := by
  intro rows text
  have hrows : (ofRows rows).rowCount < maxNumber := by decide
  have hcols : (ofRows rows).colCount < maxNumber := by decide
  have hresult : GridTalk.applyInstruction (ofRows rows) text
      = .error (.row "18446744073709551615") := by decide +kernel
  refine ⟨hrows, hcols, ?_⟩
  rw [applyInstruction_ofRows hrows hcols text, hresult]
  rfl

/-- The same in a session: whatever has been done to a dataset, the next instruction does not leave
the words. -/
theorem applyInstruction_runAll (session : Session) {rows : List (List Cell)}
    (sheetName fileName : String) (hrows : (ofRows rows).rowCount < maxNumber)
    (hcols : (ofRows rows).colCount < maxNumber) (texts : List String) :
    ∃ g, ((session.load rows sheetName fileName).runAll texts).grid = some g ∧
      ∀ text, applyInstruction g text = lift (GridTalk.applyInstruction g text) := by
  have hload : (session.load rows sheetName fileName).grid = some (ofRows rows) := rfl
  have hstep : ∀ g text edit, Fits g → GridTalk.applyInstruction g text = .ok edit →
      Fits edit.grid := fun g text edit hg h =>
    hg.of_growsTo (growsTo_applyInstruction hg.wellFormed h)
  obtain ⟨g, hgrid, hg⟩ :=
    Session.runAll_invariant hstep ⟨wellFormed_ofRows rows, hrows, hcols⟩ hload texts
  exact ⟨g, hgrid, fun text => applyInstruction_eq_lift hg text⟩

end GridTalk.Word
