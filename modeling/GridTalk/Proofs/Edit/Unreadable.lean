import GridTalk.Proofs.Edit.Change
import GridTalk.Proofs.Expression.Addresses

/-!
# Texts that cannot be read

Reading never fails but for a text that cannot be divided behind its keyword.  The edit that is to
write such a text into a cell fails with it, unless it is refused before.

* `setCell_eq_error`: why a write fails.
* `setCell_eq_splitCharacter_iff`: when it fails for what is to be written.
* `reads_unless_blankWithKelvin`: what becomes of the keywords, of the text and of the instruction.
-/

namespace GridTalk

open Expression Grid Text

variable {g : Grid} {target : Coord} {text : String}

/-- A write fails for the grid that it would need, for an address that cannot exist, or for a text
that cannot be read; to read the text it gets only within the bounds. -/
theorem setCell_eq_error (hg : g.WellFormed) {err : SheetError}
    (h : setCell g target text = .error err) :
    (∃ kind token, err = .invalidReference kind token) ∨
      (target.row < maxRows ∧ g.colCount ≤ maxCols ∧ ofText text = .error err) := by
  rcases bind_eq_error.1 h with hgrown | ⟨g₁, hgrown, h⟩
  · exact .inl (ensureRows_eq_error hgrown)
  · obtain ⟨hrow, hwidth, -⟩ := ensureRows_eq_ok.1 hgrown
    have hg₁ := (padsTo_ensureRows hg hgrown).wellFormed
    rcases hv : evaluateText text target.row g₁ with ⟨err' | v, g₂⟩
    · rw [hv] at h
      cases h
      exact (evaluateText_eq_error hg₁ (congrArg Prod.fst hv)).imp_right fun htext =>
        ⟨hrow, hwidth, htext⟩
    · rw [hv] at h
      rcases bind_eq_error.1 h with hset | ⟨g₃, -, h⟩
      · exact .inl (set_eq_error hset)
      · cases h

theorem setCell_eq_splitCharacter_iff (hg : g.WellFormed) :
    setCell g target text = .error .splitCharacter ↔
      target.row < maxRows ∧ g.colCount ≤ maxCols ∧ BlankWithKelvin (trim text.toList) := by
  constructor
  · intro h
    rcases setCell_eq_error hg h with ⟨kind, token, herr⟩ | ⟨hrow, hwidth, htext⟩
    · cases herr
    · exact ⟨hrow, hwidth, (ofText_eq_error_iff.1 htext).2⟩
  · rintro ⟨hrow, hwidth, hcut⟩
    have hgrown : g.ensureRows (target.row + 1) g.colCount = .ok _ :=
      ensureRows_eq_ok.2 ⟨hrow, hwidth, rfl⟩
    refine bind_eq_error.2 (.inr ⟨_, hgrown, ?_⟩)
    rw [evaluateText_of_error (ofText_eq_error_iff.2 ⟨rfl, hcut⟩)]
    rfl

/-- An instruction to write a text into a cell fails for what is to be written when the write
does. -/
theorem applyInstruction_eq_splitCharacter_iff {instruction : String}
    (h : Intent.ofText instruction = .ok (.setCell target text)) :
    applyInstruction g instruction = .error .splitCharacter ↔
      setCell g target text = .error .splitCharacter := by
  have hperform : applyInstruction g instruction = (Intent.setCell target text).execute g := by
    rw [applyInstruction, h]
    rfl
  rw [hperform, Intent.execute, Intent.perform]
  cases setCell g target text <;> simp [bind, Except.bind, pure, Except.pure]

/-- **Reading divides no character, but for the Kelvin sign.**  Each keyword is refused, or what it
takes from a text ends between two characters and is the keyword in some case; only `blank` with the
Kelvin sign for its last letter would end inside this letter.  Trying the keywords in bytes is
reading, and it fails for exactly the texts that start so.  To write such a text into a cell fails
whenever the position and the grid are within the bounds, and no other text makes it fail so. -/
theorem reads_unless_blankWithKelvin (text : String) :
    let s := trim text.toList
    (∀ w ∈ keywords,
      attempt w s = .refused ∨
      (∃ u r, s = u ++ r ∧ Text.fold u = w ∧ attempt w s = .taken r ∧
        (⟨byteSize w⟩ : String.Pos.Raw).IsValid (String.ofList s)) ∨
      (w = "blank".toList ∧ BlankWithKelvin s ∧ attempt w s = .cut ∧
        ¬(⟨byteSize w⟩ : String.Pos.Raw).IsValid (String.ofList s))) ∧
    ofText text = readBytes text ∧
    (ofText text = .error .splitCharacter ↔ BlankWithKelvin s) ∧
    ((∃ e, ofText text = .ok e) ↔ ¬BlankWithKelvin s) ∧
    ∀ (rows : List (List Cell)) (target : Coord) (instruction : String),
      Intent.ofText instruction = .ok (.setCell target text) →
      (applyInstruction (ofRows rows) instruction = .error .splitCharacter ↔
        target.row < maxRows ∧ (ofRows rows).colCount ≤ maxCols ∧ BlankWithKelvin s) := by
  intro s
  refine ⟨fun w hw => ?_, ofText_eq_readBytes text, ?_, ?_, fun rows target instruction h => ?_⟩
  · rcases attempt_cases hw s with ⟨hrefused, -⟩ | ⟨u, r, hs, hu, htaken⟩ | ⟨hblank, hcut, hattempt⟩
    · exact .inl hrefused
    · have hvalid := isValid_iff_of_attempt (w := w) (s := s) (by rw [htaken]; simp)
      exact .inr (.inl ⟨u, r, hs, hu, htaken, hvalid.2 (by rw [htaken]; simp)⟩)
    · have hvalid := isValid_iff_of_attempt (w := w) (s := s) (by rw [hattempt]; simp)
      exact .inr (.inr ⟨hblank, hcut, hattempt, fun hpos => hvalid.1 hpos hattempt⟩)
  · rw [ofText_eq_error_iff]
    exact and_iff_right rfl
  · cases he : ofText text with
    | error err => simpa using (ofText_eq_error_iff.1 he).2
    | ok e =>
      have hread : ¬BlankWithKelvin s := fun hcut => by
        rw [ofText_eq_error_iff.2 ⟨rfl, hcut⟩] at he
        cases he
      simpa using hread
  · rw [applyInstruction_eq_splitCharacter_iff h,
      setCell_eq_splitCharacter_iff (wellFormed_ofRows rows)]

/-- The keyword is taken, and what is behind it makes the text a label. -/
theorem reads_blank_space :
    let rows : List (List Cell) := [[.text "n"]]
    (∃ w ∈ keywords, attempt w "Blank space".toList = .taken " space".toList) ∧
      (∃ e, ofText "Blank space" = .ok e) ∧
      applyInstruction (ofRows rows) "set cell B2 to Blank space" ≠ .error .splitCharacter := by
  intro rows
  have htaken : attempt "blank".toList "Blank space".toList = .taken " space".toList := by decide
  have hread : ¬BlankWithKelvin (trim "Blank space".toList) := fun hcut =>
    absurd hcut.kelvin_mem (by decide)
  have hintent : Intent.ofText "set cell B2 to Blank space"
      = .ok (.setCell ⟨1, 1⟩ "Blank space") := by decide +kernel
  obtain ⟨-, -, -, hok, happly⟩ := reads_unless_blankWithKelvin "Blank space"
  refine ⟨⟨_, by decide, htaken⟩, hok.2 hread, fun herr => ?_⟩
  exact hread ((happly rows _ _ hintent).1 herr).2.2

/-- The instruction is one that can be typed, and it fails inside the reader. -/
theorem cuts_blan_kelvin :
    attempt "blank".toList "blan\u212a x".toList = .cut ∧
      ofText "blan\u212a x" = .error .splitCharacter ∧
      applyInstruction (ofRows [[.text "n"]]) "set cell A1 to blan\u212a x"
        = .error .splitCharacter := by
  decide +kernel

end GridTalk
