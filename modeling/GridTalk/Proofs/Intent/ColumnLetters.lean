import GridTalk.Proofs.Address.RoundTrip
import GridTalk.Proofs.Intent.Classification

/-!
# How columns are typed

An edit names its columns by letters that were typed behind a blank.  In five of the six phrases
these are ASCII letters.  The phrase for adjustments is looked for in the text in lower case, where
the Kelvin sign has become a k, so that it passes for this letter.

* `exists_blank_before_letters`: an operand of letters stands behind a blank.
* `exists_typed_word`: a word of small letters in the text in lower case, as it was typed.
* `Intent.exists_typed_letters`: the letters that were typed for a column.
* `Intent.kelvin_column`: a column that is named by the Kelvin sign.
-/

namespace GridTalk

open Text

/-- The capital of an ASCII letter or of the Kelvin sign. -/
def capital (c : Char) : Char := if c = '\u212a' then 'K' else c.toUpper

theorem capital_of_isAlpha {c : Char} (h : c.isAlpha) : capital c = c.toUpper := by
  refine if_neg ?_
  rintro rfl
  exact absurd h (by decide)

theorem toUpper_smallLetter {c : Char} (h : c.isAlpha ∨ c = '\u212a') :
    (smallLetter c).toUpper = capital c := by
  rcases h with h | rfl
  · rw [capital_of_isAlpha h, smallLetter, if_neg, ignoresCase_toUpper]
    rintro rfl
    exact absurd h (by decide)
  · decide

/-! ### Where the letters stand -/

theorem isAlpha_of_accepts_letters {anyCase : Bool} {c : Char}
    (h : Operand.letters.accepts anyCase c = true) : c.isAlpha := by
  cases anyCase with
  | true => exact h
  | false => exact isAlpha_of_isLower h

/-- In all phrases the operands of letters come directly behind blanks. -/
theorem isChain_pieces (kind : IntentKind) :
    kind.phrase.pieces.IsChain fun p q => q = .operand .letters → p = .blanks := by
  cases kind <;> decide

/-- What comes directly behind blanks is taken from behind a blank. -/
theorem exists_blank_before_segment {anyCase : Bool} {p q : Piece} {ps : List Piece}
    {t u : List Char} {ts : List (List Char)}
    (hspelled : List.Forall₂ (Piece.Spelled anyCase) (p :: ps) (t :: ts))
    (hchain : (p :: ps).IsChain fun p p' => p' = q → p = .blanks) (h : (q, u) ∈ ps.zip ts) :
    ∃ before b after, (t :: ts).flatten = before ++ b :: (u ++ after) ∧ isBlank b = true := by
  induction ps generalizing p t ts with
  | nil => simp at h
  | cons p' ps ih =>
    cases hspelled with
    | cons hp hspelled =>
      match ts, hspelled with
      | t' :: ts, hspelled =>
        rw [List.isChain_cons_cons] at hchain
        rcases List.mem_cons.1 h with heq | h
        · obtain ⟨rfl, rfl⟩ := Prod.mk.inj heq
          obtain rfl := hchain.1 rfl
          obtain ⟨hne, hblank⟩ := hp
          have hlast := List.dropLast_append_getLast hne
          refine ⟨t.dropLast, t.getLast hne, ts.flatten, ?_, hblank _ (List.getLast_mem hne)⟩
          rw [List.flatten_cons, List.flatten_cons]
          conv_lhs => rw [← hlast]
          simp
        · obtain ⟨before, b, after, htext, hb⟩ := ih hspelled hchain.2 h
          refine ⟨t ++ before, b, after, ?_, hb⟩
          rw [List.flatten_cons, htext, List.append_assoc]

/-- An operand of letters stands behind a blank. -/
theorem exists_blank_before_letters {kind : IntentKind} {s letters : List Char} {f : Finding}
    (h : kind.phrase.Occurs s f) (hletters : letters ∈ kind.phrase.taken .letters f) :
    (Piece.operand .letters).Spelled kind.phrase.anyCase letters ∧
      ∃ before b after, s = before ++ b :: (letters ++ after) ∧ isBlank b = true := by
  obtain ⟨start, segments, rest⟩ := f
  obtain ⟨htext, hspelled⟩ := h
  obtain ⟨⟨piece, u⟩, hmem, heq⟩ := List.mem_filterMap.1 hletters
  obtain ⟨rfl, rfl⟩ : piece = .operand .letters ∧ u = letters := by simpa using heq
  refine ⟨(List.forall₂_iff_zip.1 hspelled).2 hmem, ?_⟩
  have hchain := isChain_pieces kind
  have hfirst : kind.phrase.pieces.head? ≠ some (.operand .letters) := by cases kind <;> decide
  cases hpieces : kind.phrase.pieces with
  | nil => simp [hpieces] at hmem
  | cons p ps =>
    rw [hpieces] at hspelled hchain hmem hfirst
    match segments, hspelled with
    | t :: ts, hspelled =>
      have hlater : (Piece.operand .letters, u) ∈ ps.zip ts := by
        refine (List.mem_cons.1 hmem).resolve_left ?_
        rintro heq
        exact hfirst (congrArg some (Prod.mk.inj heq).1.symm)
      obtain ⟨before, b, after, hsplit, hb⟩ := exists_blank_before_segment hspelled hchain hlater
      refine ⟨start ++ before, b, after ++ rest, ?_, hb⟩
      rw [htext, Finding.text, hsplit]
      simp

/-- The phrase for adjustments, word by word. -/
theorem words_of_adjustColumn {s before after verb b1 column b2 letters b3 preposition b4 amount :
      List Char}
    (h : IntentKind.adjustColumn.phrase.Occurs s
      ⟨before, [verb, b1, column, b2, letters, b3, preposition, b4, amount], after⟩) :
    ∃ ws, words s = ws ++ "column".toList :: letters :: preposition :: words (amount ++ after) := by
  obtain ⟨htext, hspelled⟩ := h
  simp only [IntentKind.phrase, List.forall₂_cons, List.forall₂_nil_left_iff] at hspelled
  obtain ⟨-, h1, ⟨v, hv, hcolumn⟩, h2, hletters, h3, ⟨w, hw, hpreposition⟩, h4, -, -⟩ := hspelled
  obtain rfl := List.mem_singleton.1 hv
  obtain rfl := eq_of_spellsWord hcolumn
  obtain rfl := eq_of_spellsWord hpreposition
  have hword : IsWord letters :=
    isWord_of_isAlpha ⟨hletters.1, fun c hc => isAlpha_of_accepts_letters (hletters.2 c hc)⟩
  have hword' : ∀ w ∈ ["by", "with"], IsWord w.toList := by decide
  have hs : s = (before ++ verb) ++ (b1 ++ ("column".toList ++ (b2 ++ (letters ++ (b3 ++
      (w.toList ++ (b4 ++ (amount ++ after)))))))) := by
    rw [htext]
    simp [Finding.text]
  refine ⟨words (before ++ verb), ?_⟩
  rw [hs, words_append_gap h1, words_word_append (by decide) h2, words_word_append hword h3,
    words_word_append (hword' w hw) h4]

/-- In the phrase for adjustments the letters are a word of their own, behind the noun. -/
theorem infix_words_of_adjustColumn {s letters : List Char} {f : Finding}
    (h : IntentKind.adjustColumn.phrase.Occurs s f)
    (hletters : letters ∈ IntentKind.adjustColumn.phrase.taken .letters f) :
    ["column".toList, letters] <:+: words s := by
  obtain ⟨before, segments, after⟩ := f
  have hlength := h.spelled.length_eq
  match segments, hlength with
  | [verb, b1, column, b2, label, b3, preposition, b4, amount], _ =>
    obtain rfl : letters = label := List.mem_singleton.1 hletters
    obtain ⟨ws, hwords⟩ := words_of_adjustColumn h
    rw [hwords]
    exact ⟨ws, preposition :: words (amount ++ after), by simp⟩

/-- A word of small letters in the text in lower case, and what was typed for it. -/
theorem exists_typed_word {s v w : List Char} (h : [v, w] <:+: words (lower s))
    (hw : InSmallLetters w) :
    ∃ typed, (∀ c ∈ typed, c.isAlpha ∨ c = '\u212a') ∧ typed.map smallLetter = w ∧
      ∃ before b after, s = before ++ b :: (typed ++ after) ∧ isBlank b = true := by
  rw [words_lower] at h
  obtain ⟨pair, hpair, hmap⟩ := List.infix_map_iff.1 h
  obtain ⟨v', w', rfl⟩ : ∃ v' w', pair = [v', w'] :=
    List.length_eq_two.1 (by simpa using (congrArg List.length hmap).symm)
  obtain ⟨rfl, rfl⟩ : v = lower v' ∧ w = lower w' := by simpa using hmap
  obtain ⟨htyped, hsmall⟩ := lowerAfter_eq_map_smallLetter hw
  exact ⟨w', htyped, hsmall.symm, exists_blank_before hpair⟩

/-- A position has the column that its letters stand for. -/
theorem columnOf_of_ofParts {letters : List Char} {digits : String} {target : Coord}
    (h : Coord.ofParts (String.ofList letters) digits = .ok target) :
    columnOf letters = .ok target.col := (Coord.ofParts_eq_ok.1 h).1

namespace Intent

variable {intent : Intent} {f : Finding} {column : Nat}

/-- Each column that an edit names is read off an operand of letters. -/
theorem HasOperands.exists_letters (h : intent.HasOperands f) (hc : column ∈ intent.columns) :
    ∃ letters ∈ intent.kind.phrase.taken .letters f, columnOf letters = .ok column := by
  have hread : ∀ ls, intent.kind.phrase.taken .letters f = ls →
      (∃ letters ∈ ls, columnOf letters = .ok column) →
        ∃ letters ∈ intent.kind.phrase.taken .letters f, columnOf letters = .ok column := by
    rintro _ rfl hletters
    exact hletters
  cases intent with
  | setCell target expression =>
    obtain ⟨letters, digits, htaken, -, -, htarget⟩ := h
    obtain rfl := List.mem_singleton.1 hc
    exact hread _ htaken ⟨letters, by simp, columnOf_of_ofParts htarget⟩
  | adjustColumn action c amount =>
    obtain ⟨letters, -, htaken, -, hletters⟩ := h
    obtain rfl := List.mem_singleton.1 hc
    exact hread _ htaken ⟨letters, by simp, hletters⟩
  | addColumn target left right subtract =>
    obtain ⟨letters, letters', letters'', htaken, htarget, hleft, hright, -⟩ := h
    have hcases : column = target ∨ column = left ∨ column = right := by
      simpa [columns] using hc
    rcases hcases with rfl | rfl | rfl
    · exact hread _ htaken ⟨letters, by simp, htarget⟩
    · exact hread _ htaken ⟨letters', by simp, hleft⟩
    · exact hread _ htaken ⟨letters'', by simp, hright⟩
  | fillColumn c expression =>
    obtain ⟨letters, htaken, -, hletters⟩ := h
    obtain rfl := List.mem_singleton.1 hc
    exact hread _ htaken ⟨letters, by simp, hletters⟩
  | renameColumn c title =>
    obtain ⟨letters, _, htaken, -, -, hletters⟩ := h
    obtain rfl := List.mem_singleton.1 hc
    exact hread _ htaken ⟨letters, by simp, hletters⟩
  | clearColumn c =>
    obtain ⟨letters, htaken, hletters⟩ := h
    obtain rfl := List.mem_singleton.1 hc
    exact hread _ htaken ⟨letters, by simp, hletters⟩

theorem label_of_columnOf {letters : List Char} (hword : IsWord letters)
    (h : columnOf letters = .ok column) :
    (Column.label column).toList = letters.map Char.toUpper := by
  have hlabel := Column.label_of_ofLabel h
  rwa [String.toList_ofList, trim_of_isWord hword] at hlabel

/-- **The letters that were typed for a column.**  They stand directly behind a blank, and as
capitals they are the label of the column.  They are ASCII letters, but for the Kelvin signs in the
name of a column that is adjusted. -/
theorem exists_typed_letters {text : String} (h : ofText text = .ok intent)
    (hc : column ∈ intent.columns) :
    ∃ before b letters after, text.toList = before ++ b :: (letters ++ after) ∧ isBlank b = true ∧
      letters.map capital = (Column.label column).toList ∧
      ∀ c ∈ letters, c.isAlpha ∨ (intent.kind = .adjustColumn ∧ c = '\u212a') := by
  obtain ⟨f, hchosen, hoperands⟩ := exists_chosen_of_ofText h
  obtain ⟨letters, htaken, hcolumn⟩ := hoperands.exists_letters hc
  have hoccurs := hchosen.isFirst.occurs
  obtain ⟨hspelled, before, b, after, hsplit, hb⟩ := exists_blank_before_letters hoccurs htaken
  obtain ⟨start, rest, htext⟩ := trim_isInfix text.toList
  have halpha : ∀ c ∈ letters, c.isAlpha := fun c hc =>
    isAlpha_of_accepts_letters (hspelled.2 c hc)
  have hword : IsWord letters := isWord_of_isAlpha ⟨hspelled.1, halpha⟩
  have hlabel := label_of_columnOf hword hcolumn
  by_cases hkind : intent.kind = .adjustColumn
  · rw [hkind] at hoccurs htaken hspelled
    have hpair := infix_words_of_adjustColumn hoccurs htaken
    obtain ⟨typed, htyped, hsmall, before, b, after, hsplit, hb⟩ :=
      exists_typed_word hpair hspelled.2
    refine ⟨start ++ before, b, typed, after ++ rest, ?_, hb, ?_, fun c hc => ?_⟩
    · rw [← htext, hsplit]
      simp
    · rw [hlabel, ← hsmall, List.map_map]
      exact List.map_congr_left fun c hc => (toUpper_smallLetter (htyped c hc)).symm
    · exact (htyped c hc).imp_right fun hkelvin => ⟨hkind, hkelvin⟩
  · rw [IntentKind.input, if_neg hkind] at hsplit
    refine ⟨start ++ before, b, letters, after ++ rest, ?_, hb, ?_, fun c hc => .inl (halpha c hc)⟩
    · rw [← htext, hsplit]
      simp
    · rw [hlabel]
      exact List.map_congr_left fun c hc => capital_of_isAlpha (halpha c hc)

/-- A column of two letters, in two cases. -/
theorem exists_typed_letters_clearColumn :
    ofText "clear column aB" = .ok (clearColumn 27) ∧
      ∃ before b letters after, "clear column aB".toList = before ++ b :: (letters ++ after) ∧
        isBlank b = true ∧ letters.map capital = (Column.label 27).toList ∧
        ∀ c ∈ letters, c.isAlpha ∨ (IntentKind.clearColumn = .adjustColumn ∧ c = '\u212a') := by
  have hread : ofText "clear column aB" = .ok (clearColumn 27) := by decide +kernel
  exact ⟨hread, exists_typed_letters hread (by simp [columns])⟩

/-- **A column without a letter.**  The Kelvin sign names the column K, although no letter K is in
the text, and the column is adjusted. -/
theorem kelvin_column :
    let text := "increase column \u212a by 5"
    ofText text = .ok (adjustColumn .increase 10 "5") ∧ Column.label 10 = "K" ∧
      ∀ c ∈ text.toList, c.toUpper ≠ 'K' := by
  decide +kernel

end Intent

end GridTalk
