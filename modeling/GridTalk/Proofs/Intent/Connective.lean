import GridTalk.Proofs.Intent.Classification
import GridTalk.Proofs.Phrase.Spelling

/-!
# Sum or difference

The phrase for a new column has a connective between its last two operands, which is `and` or
`minus`.  Whether the columns are added or subtracted is not read off the connective, but off the
lower case of the whole phrase, and the two do not always agree.

* `exists_connective`: where the lower case of the phrase can have the word `minus` inside.
* `Intent.subtract_iff`: when the columns are subtracted, and when this is what the connective says.
* `Intent.subtract_against_connective`: two sentences in which it is not.
-/

namespace GridTalk

open Text

/-! ### Where the word is found -/

/-- The word is looked for in one word of the phrase after the other. -/
theorem mentionsMinus_iff {s : List Char} :
    mentionsMinus s = true ↔ ∃ w ∈ words s, "minus".toList <:+: lower w := by
  rw [mentionsMinus, hasInfix_iff, infix_lower_iff (by decide)]

section Words

variable {t : List Char}

theorem isWord_of_spelled {choices : List String}
    (hsmall : ∀ v ∈ choices, InSmallLetters v.toList ∧ v.toList ≠ [])
    (h : (Piece.word choices).Spelled true t) : IsWord t := by
  obtain ⟨v, hv, hspells⟩ := h
  exact isWord_of_map_standsFor (hsmall v hv).1 (hsmall v hv).2
    ((spellsWord_iff (hsmall v hv).1).1 hspells)

/-- A word that does not have another one inside does not mention it, however it is spelled. -/
theorem not_infix_lower_of_spelled {choices : List String} {u : List Char} (hu : '\u017f' ∉ u)
    (hsilent : ∀ v ∈ choices, InSmallLetters v.toList ∧ ¬u <:+: v.toList)
    (h : (Piece.word choices).Spelled true t) : ¬u <:+: lower t := by
  obtain ⟨v, hv, hspells⟩ := h
  obtain ⟨hsmall, hnot⟩ := hsilent v hv
  exact fun hinfix =>
    hnot (infix_of_infix_lower hsmall ((spellsWord_iff hsmall).1 hspells) hu hinfix)

theorem isWord_of_letters (h : (Piece.operand .letters).Spelled true t) : IsWord t :=
  isWord_of_isAlpha h

theorem lower_of_letters (h : (Piece.operand .letters).Spelled true t) : lower t = fold t :=
  lower_of_ascii fun c hc => lt_of_isAlpha (h.2 c hc)

/-- A connective is one of two words. -/
theorem spells_and_iff (h : (Piece.word ["and", "minus"]).Spelled true t) :
    spellsWord true "and".toList t = true ↔ ¬spellsWord true "minus".toList t = true := by
  obtain ⟨v, hv, hspells⟩ := h
  have hlength : ∀ {w : List Char}, spellsWord true w t = true → w.length = t.length := by
    intro w hw
    rw [spellsWord, Bool.and_eq_true, beq_iff_eq] at hw
    exact hw.1
  have hcases : v = "and" ∨ v = "minus" := by simpa using hv
  rcases hcases with rfl | rfl
  · refine iff_of_true hspells fun hminus => ?_
    exact absurd ((hlength hspells).trans (hlength hminus).symm) (by decide)
  · refine iff_of_false (fun hand => ?_) (not_not.2 hspells)
    exact absurd ((hlength hspells).trans (hlength hand).symm) (by decide)

/-- The lower case of a connective has the word `minus` inside if it is this word, without a long
s. -/
theorem infix_lower_connective_iff (h : (Piece.word ["and", "minus"]).Spelled true t) :
    "minus".toList <:+: lower t ↔ spellsWord true "minus".toList t = true ∧ '\u017f' ∉ t := by
  have hsmall : InSmallLetters "minus".toList := by decide
  by_cases hminus : spellsWord true "minus".toList t = true
  · have hletters := (spellsWord_iff hsmall).1 hminus
    have hlower : lower t = t.map fun c => if c = '\u017f' then c else standsFor c :=
      lowerAfter_of_standsFor (by rw [hletters]; exact hsmall)
    rw [hlower]
    constructor
    · intro hinfix
      have hsame : "minus".toList = t.map fun c => if c = '\u017f' then c else standsFor c := by
        refine hinfix.eq_of_length ?_
        rw [← hletters, List.length_map, List.length_map]
      refine ⟨hminus, fun hlong => ?_⟩
      have hmem : '\u017f' ∈ "minus".toList := by
        rw [hsame]
        exact List.mem_map.2 ⟨_, hlong, if_pos rfl⟩
      exact absurd hmem (by decide)
    · rintro ⟨-, hlong⟩
      have hsame : t.map (fun c => if c = '\u017f' then c else standsFor c) = t.map standsFor := by
        refine List.map_congr_left fun c hc => if_neg ?_
        rintro rfl
        exact hlong hc
      rw [hsame, hletters]
  · refine iff_of_false ?_ fun h' => hminus h'.1
    have hand : (Piece.word ["and"]).Spelled true t := ⟨"and", by simp, (spells_and_iff h).2 hminus⟩
    exact not_infix_lower_of_spelled (by decide) (by decide) hand

/-- Only one of the two words has a letter that a long s stands for. -/
theorem spells_minus_of_long (h : (Piece.word ["and", "minus"]).Spelled true t)
    (hlong : '\u017f' ∈ t) : spellsWord true "minus".toList t = true := by
  by_contra hminus
  have hand := (spellsWord_iff (by decide)).1 ((spells_and_iff h).2 hminus)
  have hmem : standsFor '\u017f' ∈ "and".toList := by
    rw [← hand]
    exact List.mem_map_of_mem hlong
  exact absurd hmem (by decide)

end Words

/-- The words of the phrase are its words and its operands, of which only the connective and the
operands can have the word `minus` inside. -/
theorem exists_connective {f : Finding}
    (h : List.Forall₂ (Piece.Spelled true) IntentKind.addColumn.phrase.pieces f.segments) :
    ∃ connective,
      (.word ["and", "minus"], connective) ∈ IntentKind.addColumn.phrase.pieces.zip f.segments ∧
      (Piece.word ["and", "minus"]).Spelled true connective ∧
      ("minus".toList <:+: lower f.text ↔
        (spellsWord true "minus".toList connective = true ∧ '\u017f' ∉ connective) ∨
          ∃ o ∈ IntentKind.addColumn.phrase.taken .letters f, "minus".toList <:+: fold o) := by
  obtain ⟨before, segments, after⟩ := f
  have hlength := h.length_eq
  match segments, hlength with
  | [add, b1, column, b2, target, b3, as, b4, noun, b5, of, b6, left, b7, connective, b8, right],
    _ =>
    simp only [IntentKind.phrase, List.forall₂_cons, List.forall₂_nil_left_iff] at h
    obtain ⟨hadd, h1, hcolumn, h2, htarget, h3, has, h4, hnoun, h5, hof, h6, hleft, h7, hconnective,
      h8, hright, -⟩ := h
    refine ⟨connective, by simp [IntentKind.phrase], hconnective, ?_⟩
    have hword := isWord_of_spelled (by decide) hconnective
    have hwords : words (Finding.text ⟨before, [add, b1, column, b2, target, b3, as, b4, noun, b5,
        of, b6, left, b7, connective, b8, right], after⟩)
        = [add, column, target, as, noun, of, left, connective, right] := by
      simp only [Finding.text, List.flatten_cons, List.flatten_nil, List.append_nil]
      rw [words_word_append (isWord_of_spelled (by decide) hadd) h1,
        words_word_append (isWord_of_spelled (by decide) hcolumn) h2,
        words_word_append (isWord_of_letters htarget) h3,
        words_word_append (isWord_of_spelled (by decide) has) h4,
        words_word_append (isWord_of_spelled (by decide) hnoun) h5,
        words_word_append (isWord_of_spelled (by decide) hof) h6,
        words_word_append (isWord_of_letters hleft) h7, words_word_append hword h8,
        words_of_isWord (isWord_of_letters hright)]
    have htaken : IntentKind.addColumn.phrase.taken .letters ⟨before, [add, b1, column, b2, target,
        b3, as, b4, noun, b5, of, b6, left, b7, connective, b8, right], after⟩
        = [target, left, right] := rfl
    have hadd' := not_infix_lower_of_spelled (u := "minus".toList) (by decide) (by decide) hadd
    have hcolumn' :=
      not_infix_lower_of_spelled (u := "minus".toList) (by decide) (by decide) hcolumn
    have has' := not_infix_lower_of_spelled (u := "minus".toList) (by decide) (by decide) has
    have hnoun' := not_infix_lower_of_spelled (u := "minus".toList) (by decide) (by decide) hnoun
    have hof' := not_infix_lower_of_spelled (u := "minus".toList) (by decide) (by decide) hof
    rw [infix_lower_iff (by decide), hwords, htaken]
    simp only [List.mem_cons, List.not_mem_nil, or_false, exists_eq_or_imp, exists_eq_left, hadd',
      hcolumn', has', hnoun', hof', false_or, lower_of_letters htarget, lower_of_letters hleft,
      lower_of_letters hright, infix_lower_connective_iff hconnective]
    tauto

namespace Intent

/-- **When columns are subtracted.**  They are if the connective is `minus`, spelled without a long
s, or if the letters of an operand have this word inside.  This is what the connective says unless
it has a long s and no operand has the word inside, or is `and` while an operand has it. -/
theorem subtract_iff {text : String} {target left right : Nat} {subtract : Bool}
    (h : ofText text = .ok (addColumn target left right subtract)) :
    ∃ f connective,
      IntentKind.addColumn.Chosen (trim text.toList) f ∧
      (.word ["and", "minus"], connective) ∈ IntentKind.addColumn.phrase.pieces.zip f.segments ∧
      (spellsWord true "and".toList connective = true ↔
        ¬spellsWord true "minus".toList connective = true) ∧
      let minus := spellsWord true "minus".toList connective = true
      let inside := ∃ o ∈ IntentKind.addColumn.phrase.taken .letters f,
        "minus".toList <:+: Text.fold o
      (subtract = true ↔ (minus ∧ '\u017f' ∉ connective) ∨ inside) ∧
      ((subtract = true ↔ minus) ↔ if '\u017f' ∈ connective then inside else inside → minus) := by
  obtain ⟨f, hchosen, _, _, _, _, _, _, _, hsubtract⟩ := exists_chosen_of_ofText h
  obtain ⟨connective, hmem, hspelled, hminus⟩ := exists_connective hchosen.isFirst.occurs.spelled
  refine ⟨f, connective, hchosen, hmem, spells_and_iff hspelled, ?_⟩
  intro minus inside
  have hflag : subtract = true ↔ (minus ∧ '\u017f' ∉ connective) ∨ inside := hsubtract.trans hminus
  refine ⟨hflag, ?_⟩
  rw [hflag]
  by_cases hlong : '\u017f' ∈ connective
  · have hsaid : minus := spells_minus_of_long hspelled hlong
    simp [hlong, hsaid]
  · simp [hlong]

/-- The connective says the difference and the columns are subtracted. -/
theorem subtract_iff_minus :
    let text := "add column g as value of c MINUS d"
    ofText text = .ok (addColumn 6 2 3 true) ∧
      ∃ f connective, IntentKind.addColumn.Chosen (trim text.toList) f ∧
        (.word ["and", "minus"], connective) ∈ IntentKind.addColumn.phrase.pieces.zip f.segments ∧
        (true = true ↔
          (spellsWord true "minus".toList connective = true ∧ '\u017f' ∉ connective) ∨
            ∃ o ∈ IntentKind.addColumn.phrase.taken .letters f,
              "minus".toList <:+: Text.fold o) := by
  intro text
  have hread : ofText text = .ok (addColumn 6 2 3 true) := by decide +kernel
  obtain ⟨f, connective, hchosen, hmem, -, hflag, -⟩ := subtract_iff hread
  exact ⟨hread, f, connective, hchosen, hmem, hflag⟩

/-- The segments of a sum of the column `d` and another one. -/
def sumSegments (left connective : List Char) : List (List Char) :=
  ["add".toList, [' '], "column".toList, [' '], ['g'], [' '], "as".toList, [' '], "sum".toList,
    [' '], "of".toList, [' '], left, [' '], connective, [' '], ['d']]

theorem connective_mem_sumSegments (left connective : List Char) :
    (.word ["and", "minus"], connective) ∈
      IntentKind.addColumn.phrase.pieces.zip (sumSegments left connective) := by
  simp [IntentKind.phrase, sumSegments]

/-- **Against the connective.**  A difference whose connective has a long s is read as a sum, and a
sum with an operand of these letters as a difference. -/
theorem subtract_against_connective :
    let long := "add column g as sum of c minuſ d"
    let inside := "add column g as sum of minus and d"
    (∃ f, IntentKind.addColumn.Chosen (trim long.toList) f ∧
      (.word ["and", "minus"], "minuſ".toList) ∈
        IntentKind.addColumn.phrase.pieces.zip f.segments ∧
      spellsWord true "minus".toList "minuſ".toList = true ∧
      ofText long = .ok (addColumn 6 2 3 false)) ∧
    ∃ f, IntentKind.addColumn.Chosen (trim inside.toList) f ∧
      (.word ["and", "minus"], "and".toList) ∈
        IntentKind.addColumn.phrase.pieces.zip f.segments ∧
      spellsWord true "and".toList "and".toList = true ∧
      ofText inside = .ok (addColumn 6 6108900 3 true) := by
  intro long inside
  have hlong : (IntentKind.all.findSome? (find? (.ofTrimmed (trim long.toList)))).map
      (fun found => (found.1, found.2.segments))
        = some (.addColumn, sumSegments ['c'] "minuſ".toList) := by decide +kernel
  have hinside : (IntentKind.all.findSome? (find? (.ofTrimmed (trim inside.toList)))).map
      (fun found => (found.1, found.2.segments))
        = some (.addColumn, sumSegments "minus".toList "and".toList) := by decide +kernel
  obtain ⟨f, hchosen, hsegments⟩ := exists_chosen_of_findSome? hlong
  obtain ⟨f', hchosen', hsegments'⟩ := exists_chosen_of_findSome? hinside
  refine ⟨⟨f, hchosen, hsegments ▸ connective_mem_sumSegments _ _, by decide, ?_⟩,
    ⟨f', hchosen', hsegments' ▸ connective_mem_sumSegments _ _, by decide, ?_⟩⟩
  · rw [ofText_of_chosen (by decide +kernel) hchosen, hsegments]
    decide +kernel
  · rw [ofText_of_chosen (by decide +kernel) hchosen', hsegments']
    decide +kernel

end Intent

end GridTalk
