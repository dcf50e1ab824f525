import GridTalk.Proofs.Expression.Unambiguous
import GridTalk.Proofs.Intent.ColumnLetters
import GridTalk.Proofs.Intent.Sentence

/-!
# Numbers as amounts

An expression may be a number with a point or with a comma.  The phrase for adjustments takes an
amount as far as its characters go, and the comma is none of them.

* `Expression.isRun_of_ofText`: the characters that a number is made of.
* `Intent.not_occurs_of_head`, `Intent.ofText_of_head`: without its first character there is no
  amount.
* `Intent.ofText_adjustColumn_number`: what is read when a column is adjusted by a number.
* `Intent.adjust_comma`: a number that is cut at its comma.
-/

namespace GridTalk

open Text

/-! ### The characters of a number -/

/-- Digits, the two points and the two signs. -/
def isNumberChar (c : Char) : Bool := c.isDigit || ".,+-".toList.contains c

theorem isNumberChar_spec {c : Char} (h : isNumberChar c) :
    c.toNat < 128 ∧ c.toLower = c ∧ isBlank c = false ∧ c ≠ 'c' ∧
      (c ≠ ',' → Operand.amount.accepts false c = true) := by
  have hascii : c.toNat < 128 := by
    simp only [isNumberChar, Bool.or_eq_true, List.contains_iff_mem] at h
    rcases h with h | h
    · exact lt_of_isAlphanum (isAlphanum_of_isDigit h)
    · have hall : ∀ d ∈ ".,+-".toList, d.toNat < 128 := by decide
      exact hall c h
  have hall : ∀ c : Char, c.toNat < 128 → isNumberChar c → c.toLower = c ∧ isBlank c = false ∧
      c ≠ 'c' ∧ (c ≠ ',' → Operand.amount.accepts false c = true) :=
    forall_ascii (by decide +kernel)
  exact ⟨hascii, hall c hascii h⟩

namespace Expression

section Spelled

variable {n : Numeral} {t : List Char}

theorem isNumberChar_of_spellsUnsigned (h : SpellsUnsigned n t) : ∀ c ∈ t, isNumberChar c := by
  have hdigits : ∀ {w : List Char}, (∀ d ∈ w, d.isDigit = true) → ∀ d ∈ w, isNumberChar d :=
    fun hw d hd => by simp [isNumberChar, hw d hd]
  have hpoint : ∀ {c : Char}, isPoint c = true → isNumberChar c := by
    intro c hc
    rcases isPoint_iff.1 hc with rfl | rfl
    · decide
    · decide
  cases h with
  | whole hw => exact hdigits hw.2
  | fraction hw hc hp =>
    exact List.forall_mem_append.2
      ⟨hdigits hw.2, List.forall_mem_cons.2 ⟨hpoint hc, hdigits hp⟩⟩
  | bare hc hp => exact List.forall_mem_cons.2 ⟨hpoint hc, hdigits hp.2⟩

theorem isRun_of_spellsSigned (h : SpellsSigned n t) : IsRun isNumberChar t := by
  cases h with
  | plain h => exact ⟨h.head.1, isNumberChar_of_spellsUnsigned h⟩
  | plus h =>
    exact ⟨by simp, List.forall_mem_cons.2 ⟨by decide, isNumberChar_of_spellsUnsigned h⟩⟩
  | minus h =>
    exact ⟨by simp, List.forall_mem_cons.2 ⟨by decide, isNumberChar_of_spellsUnsigned h⟩⟩

end Spelled

/-- A text that is read as a number is made of the characters of numbers. -/
theorem isRun_of_ofText {text : String} {x : Float} (h : ofText text = .ok (.number x)) :
    IsRun isNumberChar (trim text.toList) := by
  obtain ⟨n, hn, -⟩ := spellsFinite_of_ofText h
  exact isRun_of_spellsSigned hn

end Expression

/-! ### A number behind the sentence -/

theorem withoutNouns_of_isNumberChar {x : List Char} (h : ∀ c ∈ x, isNumberChar c) :
    WithoutNouns x := by
  have hfold : Text.fold x = x := fold_eq_self fun c hc => (isNumberChar_spec (h c hc)).2.1
  intro n hn hinfix
  have hc : ∀ n ∈ ["cell", "column"], 'c' ∈ n.toList := by decide
  have hmem := hinfix.subset (hc n hn)
  rw [hfold] at hmem
  exact (isNumberChar_spec (h _ hmem)).2.2.2.1 rfl

theorem lower_of_isNumberChar {x : List Char} (h : ∀ c ∈ x, isNumberChar c) : lower x = x :=
  lower_eq_self (fun c hc => (isNumberChar_spec (h c hc)).1)
    fun c hc => (isNumberChar_spec (h c hc)).2.1

namespace Intent

variable {action : Adjustment} {column : Nat} {x : List Char} {f : Finding}

section Sentence

variable (hcolumn : column < Grid.maxCols) (hx : IsWord x) (hne : x ≠ "column".toList)
include hcolumn hx hne

/-- Behind the noun, the words of the phrase are those of the sentence. -/
theorem words_amount {before after verb b1 noun b2 letters b3 preposition b4 amount : List Char}
    (h : IntentKind.adjustColumn.phrase.Occurs
      (spaced (lowerWords action column) x)
      ⟨before, [verb, b1, noun, b2, letters, b3, preposition, b4, amount], after⟩) :
    words (amount ++ after) = [x] := by
  have haction : "column".toList ≠ action.word.toList := by cases action <;> decide
  have hlabel : Text.fold (Column.label column).toList ≠ "column".toList :=
    (quiet_label hcolumn).2.2 "column" (by simp)
  obtain ⟨ws, hphrase⟩ := words_of_adjustColumn h
  rw [words_spaced (isWord_lowerWords action column), words_of_isWord hx] at hphrase
  have hsame : [action.word.toList] ++ "column".toList ::
      [Text.fold (Column.label column).toList, "by".toList, x]
      = ws ++ "column".toList :: letters :: preposition :: words (amount ++ after) := hphrase
  have hbefore : "column".toList ∉ [action.word.toList] := by
    rwa [List.mem_singleton]
  have hafter : "column".toList ∉ [Text.fold (Column.label column).toList, "by".toList, x] := by
    simp only [List.mem_cons, List.not_mem_nil, or_false, not_or]
    exact ⟨hlabel.symm, by decide, hne.symm⟩
  rw [List.append_cons_inj_of_notMem hbefore hafter] at hsame
  simp only [List.cons.injEq] at hsame
  exact hsame.2.2.2.2.symm

/-- An amount starts with a character that an amount can have, behind a single blank. -/
theorem not_occurs_of_head (hhead : ∀ c ∈ x.head?, Operand.amount.accepts false c = false) :
    ¬IntentKind.adjustColumn.phrase.Occurs
      (spaced (lowerWords action column) x) f := by
  intro h
  obtain ⟨before, segments, after⟩ := f
  have hlength := h.spelled.length_eq
  match segments, hlength with
  | [verb, b1, noun, b2, letters, b3, preposition, b4, amount], _ =>
    have hwords := words_amount hcolumn hx hne h
    obtain ⟨htext, hspelled⟩ := h
    simp only [IntentKind.phrase, List.forall₂_cons, List.forall₂_nil_left_iff] at hspelled
    obtain ⟨-, -, -, -, -, -, -, ⟨hgap, hblank⟩, ⟨hamount, haccepted⟩, -⟩ := hspelled
    obtain ⟨c, r, rfl⟩ := List.exists_cons_of_ne_nil hamount
    by_cases hc : isBlank c = true
    · -- then there is an empty piece between two blanks
      have htext' : spaced (lowerWords action column) x
          = (before ++ [verb, b1, noun, b2, letters, b3, preposition, b4.dropLast].flatten)
            ++ b4.getLast hgap :: c :: (r ++ after) := by
        rw [htext]
        simp only [Finding.text, List.flatten_cons, List.flatten_nil, List.append_assoc]
        nth_rewrite 1 [← List.dropLast_append_getLast hgap]
        simp
      have hnil := nil_mem_pieces (hblank _ (List.getLast_mem hgap)) hc
        (before ++ [verb, b1, noun, b2, letters, b3, preposition, b4.dropLast].flatten) (r ++ after)
      rw [← htext', pieces_spaced (isWord_lowerWords action column), pieces_of_forall hx.2] at hnil
      rcases List.mem_append.1 hnil with hnil | hnil
      · exact (isWord_lowerWords action column _ hnil).1 rfl
      · exact hx.1 (List.mem_singleton.1 hnil).symm
    · obtain ⟨p, ps, hfirst⟩ := exists_words_cons (Bool.eq_false_iff.2 hc) (r ++ after)
      rw [List.cons_append, hfirst, List.cons.injEq] at hwords
      have hrejected := hhead c (by rw [← hwords.1]; rfl)
      rw [haccepted c (List.mem_cons_self ..)] at hrejected
      cases hrejected

end Sentence

/-- Nothing else is found either. -/
theorem ofText_of_head {text : String}
    (htext : text.toList = spaced (adjustWords action column) x) (hcolumn : column < Grid.maxCols)
    (hx : IsWord x) (hlower : lower x = x) (hnouns : WithoutNouns x)
    (hhead : ∀ c ∈ x.head?, Operand.amount.accepts false c = false) :
    ofText text = .error (.unrecognized text) := by
  have hne : x ≠ "column".toList := by
    rintro rfl
    exact hnouns "column" (by simp) (by decide)
  have hquiet := quiet_adjustWords action hcolumn
  have hsmall := inSmallLetters_word action
  obtain ⟨htrimmed, hne'⟩ := trimmed_spaced (IntentKind.isWord_of_quiet hquiet) hx.1 hx.trimmed
  have htrim : trim text.toList = text.toList := by
    rw [htext]
    exact trim_eq_self_iff.2 htrimmed
  have hverb : ∀ k ≠ IntentKind.adjustColumn, ∀ u ∈ k.verbs, ¬u.toList <:+ action.word.toList := by
    intro k hk
    cases k with
    | adjustColumn => exact absurd rfl hk
    | _ => cases action <;> decide
  have hcell : ∀ w ∈ [] ++ action.word.toList :: [(Column.label column).toList, "by".toList],
      ¬"cell".toList <:+: Text.fold w := by
    have haction : ¬"cell".toList <:+: Text.fold action.word.toList := by cases action <;> decide
    simp only [List.nil_append, List.forall_mem_cons]
    exact ⟨haction, withoutNouns_label hcolumn "cell" (by simp), by decide, by simp⟩
  have hnone : IntentKind.all.findSome? (find? (.ofTrimmed (trim text.toList))) = none := by
    rw [findSome?_eq_none_iff, htrim, htext]
    intro kind t ht hinfix
    obtain ⟨f, hf⟩ := Phrase.exists_occurs_iff.2 ⟨t, ht, hinfix⟩
    by_cases hkind : kind = .adjustColumn
    · subst hkind
      rw [input_adjustWords hlower] at hf
      exact not_occurs_of_head hcolumn hx hne hhead hf
    · exact IntentKind.not_occurs_of_quiet hquiet hnouns hsmall (hverb kind hkind)
        (fun _ => hcell) hf
  rw [ofText_of_trim_ne_nil (by rw [htrim, htext]; exact hne'), ofInstruction, hnone, htrim]
  show Except.error (SheetError.unrecognized (String.ofList text.toList)) = _
  rw [String.ofList_toList]

theorem not_accepts_of_head?_dropWhile {x : List Char} :
    ∀ c ∈ (x.dropWhile (· != ',')).head?, Operand.amount.accepts false c = false := by
  intro c hc
  have hcomma : c = ',' := by simpa using eq_false_of_head?_dropWhile c hc
  rw [hcomma]
  decide +kernel

/-- What is made of the characters of numbers is cut at its first comma. -/
theorem ofText_of_isRun {number : String} (hcolumn : column < Grid.maxCols)
    (hnumber : IsRun isNumberChar number.toList) :
    let sentence := (adjustColumn action column number).sentence
    let amount := number.toList.takeWhile (· != ',')
    ofText sentence = if amount = [] then .error (.unrecognized sentence)
      else .ok (adjustColumn action column (String.ofList amount)) := by
  intro sentence amount
  obtain ⟨hne, hchars⟩ := hnumber
  have hword : IsWord number.toList := ⟨hne, fun c hc => (isNumberChar_spec (hchars c hc)).2.2.1⟩
  have hlower := lower_of_isNumberChar hchars
  have hnouns := withoutNouns_of_isNumberChar hchars
  have hsentence : sentence.toList = spaced (adjustWords action column) number.toList :=
    toList_sentence_adjustColumn ..
  have hsplit : amount ++ number.toList.dropWhile (· != ',') = number.toList :=
    List.takeWhile_append_dropWhile
  have hcut := not_accepts_of_head?_dropWhile (x := number.toList)
  split
  · next hnil =>
    rw [hnil, List.nil_append] at hsplit
    rw [hsplit] at hcut
    exact ofText_of_head hsentence hcolumn hword hlower hnouns hcut
  · next hsome =>
    refine ofText_adjustColumn (u := number.toList.dropWhile (· != ',')) ?_ hcolumn ?_ ?_ ?_
      ⟨hsome, fun c hc => ?_⟩ hcut
    · rw [hsplit]
      exact hsentence
    · rw [hsplit, trim_of_isWord hword]
    · rw [hsplit, hlower]
    · rwa [hsplit]
    · have hmem := (List.takeWhile_prefix (· != ',')).subset hc
      have hcomma : c ≠ ',' := by simpa using List.all_eq_true.1 List.all_takeWhile c hc
      exact (isNumberChar_spec (hchars c hmem)).2.2.2.2 hcomma

/-- **A number as an amount.**  A column can be adjusted by any number without a comma, and the
amount is this number.  A number with a comma is cut there, and if nothing is left of it the
instruction is not recognized. -/
theorem ofText_adjustColumn_number (action : Adjustment) {column : Nat} {number : String}
    {n : Float} (hcolumn : column < Grid.maxCols) (htrim : trim number.toList = number.toList)
    (hnumber : Expression.ofText number = .ok (.number n)) :
    let sentence := (adjustColumn action column number).sentence
    let amount := number.toList.takeWhile (· != ',')
    (∀ row g, evaluateText number row g = (.ok (.number n), g)) ∧
    (ofText sentence = .ok (adjustColumn action column number) ↔ ',' ∉ number.toList) ∧
    ofText sentence = if amount = [] then .error (.unrecognized sentence)
      else .ok (adjustColumn action column (String.ofList amount)) := by
  intro sentence amount
  have hrun := Expression.isRun_of_ofText hnumber
  rw [htrim] at hrun
  have hread : ofText sentence = if amount = [] then .error (.unrecognized sentence)
      else .ok (adjustColumn action column (String.ofList amount)) :=
    ofText_of_isRun hcolumn hrun
  refine ⟨fun row g => ?_, ⟨fun hwhole => ?_, fun hcomma => ?_⟩, hread⟩
  · rw [evaluateText, hnumber]
    rfl
  · have hsame : amount = number.toList := by
      rw [hread] at hwhole
      split at hwhole
      · cases hwhole
      · simp only [Except.ok.injEq, adjustColumn.injEq, true_and] at hwhole
        rw [← hwhole, String.toList_ofList]
    rw [← hsame]
    intro hcomma
    simpa using List.all_eq_true.1 List.all_takeWhile _ hcomma
  · have hsame : amount = number.toList := by
      refine List.takeWhile_eq_self_iff.2 fun c hc => ?_
      rw [bne_iff_ne]
      rintro rfl
      exact hcomma hc
    rw [hread, if_neg (hsame ▸ hrun.1), hsame, String.ofList_toList]

/-- A number with a sign and a point. -/
theorem ofText_adjustColumn_number_negative :
    Expression.ofText "-2.5" = .ok (.number (-2.5)) ∧
      ofText "increase column C by -2.5" = .ok (adjustColumn .increase 2 "-2.5") ∧
      ∀ row g, evaluateText "-2.5" row g = (.ok (.number (-2.5)), g) := by
  have hnumber : Expression.ofText "-2.5" = .ok (.number (-2.5)) := by decide +kernel
  have hsentence : (adjustColumn .increase 2 "-2.5").sentence = "increase column C by -2.5" := by
    decide +kernel
  have hcolumn : 2 < Grid.maxCols := by decide
  obtain ⟨hvalue, hread, -⟩ := ofText_adjustColumn_number .increase hcolumn (by decide) hnumber
  exact ⟨hnumber, hsentence ▸ hread.2 (by decide), hvalue⟩

/-- **A number that is cut.**  The comma and what is behind it are lost, and the column is adjusted
by another number. -/
theorem adjust_comma :
    Expression.ofText "2,5" = .ok (.number 2.5) ∧
      ofText "increase column C by 2,5" = .ok (adjustColumn .increase 2 "2") ∧
      Expression.ofText "2" = .ok (.number 2) ∧ (2 : Float) ≠ 2.5 := by
  decide +kernel

end Intent

end GridTalk
