import GridTalk.Proofs.Intent.Connective
import GridTalk.Proofs.Intent.Heard
import GridTalk.Proofs.LetterCase.Instruction
import GridTalk.Proofs.Phrase.Greedy

/-!
# Edits in words

Every edit can be said in a sentence, and the sentence is read as this edit.

* `Intent.sentence`: an edit in words.
* `Intent.Speakable`: which operands can be said.
* `Intent.ofText_of_follows`: a sentence that a phrase reads from its start to its end.
* `Intent.ofText_sentence`: the sentence of an edit is read as this edit.
-/

namespace GridTalk

open Text

/-! ### Sentences -/

/-- Can the character be part of an amount that is typed in small letters? -/
def isAmountChar (c : Char) : Bool := c.isLower || c.isDigit || "_ ./*+-".toList.contains c

/-- Lower case leaves the character as it is, and the phrase accepts it. -/
theorem isAmountChar_spec {c : Char} (h : isAmountChar c) :
    c.toNat < 128 ∧ c.toLower = c ∧ Operand.amount.accepts false c = true := by
  have hascii : c.toNat < 128 := by
    simp only [isAmountChar, Bool.or_eq_true, List.contains_iff_mem] at h
    rcases h with (h | h) | h
    · exact lt_of_isAlpha (isAlpha_of_isLower h)
    · exact lt_of_isAlphanum (isAlphanum_of_isDigit h)
    · have hall : ∀ d ∈ "_ ./*+-".toList, d.toNat < 128 := by decide
      exact hall c h
  have hall : ∀ c : Char, c.toNat < 128 → isAmountChar c →
      c.toLower = c ∧ Operand.amount.accepts false c = true := forall_ascii (by decide +kernel)
  exact ⟨hascii, hall c hascii h⟩

/-- One line of text, without blanks at its ends. -/
structure IsLine (x : String) : Prop where
  ne_nil : x.toList ≠ []
  one_line : '\n' ∉ x.toList
  trim_eq : trim x.toList = x.toList

theorem lower_of_inSmallLetters {w : List Char} (hw : InSmallLetters w) : lower w = w :=
  IntentKind.adjustColumn.heard_of_inSmallLetters hw

theorem lower_label (column : Nat) :
    lower (Column.label column).toList = fold (Column.label column).toList :=
  lower_of_ascii fun _ hc => lt_of_isAlpha (Column.isAlpha_of_mem_label hc)

theorem Follows.label {ps : List Piece} {ts : List (List Char)} {u : List Char}
    (h : Follows true ps ts u) (column : Nat) :
    Follows true (.operand .letters :: .blanks :: ps)
      ((Column.label column).toList :: [' '] :: ts) u :=
  h.operand_space .letters (Column.isRun_label column) (Column.isWord_label column) (by decide)

namespace Intent

/-- The edit in words. -/
def sentence : Intent → String
  | setCell target expression => s!"set cell {target.a1} to {expression}"
  | adjustColumn action column amount =>
    s!"{action.word} column {Column.label column} by {amount}"
  | addColumn target left right false =>
    s!"add column {Column.label target} as sum of {Column.label left} and {Column.label right}"
  | addColumn target left right true =>
    s!"add column {Column.label target} as value of {Column.label left} minus {Column.label right}"
  | fillColumn column expression =>
    s!"fill cells in column {Column.label column} with {expression}"
  | renameColumn column title => s!"rename column {Column.label column} to {title}"
  | clearColumn column => s!"clear column {Column.label column}"

/-- The operands can be said: positions that a grid can have, and texts that are not cut or
mistaken. -/
def Speakable : Intent → Prop
  | setCell target expression =>
    target.col < Grid.maxCols ∧ target.row < maxNumber ∧ IsLine expression
  | adjustColumn _ column amount =>
    column < Grid.maxCols ∧ IsLine amount ∧ WithoutNouns amount.toList ∧
      ∀ c ∈ amount.toList, isAmountChar c
  | addColumn target left right _ =>
    target < Grid.maxCols ∧ left < Grid.maxCols ∧ right < Grid.maxCols
  | fillColumn column text | renameColumn column text =>
    column < Grid.maxCols ∧ IsLine text ∧ WithoutNouns text.toList
  | clearColumn column => column < Grid.maxCols

/-- A sentence that a phrase takes from its start on is read, if no phrase that is tried before
occurs in it. -/
theorem ofText_of_follows (kind : IntentKind) {text : String} {ws ts : List (List Char)}
    {x u : List Char} (htext : text.toList = spaced ws x) (hws : ∀ w ∈ ws, IsWord w)
    (hne : x ≠ []) (hx : trim x = x) (hinput : kind.input (spaced ws x) = ts.flatten ++ u)
    (hfollows : Follows kind.phrase.anyCase kind.phrase.pieces ts u)
    (hbefore : ∀ k ∈ IntentKind.all.takeWhile (· != kind), ∀ f,
      ¬k.phrase.Occurs (k.input (spaced ws x)) f) : ofText text = ofSegments kind ts := by
  obtain ⟨htrimmed, hne⟩ := trimmed_spaced hws hne (trim_eq_self_iff.1 hx)
  have htrim : trim text.toList = spaced ws x := by rw [htext, trim_eq_self_iff.2 htrimmed]
  refine ofText_of_chosen (f := ⟨[], ts, u⟩) (by rwa [htrim]) ⟨?_, ?_⟩
  · rw [htrim, hinput]
    exact Phrase.search?_eq_some_iff.1 (search?_of_takesAll hfollows.takes)
  · rw [htrim]
    refine ⟨IntentKind.all.takeWhile (· != kind), (IntentKind.all.dropWhile (· != kind)).tail,
      by cases kind <;> rfl, fun k hk t ht hinfix => ?_⟩
    obtain ⟨f, hf⟩ := Phrase.exists_occurs_iff.2 ⟨t, ht, hinfix⟩
    exact hbefore k hk f hf

/-- The same for a sentence about a column. -/
theorem ofText_of_quiet (kind : IntentKind) {text : String} {as bs ts : List (List Char)}
    {v x u : List Char} (htext : text.toList = spaced (as ++ v :: "column".toList :: bs) x)
    (hne : x ≠ []) (htrim : trim x = x) (hx : WithoutNouns x)
    (hquiet : ∀ w ∈ as ++ v :: bs, Quiet w) (hv : InSmallLetters v)
    (hverb : ∀ k ∈ IntentKind.all.takeWhile (· != kind), ∀ u ∈ k.verbs, ¬u.toList <:+ v)
    (hcell : .fillColumn ∈ IntentKind.all.takeWhile (· != kind) →
      ∀ w ∈ as ++ v :: bs, ¬"cell".toList <:+: Text.fold w)
    (hinput : kind.input (spaced (as ++ v :: "column".toList :: bs) x) = ts.flatten ++ u)
    (hfollows : Follows kind.phrase.anyCase kind.phrase.pieces ts u) :
    ofText text = ofSegments kind ts := by
  have hword := IntentKind.isWord_of_quiet hquiet
  refine ofText_of_follows kind htext hword hne htrim hinput hfollows fun k hk f => ?_
  exact IntentKind.not_occurs_of_quiet hquiet hx hv (hverb k hk) fun heq => hcell (heq ▸ hk)

theorem follows_line {x : String} (hx : IsLine x) :
    Follows true [.operand .line] [x.toList] [] := by
  refine .operand ⟨hx.ne_nil, fun c hc => ?_⟩ (by simp) (trim_eq_self_iff.1 hx.trim_eq).1
  show (c != '\n') = true
  rw [bne_iff_ne]
  rintro rfl
  exact hx.one_line hc

theorem follows_label (column : Nat) :
    Follows true [.operand .letters] [(Column.label column).toList] [] :=
  .operand (Column.isRun_label column) (by simp) (Column.isWord_label column).trimmed.1

theorem columnOf_label {column : Nat} (h : column < Grid.maxCols) :
    columnOf (Column.label column).toList = .ok column := by
  rw [columnOf, String.ofList_toList]
  exact Column.ofLabel_label (Nat.lt_trans h (by decide))

theorem columnOf_fold_label {column : Nat} (h : column < Grid.maxCols) :
    columnOf (Text.fold (Column.label column).toList) = .ok column := by
  rcases (columnOf_fold (Column.label column).toList).cases with
    ⟨_, hfold, hread⟩ | ⟨_, _, -, he, -⟩
  · rw [columnOf_label h] at hread
    cases hread
    exact hfold
  · rw [columnOf_label h] at he
    cases he

/-! ### One kind after the other -/

/-- The sentence is found for every position; whether there can be such a cell is left to the
reading of its address. -/
theorem ofText_sentence_address {target : Coord} {x : String} (hx : IsLine x) :
    ofText (setCell target x).sentence
      = (Coord.ofParts (Column.label target.col) (toString (target.row + 1))).map
          fun target => setCell target x := by
  have hlabel := Column.isWord_label target.col
  have hnumber := Row.isWord_toString (target.row + 1)
  have hdigits := Row.isRun_toString (target.row + 1)
  have hsaid : ∀ address : String, (s!"set cell {address} to {x}").toList
      = spaced ["set".toList, "cell".toList, address.toList, "to".toList] x.toList := by
    intro address
    simp [toString]
  have hend := (follows_line hx).word ["to", "as"] "to" (by decide)
  have hrow' := hend.operand_space .digits hdigits hnumber (by decide)
  -- the letters end where the digits start
  have hcell := hrow'.operand_before .letters (Column.isRun_label target.col) hlabel (by
    rw [List.flatten_cons, List.append_assoc, head?_append_of_ne_nil hnumber.1]
    exact fun c hc => isAlpha_of_isDigit (hdigits.2 c (List.mem_of_mem_head? hc)))
  have hall := (hcell.word ["cell"] "cell" (by decide)).word ["set", "update"] "set" (by decide)
  refine (ofText_of_follows .setCell (hsaid target.a1) ?_ hx.ne_nil hx.trim_eq ?_ hall
    (by simp [IntentKind.all])).trans ?_
  · simp only [List.forall_mem_cons, Coord.toList_a1]
    exact ⟨by decide, by decide, hlabel.append hnumber, by decide, by simp⟩
  · simp [IntentKind.input, Coord.toList_a1]
  · simp only [ofSegments, String.ofList_toList]
    cases Coord.ofParts (Column.label target.col) (toString (target.row + 1)) <;> rfl

theorem ofText_sentence_setCell {target : Coord} {x : String}
    (h : (setCell target x).Speakable) :
    ofText (setCell target x).sentence = .ok (setCell target x) := by
  obtain ⟨hcol, hrow, hx⟩ := h
  rw [ofText_sentence_address hx, Coord.ofParts_a1 hrow (Nat.lt_trans hcol (by decide))]
  rfl

section Adjust

variable {action : Adjustment} {column : Nat} {x : List Char}

/-- The words before an amount. -/
def adjustWords (action : Adjustment) (column : Nat) : List (List Char) :=
  [] ++ action.word.toList :: "column".toList :: [(Column.label column).toList, "by".toList]

theorem quiet_adjustWords (action : Adjustment) (hcolumn : column < Grid.maxCols) :
    ∀ w ∈ [] ++ action.word.toList :: [(Column.label column).toList, "by".toList], Quiet w := by
  have haction : Quiet action.word.toList := by cases action <;> decide
  simp only [List.nil_append, List.forall_mem_cons]
  exact ⟨haction, quiet_label hcolumn, by decide, by simp⟩

theorem inSmallLetters_word (action : Adjustment) : InSmallLetters action.word.toList := by
  cases action <;> decide

/-- The same words in lower case. -/
def lowerWords (action : Adjustment) (column : Nat) : List (List Char) :=
  [action.word.toList, "column".toList, Text.fold (Column.label column).toList, "by".toList]

theorem input_adjustWords (hlower : lower x = x) :
    IntentKind.adjustColumn.input (spaced (adjustWords action column) x)
      = spaced (lowerWords action column) x := by
  have hnoun : lower "column".toList = "column".toList := lower_of_inSmallLetters (by decide)
  have hby : lower "by".toList = "by".toList := lower_of_inSmallLetters (by decide)
  show lower (spaced _ _) = _
  rw [lower_spaced, hlower]
  simp only [adjustWords, lowerWords, List.nil_append, List.map_cons, List.map_nil,
    lower_of_inSmallLetters (inSmallLetters_word action), lower_label, hnoun, hby]

theorem isLower_of_mem_fold_label {c : Char} (h : c ∈ Text.fold (Column.label column).toList) :
    c.isLower := by
  obtain ⟨d, hd, rfl⟩ := List.mem_map.1 h
  exact isLower_toLower (Column.isAlpha_of_mem_label hd)

theorem isWord_fold_label (column : Nat) : IsWord (Text.fold (Column.label column).toList) :=
  isWord_of_isAlpha ⟨by simp [(Column.isWord_label column).1], fun _ hc =>
    isAlpha_of_isLower (isLower_of_mem_fold_label hc)⟩

theorem isWord_lowerWords (action : Adjustment) (column : Nat) :
    ∀ w ∈ lowerWords action column, IsWord w := by
  have haction : IsWord action.word.toList := by cases action <;> decide
  simp only [lowerWords, List.forall_mem_cons]
  exact ⟨haction, by decide, isWord_fold_label column, by decide, by simp⟩

/-- An amount is taken as far as it goes. -/
theorem ofText_adjustColumn {text : String} {t u : List Char}
    (htext : text.toList = spaced (adjustWords action column) (t ++ u))
    (hcolumn : column < Grid.maxCols) (htrim : trim (t ++ u) = t ++ u)
    (hlower : lower (t ++ u) = t ++ u) (hx : WithoutNouns (t ++ u))
    (ht : IsRun (Operand.amount.accepts false) t)
    (hu : ∀ c ∈ u.head?, Operand.amount.accepts false c = false) :
    ofText text = .ok (adjustColumn action column (String.ofList t)) := by
  have hverb : Unmistaken false (Adjustment.all.map Adjustment.word) action.word := by
    cases action <;> decide
  have hlabel := isWord_fold_label column
  have hblank : ∀ c ∈ t.head?, isBlank c = false := by
    intro c hc
    refine (trim_eq_self_iff.1 htrim).1 c ?_
    rwa [head?_append_of_ne_nil ht.1]
  have hamount := (Follows.operand ht hu hblank).word ["by", "with"] "by" (by decide)
  have hletters := hamount.operand_space .letters
    ⟨hlabel.1, fun c hc => isLower_of_mem_fold_label hc⟩ hlabel (by decide)
  have hall := (hletters.word ["column"] "column" (by decide)).word _ action.word hverb
  refine (ofText_of_quiet .adjustColumn htext (by simp [ht.1]) htrim hx
    (quiet_adjustWords action hcolumn) (inSmallLetters_word action) ?_
    (fun hmem => absurd hmem (by decide)) ?_ hall).trans ?_
  · cases action <;> decide
  · exact (input_adjustWords hlower).trans (by simp [lowerWords])
  · simp only [ofSegments, String.ofList_toList, Adjustment.ofWord?_word]
    rw [columnOf_fold_label hcolumn]
    rfl

end Adjust

theorem toList_sentence_adjustColumn (action : Adjustment) (column : Nat) (x : String) :
    (adjustColumn action column x).sentence.toList
      = spaced (adjustWords action column) x.toList := by
  have hsaid : ∀ verb c : String, (s!"{verb} column {c} by {x}").toList
      = spaced [verb.toList, "column".toList, c.toList, "by".toList] x.toList := by
    intro verb c
    simp [toString]
  exact hsaid action.word (Column.label column)

theorem ofText_sentence_adjustColumn {action : Adjustment} {column : Nat} {x : String}
    (h : (adjustColumn action column x).Speakable) :
    ofText (adjustColumn action column x).sentence = .ok (adjustColumn action column x) := by
  obtain ⟨hcolumn, hx, hnouns, hchars⟩ := h
  have hlower : lower x.toList = x.toList :=
    lower_eq_self (fun c hc => (isAmountChar_spec (hchars c hc)).1)
      fun c hc => (isAmountChar_spec (hchars c hc)).2.1
  have hsaid := toList_sentence_adjustColumn action column x
  rw [← List.append_nil x.toList] at hsaid
  have hrun : IsRun (Operand.amount.accepts false) x.toList :=
    ⟨hx.ne_nil, fun c hc => (isAmountChar_spec (hchars c hc)).2.2⟩
  refine (ofText_adjustColumn hsaid hcolumn (by simpa using hx.trim_eq) (by simpa using hlower)
    (by simpa using hnouns) hrun (by simp)).trans ?_
  rw [String.ofList_toList]

/-- A label is too short for a word. -/
theorem not_minus_label {column : Nat} (h : column < Grid.maxCols) :
    ¬"minus".toList <:+: lower (Column.label column).toList := by
  intro hinfix
  have hlength := hinfix.length_le
  have hlabel := length_label h
  have hminus : "minus".toList.length = 5 := rfl
  rw [lower_label, length_fold] at hlength
  omega

section Sum

variable {noun connective : String} {target left right : Nat}

/-- The words of a sum or a difference, but for the last column. -/
def sumWords (noun connective : String) (target left : Nat) : List (List Char) :=
  [] ++ "add".toList :: "column".toList :: [(Column.label target).toList, "as".toList, noun.toList,
    "of".toList, (Column.label left).toList, connective.toList]

/-- A noun and a connective that are read as they are said. -/
structure IsSum (noun connective : String) : Prop where
  noun_taken : Unmistaken true ["sum", "total", "difference", "value"] noun
  noun_quiet : Quiet noun.toList
  noun_small : InSmallLetters noun.toList
  noun_silent : ¬"minus".toList <:+: noun.toList
  connective_taken : Unmistaken true ["and", "minus"] connective
  connective_quiet : Quiet connective.toList
  connective_small : InSmallLetters connective.toList

variable (hsum : IsSum noun connective) (htarget : target < Grid.maxCols)
  (hleft : left < Grid.maxCols)
include hsum htarget hleft

theorem quiet_sumWords : ∀ w ∈ [] ++ "add".toList :: [(Column.label target).toList, "as".toList,
    noun.toList, "of".toList, (Column.label left).toList, connective.toList], Quiet w := by
  simp only [List.nil_append, List.forall_mem_cons]
  exact ⟨by decide, quiet_label htarget, by decide, hsum.noun_quiet, by decide, quiet_label hleft,
    hsum.connective_quiet, by simp⟩

variable (hright : right < Grid.maxCols)
include hright

/-- Only the connective can mention the difference. -/
theorem mentionsMinus_sumWords :
    mentionsMinus (spaced (sumWords noun connective target left) (Column.label right).toList) = true
      ↔ "minus".toList <:+: connective.toList := by
  have hword : ∀ w ∈ sumWords noun connective target left, IsWord w :=
    IntentKind.isWord_of_quiet (quiet_sumWords hsum htarget hleft)
  have hsilent : ∀ {w : List Char}, InSmallLetters w → ¬"minus".toList <:+: w →
      ¬"minus".toList <:+: lower w := fun hw hminus => by rwa [lower_of_inSmallLetters hw]
  have hadd := hsilent (w := "add".toList) (by decide) (by decide)
  have hcolumn := hsilent (w := "column".toList) (by decide) (by decide)
  have has := hsilent (w := "as".toList) (by decide) (by decide)
  have hof := hsilent (w := "of".toList) (by decide) (by decide)
  have hnoun := hsilent hsum.noun_small hsum.noun_silent
  rw [mentionsMinus_iff, words_spaced hword, words_of_isWord (Column.isWord_label right)]
  simp only [sumWords, List.nil_append, List.cons_append, List.mem_cons, List.not_mem_nil, or_false,
    exists_eq_or_imp, exists_eq_left, hadd, hcolumn, has, hof, hnoun, not_minus_label htarget,
    not_minus_label hleft, not_minus_label hright, lower_of_inSmallLetters hsum.connective_small,
    false_or]

/-- A sum or a difference, depending on the connective. -/
theorem ofText_addColumn {text : String} {subtract : Bool}
    (htext : text.toList = spaced (sumWords noun connective target left)
      (Column.label right).toList)
    (hsubtract : subtract = true ↔ "minus".toList <:+: connective.toList) :
    ofText text = .ok (addColumn target left right subtract) := by
  have hlabel := Column.isWord_label right
  have hend := (follows_label right).word ["and", "minus"] connective hsum.connective_taken
  have hof := ((hend.label left).word ["of"] "of" (by decide)).word
    ["sum", "total", "difference", "value"] noun hsum.noun_taken
  have hall := (((hof.word ["as", "with"] "as" (by decide)).label target).word ["column"] "column"
    (by decide)).word ["add"] "add" (by decide)
  refine (ofText_of_quiet .addColumn htext hlabel.1 (trim_of_isWord hlabel)
    (withoutNouns_label hright) (quiet_sumWords hsum htarget hleft) (by decide) (by decide)
    (fun hmem => absurd hmem (by decide)) ?_ hall).trans ?_
  · simp [IntentKind.input]
  · simp only [ofSegments]
    rw [columnOf_label htarget, columnOf_label hleft, columnOf_label hright]
    have hminus : mentionsMinus (spaced (sumWords noun connective target left)
        (Column.label right).toList) = subtract := by
      rw [Bool.eq_iff_iff, mentionsMinus_sumWords hsum htarget hleft hright, hsubtract]
    rw [← hminus]
    refine congrArg (fun s => Except.ok (addColumn target left right (mentionsMinus s))) ?_
    simp [sumWords]

end Sum

theorem ofText_sentence_addColumn {target left right : Nat} {subtract : Bool}
    (h : (addColumn target left right subtract).Speakable) :
    ofText (addColumn target left right subtract).sentence
      = .ok (addColumn target left right subtract) := by
  obtain ⟨htarget, hleft, hright⟩ := h
  cases subtract with
  | false =>
    have hsaid : ∀ a b c : String, (s!"add column {a} as sum of {b} and {c}").toList
        = spaced ["add".toList, "column".toList, a.toList, "as".toList, "sum".toList,
          "of".toList, b.toList, "and".toList] c.toList := by
      intro a b c
      simp [toString]
    exact ofText_addColumn ⟨by decide, by decide, by decide, by decide, by decide, by decide,
      by decide⟩ htarget hleft hright (hsaid _ _ _) (by decide)
  | true =>
    have hsaid : ∀ a b c : String, (s!"add column {a} as value of {b} minus {c}").toList
        = spaced ["add".toList, "column".toList, a.toList, "as".toList, "value".toList,
          "of".toList, b.toList, "minus".toList] c.toList := by
      intro a b c
      simp [toString]
    exact ofText_addColumn ⟨by decide, by decide, by decide, by decide, by decide, by decide,
      by decide⟩ htarget hleft hright (hsaid _ _ _) (by decide)

theorem ofText_sentence_fillColumn {column : Nat} {x : String}
    (h : (fillColumn column x).Speakable) :
    ofText (fillColumn column x).sentence = .ok (fillColumn column x) := by
  obtain ⟨hcolumn, hx, hnouns⟩ := h
  have hsaid : ∀ c : String, (s!"fill cells in column {c} with {x}").toList
      = spaced (["fill".toList, "cells".toList] ++ "in".toList :: "column".toList ::
        [c.toList, "with".toList]) x.toList := by
    intro c
    simp [toString]
  have hplace := (((follows_line hx).word ["with", "using"] "with" (by decide)).label column).word
    ["column"] "column" (by decide)
  have hcells := (hplace.maybe "in" (by decide)).word ["cells", "cell"] "cells" (by decide)
  have hall := (hcells.missing "empty" (by
    rw [List.flatten_cons, List.append_assoc]
    exact wordHead?_append_eq_none (by decide) _)).word ["fill"] "fill" (by decide)
  refine (ofText_of_quiet .fillColumn (hsaid _) hx.ne_nil hx.trim_eq hnouns ?_ (by decide)
    (by decide) (fun hmem => absurd hmem (by decide)) ?_ hall).trans ?_
  · simp only [List.cons_append, List.nil_append, List.forall_mem_cons]
    exact ⟨by decide, by decide, by decide, quiet_label hcolumn, by decide, by simp⟩
  · simp [IntentKind.input]
  · simp only [ofSegments, String.ofList_toList]
    rw [columnOf_label hcolumn]
    rfl

theorem ofText_sentence_renameColumn {column : Nat} {x : String}
    (h : (renameColumn column x).Speakable) :
    ofText (renameColumn column x).sentence = .ok (renameColumn column x) := by
  obtain ⟨hcolumn, hx, hnouns⟩ := h
  have hsaid : ∀ c : String, (s!"rename column {c} to {x}").toList
      = spaced ([] ++ "rename".toList :: "column".toList :: [c.toList, "to".toList]) x.toList := by
    intro c
    simp [toString]
  have hall := ((((follows_line hx).word ["to", "as"] "to" (by decide)).label column).word
    ["column"] "column" (by decide)).word ["rename"] "rename" (by decide)
  refine (ofText_of_quiet .renameColumn (hsaid _) hx.ne_nil hx.trim_eq hnouns ?_ (by decide)
    (by decide) ?_ ?_ hall).trans ?_
  · simp only [List.nil_append, List.forall_mem_cons]
    exact ⟨by decide, quiet_label hcolumn, by decide, by simp⟩
  · simp only [List.nil_append, List.forall_mem_cons]
    exact fun _ => ⟨by decide, withoutNouns_label hcolumn "cell" (by simp), by decide, by simp⟩
  · simp [IntentKind.input]
  · simp only [ofSegments, hx.trim_eq, String.ofList_toList]
    rw [columnOf_label hcolumn]
    rfl

theorem ofText_sentence_clearColumn {column : Nat} (h : (clearColumn column).Speakable) :
    ofText (clearColumn column).sentence = .ok (clearColumn column) := by
  have hlabel := Column.isWord_label column
  have hsaid : ∀ c : String, (s!"clear column {c}").toList
      = spaced ([] ++ "clear".toList :: "column".toList :: []) c.toList := by
    intro c
    simp [toString]
  have hall := ((follows_label column).word ["column"] "column" (by decide)).word ["clear"] "clear"
    (by decide)
  refine (ofText_of_quiet .clearColumn (hsaid _) hlabel.1 (trim_of_isWord hlabel)
    (withoutNouns_label h) (by decide) (by decide) (by decide) (by decide) ?_ hall).trans ?_
  · simp [IntentKind.input]
  · simp only [ofSegments]
    rw [columnOf_label h]
    rfl

/-- **Every edit can be said.**  The sentence of an edit whose operands can be said is read as this
edit. -/
theorem ofText_sentence {intent : Intent} (h : intent.Speakable) :
    ofText intent.sentence = .ok intent := by
  cases intent with
  | setCell target x => exact ofText_sentence_setCell h
  | adjustColumn action column x => exact ofText_sentence_adjustColumn h
  | addColumn target left right subtract => exact ofText_sentence_addColumn h
  | fillColumn column x => exact ofText_sentence_fillColumn h
  | renameColumn column x => exact ofText_sentence_renameColumn h
  | clearColumn column => exact ofText_sentence_clearColumn h

/-- Labels that are spelled like the words between them. -/
theorem ofText_sentence_labels_like_words :
    (addColumn 44 1043 534 false).Speakable ∧
      ofText "add column AS as sum of AND and TO" = .ok (addColumn 44 1043 534 false) := by
  have hspeakable : (addColumn 44 1043 534 false).Speakable := ⟨by decide, by decide, by decide⟩
  have hsentence : (addColumn 44 1043 534 false).sentence
      = "add column AS as sum of AND and TO" := by decide +kernel
  exact ⟨hspeakable, hsentence ▸ ofText_sentence hspeakable⟩

end Intent

end GridTalk
