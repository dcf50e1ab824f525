import GridTalk.Intent.Reading
import GridTalk.Proofs.Phrase.Search
import Mathlib.Data.List.TakeWhile

/-!
# The classification of instructions

Each kind of edit has a phrase, and so a language.  The kinds are tried in a fixed order, and the
first one of whose language a part of the instruction is found decides, even if the operands turn
out to be unusable.

* `IntentKind.input`: where the phrase of each kind is looked for.
* `IntentKind.Chosen`: which kind decides, and which finding.
* `Intent.HasOperands`, `IntentKind.Refuses`: the edit that a finding asks for, and the errors that
  it can lead to; `Intent.answers_ofSegments` says that there is nothing else.
* `Intent.answers_ofText`: what an instruction asks for.
-/

namespace GridTalk

open Text

/-! ### What decides -/

/-- What the phrase of each kind is looked for in, for an instruction without blanks at its ends. -/
def IntentKind.input (kind : IntentKind) (s : List Char) : List Char :=
  if kind = adjustColumn then lower s else s

/-- A kind is chosen when its phrase occurs and no phrase that is tried before does.  The finding is
the one that counts. -/
structure IntentKind.Chosen (s : List Char) (kind : IntentKind) (f : Finding) : Prop where
  isFirst : kind.phrase.IsFirst (kind.input s) f
  none_before : ∃ tried left, IntentKind.all = tried ++ kind :: left ∧
    ∀ k ∈ tried, ∀ t ∈ k.phrase.language, ¬t <:+: k.input s

/-- What the operands of one sort have taken, from left to right. -/
def Phrase.taken (p : Phrase) (k : Operand) (f : Finding) : List (List Char) :=
  (p.pieces.zip f.segments).filterMap fun (piece, t) => if piece = .operand k then some t else none

/-- What an operand has taken is one of the segments. -/
theorem Phrase.mem_segments_of_mem_taken {p : Phrase} {k : Operand} {f : Finding} {t : List Char}
    (h : t ∈ p.taken k f) : t ∈ f.segments := by
  obtain ⟨⟨piece, u⟩, hmem, hu⟩ := List.mem_filterMap.1 h
  obtain ⟨-, hsome⟩ := Option.ite_none_right_eq_some.1 hu
  obtain rfl := Option.some.inj hsome
  exact (List.of_mem_zip hmem).2

/-- The edit has the operands that its phrase has taken. -/
def Intent.HasOperands (intent : Intent) (f : Finding) : Prop :=
  let taken := fun k => intent.kind.phrase.taken k f
  match intent with
  | setCell target expression => ∃ letters digits,
      taken .letters = [letters] ∧ taken .digits = [digits] ∧ taken .line = [expression.toList] ∧
        Coord.ofParts (String.ofList letters) (String.ofList digits) = .ok target
  | adjustColumn action column amount => ∃ letters,
      f.segments.head? = some action.word.toList ∧ taken .letters = [letters] ∧
        taken .amount = [amount.toList] ∧ columnOf letters = .ok column
  | addColumn target left right subtract => ∃ letters letters' letters'',
      taken .letters = [letters, letters', letters''] ∧ columnOf letters = .ok target ∧
        columnOf letters' = .ok left ∧ columnOf letters'' = .ok right ∧
        (subtract = true ↔ "minus".toList <:+: lower f.text)
  | fillColumn column expression => ∃ letters,
      taken .letters = [letters] ∧ taken .line = [expression.toList] ∧ columnOf letters = .ok column
  | renameColumn column title => ∃ letters line,
      taken .letters = [letters] ∧ taken .line = [line] ∧ title = String.ofList (trim line) ∧
        columnOf letters = .ok column
  | clearColumn column => ∃ letters, taken .letters = [letters] ∧ columnOf letters = .ok column

/-- The error is that of an address among the operands of the phrase which cannot exist. -/
def IntentKind.Refuses (kind : IntentKind) (f : Finding) (e : SheetError) : Prop :=
  (∃ t ∈ kind.phrase.taken .letters f, columnOf t = .error e ∧ e = .column (String.ofList t)) ∨
    ∃ t ∈ kind.phrase.taken .digits f,
      Row.ofNumber (String.ofList t) = .error e ∧ e = .row (String.ofList t)

theorem hasInfix_iff {w s : List Char} : hasInfix w s = true ↔ w <:+: s := by
  induction s with
  | nil => simp [hasInfix]
  | cons c r ih =>
    rw [hasInfix, Bool.or_eq_true, ih, List.isPrefixOf_iff_prefix, List.infix_cons_iff]

theorem columnOf_error {letters : List Char} {e : SheetError} (h : columnOf letters = .error e) :
    e = .column (String.ofList letters) := Column.ofLabel_error h

/-- Without `anyCase` a word spells itself only. -/
theorem eq_of_spellsWord {w s : List Char} (h : spellsWord false w s = true) : s = w := by
  rw [spellsWord, Bool.and_eq_true, beq_iff_eq, List.all_eq_true] at h
  obtain ⟨hlength, hall⟩ := h
  refine (List.ext_getElem hlength fun i hi hi' => ?_).symm
  have hagree := hall (w[i], s[i]) (List.mem_iff_getElem.2 ⟨i, by simp [hi, hi'], by simp⟩)
  exact (beq_iff_eq.1 hagree).symm

/-- An instruction without blanks at its ends. -/
def Instruction.ofTrimmed (s : List Char) : Instruction :=
  ⟨String.ofList s, String.ofList (lower s)⟩

namespace Intent

variable {s : List Char} {kind : IntentKind} {f : Finding}

/-- The outcome that the segments of a finding have to give. -/
def Answers (kind : IntentKind) (f : Finding) (result : Except SheetError Intent) : Prop :=
  (∃ intent, result = .ok intent ∧ intent.kind = kind ∧ intent.HasOperands f) ∨
    ∃ e, result = .error e ∧ kind.Refuses f e

theorem Answers.ok (intent : Intent) (h : intent.HasOperands f) :
    Answers intent.kind f (.ok intent) :=
  .inl ⟨intent, rfl, rfl, h⟩

/-- A column among the operands is read, or the error is that of its letters. -/
theorem Answers.bind_columnOf {letters : List Char} {next : Nat → Except SheetError Intent}
    (ht : letters ∈ kind.phrase.taken .letters f)
    (h : ∀ column, columnOf letters = .ok column → Answers kind f (next column)) :
    Answers kind f (columnOf letters >>= next) := by
  cases hcolumn : columnOf letters with
  | error e => exact .inr ⟨e, rfl, .inl ⟨letters, ht, hcolumn, columnOf_error hcolumn⟩⟩
  | ok column => exact h column hcolumn

/-- Where a phrase is found the instruction is recognized. -/
theorem Answers.ne_unrecognized {result : Except SheetError Intent} (h : Answers kind f result)
    {text : String} : result ≠ .error (.unrecognized text) := by
  rintro rfl
  rcases h with ⟨_, hok, -⟩ | ⟨e, herror, ⟨_, -, -, he⟩ | ⟨_, -, -, he⟩⟩
  · cases hok
  · cases herror.trans (congrArg Except.error he)
  · cases herror.trans (congrArg Except.error he)

/-- Letters and digits are read as a position, or the error is that of one of them. -/
theorem Answers.bind_ofParts {letters digits : List Char} {next : Coord → Except SheetError Intent}
    (hletters : letters ∈ kind.phrase.taken .letters f)
    (hdigits : digits ∈ kind.phrase.taken .digits f)
    (h : ∀ target, Coord.ofParts (String.ofList letters) (String.ofList digits) = .ok target →
      Answers kind f (next target)) :
    Answers kind f (Coord.ofParts (String.ofList letters) (String.ofList digits) >>= next) := by
  cases htarget : Coord.ofParts (String.ofList letters) (String.ofList digits) with
  | ok target => exact h target htarget
  | error e =>
    refine .inr ⟨e, rfl, ?_⟩
    rcases Coord.ofParts_eq_error htarget with ⟨hcolumn, he⟩ | ⟨hrow, he⟩
    · exact .inl ⟨letters, hletters, hcolumn, he⟩
    · exact .inr ⟨digits, hdigits, hrow, he⟩

/-- A verb that is found is one of those of `Adjustment`. -/
theorem exists_verb {verb : List Char} {segments : List (List Char)}
    (h : List.Forall₂ (Piece.Spelled false) IntentKind.adjustColumn.phrase.pieces
      (verb :: segments)) : ∃ action : Adjustment, verb = action.word.toList := by
  cases h with
  | cons hspelled _ =>
    obtain ⟨w, hw, hspells⟩ := hspelled
    obtain ⟨action, -, rfl⟩ := List.mem_map.1 hw
    exact ⟨action, eq_of_spellsWord hspells⟩

/-- A finding leads to the edit that has its operands, or to the error of one of them. -/
theorem answers_ofSegments (h : kind.phrase.Occurs s f) :
    Answers kind f (ofSegments kind f.segments) := by
  obtain ⟨before, segments, after⟩ := f
  have hlength := h.spelled.length_eq
  -- with as many segments as the phrase has pieces, the operands can be read off their places
  have htext : ∀ t : List Char, [t] = [(String.ofList t).toList] := by simp
  cases kind with
  | setCell =>
    match segments, hlength with
    | [_, _, _, _, letters, digits, _, _, _, expression], _ =>
      refine .bind_ofParts (List.mem_singleton_self letters) (List.mem_singleton_self digits)
        fun target htarget => ?_
      exact .ok (.setCell target _) ⟨letters, digits, rfl, rfl, htext expression, htarget⟩
  | adjustColumn =>
    match segments, hlength with
    | [verb, _, _, _, letters, _, _, _, amount], _ =>
      obtain ⟨action, rfl⟩ := exists_verb h.spelled
      simp only [ofSegments, String.ofList_toList, Adjustment.ofWord?_word]
      refine .bind_columnOf (List.mem_singleton_self letters) fun column hcolumn => ?_
      exact .ok (.adjustColumn action column _) ⟨letters, rfl, rfl, htext amount, hcolumn⟩
  | addColumn =>
    match segments, hlength with
    | [_, _, _, _, target, _, _, _, _, _, _, _, left, _, _, _, right], _ =>
      have hmem : ∀ t ∈ [target, left, right], t ∈ [target, left, right] := fun _ ht => ht
      refine .bind_columnOf (hmem target (by simp)) fun target' htarget => ?_
      refine .bind_columnOf (hmem left (by simp)) fun left' hleft => ?_
      refine .bind_columnOf (hmem right (by simp)) fun right' hright => ?_
      exact .ok (.addColumn target' left' right' _)
        ⟨target, left, right, rfl, htarget, hleft, hright, hasInfix_iff⟩
  | fillColumn =>
    match segments, hlength with
    | [_, _, _, _, _, _, _, _, letters, _, _, _, expression], _ =>
      refine .bind_columnOf (List.mem_singleton_self letters) fun column hcolumn => ?_
      exact .ok (.fillColumn column _) ⟨letters, rfl, htext expression, hcolumn⟩
  | renameColumn =>
    match segments, hlength with
    | [_, _, _, _, letters, _, _, _, title], _ =>
      refine .bind_columnOf (List.mem_singleton_self letters) fun column hcolumn => ?_
      exact .ok (.renameColumn column _) ⟨letters, title, rfl, rfl, rfl, hcolumn⟩
  | clearColumn =>
    match segments, hlength with
    | [_, _, _, _, letters], _ =>
      refine .bind_columnOf (List.mem_singleton_self letters) fun column hcolumn => ?_
      exact .ok (.clearColumn column) ⟨letters, rfl, hcolumn⟩

/-! ### The kinds in their order -/

theorem find?_ofTrimmed (s : List Char) (kind : IntentKind) :
    find? (.ofTrimmed s) kind = (kind.phrase.search? (kind.input s)).map (kind, ·) := by
  have hsource : (kind.source (.ofTrimmed s)).toList = kind.input s := by
    cases kind <;> exact String.toList_ofList
  rw [find?, hsource]

theorem mem_all (kind : IntentKind) : kind ∈ IntentKind.all := by cases kind <;> decide

/-- The phrase that is found in an instruction is that of the kind which is chosen. -/
theorem findSome?_eq_some_iff :
    IntentKind.all.findSome? (find? (.ofTrimmed s)) = some (kind, f) ↔ kind.Chosen s f := by
  have hnone : ∀ k, find? (.ofTrimmed s) k = none ↔ ∀ t ∈ k.phrase.language, ¬t <:+: k.input s := by
    intro k
    rw [find?_ofTrimmed, Option.map_eq_none_iff, Phrase.search?_eq_none_iff]
  rw [List.findSome?_eq_some_iff]
  constructor
  · rintro ⟨tried, k, left, hall, hfound, htried⟩
    rw [find?_ofTrimmed] at hfound
    obtain ⟨_, hsearch, heq⟩ := Option.map_eq_some_iff.1 hfound
    cases heq
    exact ⟨Phrase.search?_eq_some_iff.1 hsearch, tried, left, hall,
      fun k hk => (hnone k).1 (htried k hk)⟩
  · rintro ⟨hfirst, tried, left, hall, htried⟩
    refine ⟨tried, kind, left, hall, ?_, fun k hk => (hnone k).2 (htried k hk)⟩
    rw [find?_ofTrimmed, Phrase.search?_eq_some_iff.2 hfirst]
    rfl

/-- What is chosen can be computed. -/
theorem exists_chosen_of_findSome? {segments : List (List Char)}
    (h : (IntentKind.all.findSome? (find? (.ofTrimmed s))).map
      (fun found => (found.1, found.2.segments)) = some (kind, segments)) :
    ∃ f, kind.Chosen s f ∧ f.segments = segments := by
  obtain ⟨⟨_, f⟩, hfound, heq⟩ := Option.map_eq_some_iff.1 h
  obtain ⟨rfl, hsegments⟩ := Prod.mk.inj heq
  exact ⟨f, findSome?_eq_some_iff.1 hfound, hsegments⟩

theorem findSome?_eq_none_iff :
    IntentKind.all.findSome? (find? (.ofTrimmed s)) = none ↔
      ∀ kind : IntentKind, ∀ t ∈ kind.phrase.language, ¬t <:+: kind.input s := by
  rw [List.findSome?_eq_none_iff]
  refine forall_congr' fun kind => ?_
  rw [find?_ofTrimmed, Option.map_eq_none_iff, Phrase.search?_eq_none_iff]
  exact forall_prop_of_true (mem_all kind)

/-! ### Instructions -/

theorem trim_ne_nil {s : List Char} (h : ∃ c ∈ s, isBlank c = false) : trim s ≠ [] := by
  obtain ⟨c, hc, hblank⟩ := h
  have hstart : s.dropWhile isBlank ≠ [] := by
    intro hnil
    simp [List.dropWhile_eq_nil_iff.1 hnil c hc] at hblank
  intro hnil
  rw [trim, trimEnd, trimStart, List.reverse_eq_nil_iff, List.dropWhile_eq_nil_iff] at hnil
  have hhead := List.head_dropWhile_not isBlank hstart
  rw [hnil _ (List.mem_reverse.2 (List.head_mem hstart))] at hhead
  cases hhead

theorem ofText_of_trim_ne_nil {text : String} (h : trim text.toList ≠ []) :
    ofText text = ofInstruction (.ofTrimmed (trim text.toList)) := by
  have hread : Instruction.ofText text = .ok (.ofTrimmed (trim text.toList)) := by
    rw [Instruction.ofText, if_neg h]
    rfl
  rw [ofText, hread]
  exact pure_bind (Instruction.ofTrimmed (trim text.toList)) ofInstruction

theorem ofText_of_not_blank {text : String} (h : ∃ c ∈ text.toList, isBlank c = false) :
    ofText text = ofInstruction (.ofTrimmed (trim text.toList)) :=
  ofText_of_trim_ne_nil (trim_ne_nil h)

/-- The finding of the kind that is chosen is what is read. -/
theorem ofText_of_chosen {text : String} (hne : trim text.toList ≠ [])
    (h : kind.Chosen (trim text.toList) f) : ofText text = ofSegments kind f.segments := by
  rw [ofText_of_trim_ne_nil hne, ofInstruction, findSome?_eq_some_iff.2 h]

/-- An edit is read from the finding of the kind that is chosen. -/
theorem exists_chosen_of_ofText {text : String} {intent : Intent} (h : ofText text = .ok intent) :
    ∃ f, intent.kind.Chosen (trim text.toList) f ∧ intent.HasOperands f := by
  by_cases hne : trim text.toList = []
  · rw [ofText, Instruction.ofText, if_pos hne] at h
    cases h
  · cases hfound : IntentKind.all.findSome? (find? (.ofTrimmed (trim text.toList))) with
    | none =>
      rw [ofText_of_trim_ne_nil hne, ofInstruction, hfound] at h
      cases h
    | some found =>
      obtain ⟨kind, f⟩ := found
      have hchosen := findSome?_eq_some_iff.1 hfound
      rw [ofText_of_chosen hne hchosen] at h
      rcases answers_ofSegments hchosen.isFirst.occurs with ⟨_, hok, rfl, hoperands⟩ | ⟨e, he, -⟩
      · cases h.symm.trans hok
        exact ⟨f, hchosen, hoperands⟩
      · cases h.symm.trans he

/-- **What an instruction asks for.**  When a part of an instruction that is not blank is in the
language of a phrase, one kind is chosen, with one finding, and the outcome is an edit of this kind
with the operands of the finding, or the error of an address among these operands.  When no part is
in any of the languages, and only then, the instruction is not recognized. -/
theorem answers_ofText (text : String) (h : ∃ c ∈ text.toList, isBlank c = false) :
    let s := trim text.toList
    ((∃ kind : IntentKind, ∃ t ∈ kind.phrase.language, t <:+: kind.input s) →
      ∃! found : IntentKind × Finding, found.1.Chosen s found.2) ∧
    (∀ kind f, IntentKind.Chosen s kind f → Answers kind f (ofText text)) ∧
    ∀ shown, ofText text = .error (.unrecognized shown) ↔ shown = String.ofList s ∧
      ∀ kind : IntentKind, ∀ t ∈ kind.phrase.language, ¬t <:+: kind.input s := by
  intro s
  rw [ofText_of_not_blank h, ofInstruction]
  refine ⟨fun hoccurs => ?_, fun kind f hchosen => ?_, fun shown => ?_⟩
  · cases hfound : IntentKind.all.findSome? (find? (.ofTrimmed s)) with
    | some found =>
      refine ⟨found, findSome?_eq_some_iff.1 hfound, fun found' hfound' => ?_⟩
      rw [findSome?_eq_some_iff.2 hfound'] at hfound
      exact Option.some.inj hfound
    | none =>
      obtain ⟨kind, w, hw, hinfix⟩ := hoccurs
      exact absurd hinfix (findSome?_eq_none_iff.1 hfound kind w hw)
  · rw [findSome?_eq_some_iff.2 hchosen]
    exact answers_ofSegments hchosen.isFirst.occurs
  · rw [← findSome?_eq_none_iff]
    cases hfound : IntentKind.all.findSome? (find? (.ofTrimmed s)) with
    | some found =>
      have hanswers := answers_ofSegments (findSome?_eq_some_iff.1 hfound).isFirst.occurs
      refine ⟨fun hresult => ?_, fun hnone => by cases hnone.2⟩
      exact absurd hresult hanswers.ne_unrecognized
    | none =>
      show Except.error (SheetError.unrecognized (String.ofList s)) = _ ↔ _
      simp [eq_comm]

/-- The phrase for a cell comes second in the text, but is tried first. -/
theorem answers_ofText_two_phrases :
    let text := " rename column b to Net or set cell AA7 to  3 "
    (∃ c ∈ text.toList, isBlank c = false) ∧
      ∃ f, IntentKind.setCell.Chosen (trim text.toList) f ∧
        f.before = "rename column b to Net or ".toList ∧ Answers .setCell f (ofText text) := by
  intro text
  have hletter : ∃ c ∈ text.toList, isBlank c = false := ⟨'r', by decide, by decide⟩
  have hfound : (IntentKind.all.findSome? (find? (.ofTrimmed (trim text.toList)))).map
      (fun found => (found.1, found.2.before))
        = some (.setCell, "rename column b to Net or ".toList) := by decide +kernel
  obtain ⟨⟨kind, f⟩, hchosen, heq⟩ := Option.map_eq_some_iff.1 hfound
  obtain ⟨rfl, hbefore⟩ := Prod.mk.inj heq
  have hchosen := findSome?_eq_some_iff.1 hchosen
  exact ⟨hletter, f, hchosen, hbefore, (answers_ofText text hletter).2.1 _ f hchosen⟩

end Intent

end GridTalk
