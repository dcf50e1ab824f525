import GridTalk.Proofs.LetterCase.Edit
import GridTalk.Proofs.LetterCase.Phrase
import GridTalk.Proofs.Phrase.Search

/-!
# Instructions up to the case of letters

An instruction without quotes does the same in whatever case its letters are typed.  Five of the
phrases are looked for in the text as typed and match in any case; the sixth is looked for in the
text in lower case, which is one text for all spellings.

* `IntentKind.foldFound`: what is found in a folded instruction.
* `Intent.execute_ofSegments_fold`: folded segments ask for an edit with the same result.
* `applyInstruction_fold`: a folded instruction has the same result.
* `applyInstruction_of_fold_eq`: so have two instructions which differ only in the case of letters.
-/

namespace GridTalk

open Text

/-- An instruction with what was typed in lower case. -/
def Instruction.fold (instruction : Instruction) : Instruction :=
  ⟨foldText instruction.typed, instruction.lowered⟩

theorem Instruction.ofText_fold (text : String) :
    ofText (foldText text) = fold <$> ofText text := by
  simp only [ofText, toList_foldText, trim_fold, fold_eq_nil, lower_fold]
  split
  · rfl
  · rw [← foldText_ofList]
    rfl

theorem Instruction.typed_of_ofText {text : String} {instruction : Instruction}
    (h : ofText text = .ok instruction) : instruction.typed = String.ofList (trim text.toList) := by
  dsimp only [ofText] at h
  split at h
  · cases h
  · cases h
    rfl

/-- What is found in a folded instruction, if this is found in the instruction itself. -/
def IntentKind.foldFound (found : IntentKind × Finding) : IntentKind × Finding :=
  if found.1.phrase.anyCase then (found.1, found.2.fold) else found

theorem mentionsMinus_fold (segments : List (List Char)) :
    mentionsMinus (segments.map fold).flatten = mentionsMinus segments.flatten := by
  have hflat : (segments.map fold).flatten = fold segments.flatten := List.map_flatten.symm
  rw [mentionsMinus, mentionsMinus, hflat, lower_fold]

theorem columnOf_fold (letters : List Char) :
    SameResult (columnOf (fold letters)) (columnOf letters) := by
  rw [columnOf, columnOf, ← foldText_ofList]
  exact ofLabel_fold _

namespace Intent

theorem find?_fold (instruction : Instruction) (kind : IntentKind) :
    find? instruction.fold kind = (find? instruction kind).map IntentKind.foldFound := by
  by_cases hcase : kind.phrase.anyCase
  · simp only [find?, IntentKind.source, hcase, if_true, Instruction.fold, toList_foldText,
      search?_fold hcase, Option.map_map]
    congr 1
    funext finding
    simp [IntentKind.foldFound, hcase]
  · simp only [find?, IntentKind.source, hcase, Instruction.fold, Option.map_map]
    congr 1
    funext finding
    simp [IntentKind.foldFound, hcase]

/-- A phrase has to be found with all its pieces. -/
theorem ofSegments_of_length_ne {kind : IntentKind} {segments : List (List Char)}
    (h : segments.length ≠ kind.phrase.pieces.length) :
    ofSegments kind segments = .error (.unrecognized (String.ofList segments.flatten)) := by
  unfold ofSegments
  split
  case h_7 => rfl
  -- the other six patterns have as many segments as their phrases have pieces
  all_goals exact absurd rfl h

/-- Folded segments ask for an edit with the same result. -/
theorem execute_ofSegments_fold {kind : IntentKind} {segments : List (List Char)}
    (hcase : kind.phrase.anyCase) (h : ∀ s ∈ segments, Unquoted s) (g : Grid) :
    SameResult (ofSegments kind (segments.map Text.fold) >>= fun intent => intent.execute g)
      (ofSegments kind segments >>= fun intent => intent.execute g) := by
  have htext : ∀ s ∈ segments, Unquoted (String.ofList s).toList := by
    intro s hs
    rw [String.toList_ofList]
    exact h s hs
  by_cases hlen : segments.length = kind.phrase.pieces.length
  · cases kind with
    | setCell =>
      match segments, hlen with
      | [_, _, _, _, letters, digits, _, _, _, expression], _ =>
        simp only [List.map_cons, List.map_nil, ofSegments, ← foldText_ofList, bind_assoc,
          pure_bind]
        exact (ofParts_fold _ _).bind fun target =>
          execute_fold (show NoQuotes (setCell target _) from htext expression (by simp)) g
    | adjustColumn => cases hcase
    | addColumn =>
      have hminus := mentionsMinus_fold segments
      match segments, hlen with
      | [_, _, _, _, target, _, _, _, _, _, _, _, left, _, _, _, right], _ =>
        simp only [List.map_cons, List.map_nil] at hminus
        simp only [List.map_cons, List.map_nil, ofSegments, hminus, bind_assoc, pure_bind]
        refine (columnOf_fold target).bind fun target => ?_
        refine (columnOf_fold left).bind fun left => ?_
        exact (columnOf_fold right).bind fun right => .refl _
    | fillColumn =>
      match segments, hlen with
      | [_, _, _, _, _, _, _, _, letters, _, _, _, expression], _ =>
        simp only [List.map_cons, List.map_nil, ofSegments, ← foldText_ofList, bind_assoc,
          pure_bind]
        exact (columnOf_fold letters).bind fun column =>
          execute_fold (show NoQuotes (fillColumn column _) from htext expression (by simp)) g
    | renameColumn =>
      match segments, hlen with
      | [_, _, _, _, letters, _, _, _, title], _ =>
        simp only [List.map_cons, List.map_nil, ofSegments, trim_fold, ← foldText_ofList,
          bind_assoc, pure_bind]
        exact (columnOf_fold letters).bind fun column =>
          execute_fold (show NoQuotes (renameColumn column _) from trivial) g
    | clearColumn =>
      match segments, hlen with
      | [_, _, _, _, letters], _ =>
        simp only [List.map_cons, List.map_nil, ofSegments, bind_assoc, pure_bind]
        exact (columnOf_fold letters).bind fun column => .refl _
  · rw [ofSegments_of_length_ne hlen, ofSegments_of_length_ne (by rwa [List.length_map])]
    exact .error rfl

theorem unquoted_of_search? {p : Phrase} {s : List Char} {finding : Finding} (h : Unquoted s)
    (hfound : p.search? s = some finding) : ∀ t ∈ finding.segments, Unquoted t := by
  intro t ht
  refine h.subset fun c hc => ?_
  rw [(Phrase.search?_eq_some_iff.1 hfound).occurs.text_eq]
  exact List.mem_append_left _ (List.mem_append_right _ (List.mem_flatten.2 ⟨t, ht, hc⟩))

theorem execute_ofInstruction_fold {instruction : Instruction}
    (h : Unquoted instruction.typed.toList) (g : Grid) :
    SameResult (ofInstruction instruction.fold >>= fun intent => intent.execute g)
      (ofInstruction instruction >>= fun intent => intent.execute g) := by
  have hfind : IntentKind.all.findSome? (find? instruction.fold)
      = (IntentKind.all.findSome? (find? instruction)).map IntentKind.foldFound := by
    rw [List.map_findSome?]
    congr 1
    exact funext (find?_fold instruction)
  rw [ofInstruction, ofInstruction, hfind]
  cases hfound : IntentKind.all.findSome? (find? instruction) with
  | none => exact .error rfl
  | some found =>
    obtain ⟨kind, finding⟩ := found
    obtain ⟨k, -, hk⟩ := List.exists_of_findSome?_eq_some hfound
    obtain ⟨_, hsearch, heq⟩ := Option.map_eq_some_iff.1 hk
    cases heq
    by_cases hcase : kind.phrase.anyCase
    · rw [IntentKind.source, if_pos hcase] at hsearch
      simp only [Option.map_some, IntentKind.foldFound, hcase, if_true, Finding.fold]
      exact execute_ofSegments_fold hcase (unquoted_of_search? h hsearch) g
    · -- both were found in the text in lower case
      simp only [Option.map_some, IntentKind.foldFound, hcase]
      exact .refl _

end Intent

/-- A folded instruction has the same result. -/
theorem applyInstruction_fold {text : String} (h : Unquoted text.toList) (g : Grid) :
    SameResult (applyInstruction g (foldText text)) (applyInstruction g text) := by
  simp only [applyInstruction, Intent.ofText, bind_assoc, Instruction.ofText_fold, bind_map_left]
  refine .bind_congr fun instruction hread => ?_
  have htyped : Unquoted instruction.typed.toList := by
    rw [Instruction.typed_of_ofText hread, String.toList_ofList]
    exact h.subset (trim_subset _)
  exact Intent.execute_ofInstruction_fold htyped g

/-- **The case of letters makes no difference.**  Two instructions without quotes which differ only
in the case of ASCII letters have the same result, or fail for causes of the same name. -/
theorem applyInstruction_of_fold_eq (g : Grid) {s t : String}
    (h : fold s.toList = fold t.toList) (hs : Unquoted s.toList) (ht : Unquoted t.toList) :
    (∃ edit, applyInstruction g s = .ok edit ∧ applyInstruction g t = .ok edit) ∨
    (∃ e e', applyInstruction g s = .error e ∧ applyInstruction g t = .error e' ∧
      e.code = e'.code) := by
  have hfold : foldText s = foldText t := congrArg String.ofList h
  have hs' := applyInstruction_fold hs g
  rw [hfold] at hs'
  exact (hs'.symm.trans (applyInstruction_fold ht g)).cases

/-- Keywords, the address of the target and that in the expression, each in two spellings. -/
theorem applyInstruction_of_fold_eq_setCell :
    let g := Grid.ofRows [[.text "n", .text "square"], [.number 7]]
    let edit : Edit := ⟨⟨[[.text "n", .text "square"], [.number 7, .number 49]]⟩,
      "Set B2 to 49", .setCell⟩
    applyInstruction g "SET cell B2 to a2 * A2" = .ok edit ∧
      applyInstruction g "set Cell b2 TO A2 * a2" = .ok edit := by
  intro g edit
  have hs : applyInstruction g "SET cell B2 to a2 * A2" = .ok edit := by decide +kernel
  have hsame := applyInstruction_of_fold_eq g
    (s := "SET cell B2 to a2 * A2") (t := "set Cell b2 TO A2 * a2")
    (by decide) (by decide) (by decide)
  rcases hsame with ⟨edit', hs', ht⟩ | ⟨e, e', he, -⟩
  · rw [hs] at hs'
    cases hs'
    exact ⟨hs, ht⟩
  · rw [hs] at he
    cases he

end GridTalk
