import GridTalk.Grid
import GridTalk.Proofs.Address.RoundTrip
import GridTalk.Proofs.Intent.Classification
import GridTalk.Proofs.Phrase.Spelling

/-!
# What an instruction sounds like

All phrases start with two words.  A text in which these two words do not stand one behind the other
cannot have the phrase in it, whatever else is in the text.

* `IntentKind.heard`: a word of an instruction in the letters of the words of a phrase.
* `IntentKind.exists_pair_of_occurs`: where a phrase occurs its verb ends a word, and the next word
  is its noun; `IntentKind.exists_cell_of_occurs` is about the one with words between the two.
* `IntentKind.not_occurs_of_noun`, `IntentKind.not_occurs_behind`: two ways to see that a phrase
  does not occur.
* `IntentKind.noun_not_mem_heard`: a text without the letters of a noun has no word that sounds so.
* `Quiet`: a word that is neither noun; `IntentKind.not_occurs_column` and its companions are about
  sentences of such words in which a column is named once.
-/

namespace GridTalk

open Text

namespace IntentKind

/-- A text in the letters of the words of a phrase. -/
def hear (anyCase : Bool) (t : List Char) : List Char := if anyCase then t.map standsFor else t

/-- A word of an instruction in the letters of the words of this kind's phrase. -/
def heard (kind : IntentKind) (w : List Char) : List Char := hear kind.phrase.anyCase (kind.input w)

/-- What the phrase is about, the second of its words. -/
def noun : IntentKind → String
  | setCell => "cell"
  | _ => "column"

/-- The words that the phrase can start with. -/
def verbs (kind : IntentKind) : List String :=
  match kind.phrase.pieces with
  | .word choices :: _ => choices
  | _ => []

theorem inSmallLetters_noun (kind : IntentKind) : InSmallLetters kind.noun.toList := by
  cases kind <;> decide

theorem withoutSigns_noun (kind : IntentKind) : WithoutSigns kind.noun.toList := by
  cases kind <;> decide

theorem isWord_noun (kind : IntentKind) : IsWord kind.noun.toList := by cases kind <;> decide

theorem inSmallLetters_of_mem_verbs {kind : IntentKind} {v : String} (h : v ∈ kind.verbs) :
    InSmallLetters v.toList ∧ v.toList ≠ [] := by
  have hall : ∀ v ∈ kind.verbs, InSmallLetters v.toList ∧ v.toList ≠ [] := by
    cases kind <;> decide
  exact hall v h

variable {kind : IntentKind} {s t w : List Char} {f : Finding}

theorem hear_append (anyCase : Bool) (s t : List Char) :
    hear anyCase (s ++ t) = hear anyCase s ++ hear anyCase t := by
  cases anyCase
  · rfl
  · exact List.map_append

theorem hear_of_spellsWord {anyCase : Bool} (hw : InSmallLetters w)
    (h : spellsWord anyCase w t = true) : hear anyCase t = w := by
  cases anyCase
  · exact eq_of_spellsWord h
  · exact (spellsWord_iff hw).1 h

theorem isWord_of_spellsWord {anyCase : Bool} (hw : InSmallLetters w) (hne : w ≠ [])
    (h : spellsWord anyCase w t = true) : IsWord t := by
  cases anyCase
  · rw [eq_of_spellsWord h]
    exact isWord_of_isAlpha ⟨hne, fun c hc => isAlpha_of_isLower (hw c hc)⟩
  · exact isWord_of_map_standsFor hw hne ((spellsWord_iff hw).1 h)

theorem words_input (kind : IntentKind) (s : List Char) :
    words (kind.input s) = (words s).map kind.input := by
  by_cases hkind : kind = adjustColumn
  · subst hkind
    exact words_lower s
  · have hinput : ∀ t, kind.input t = t := fun t => if_neg hkind
    rw [hinput, List.map_congr_left fun t _ => hinput t, List.map_id']

/-- The words of the text in which the phrase is looked for. -/
theorem map_hear_words_input (kind : IntentKind) (s : List Char) :
    (words (kind.input s)).map (hear kind.phrase.anyCase) = (words s).map kind.heard := by
  rw [words_input, List.map_map]
  rfl

/-! ### Words that have to be there -/

theorem exists_pieces (h : kind ≠ fillColumn) : ∃ ps,
    kind.phrase.pieces = .word kind.verbs :: .blanks :: .word [kind.noun] :: .blanks :: ps := by
  cases kind with
  | fillColumn => exact absurd rfl h
  | _ => exact ⟨_, rfl⟩

/-- Where a phrase occurs its verb ends a word, and the next word is its noun. -/
theorem exists_pair_of_occurs (hkind : kind ≠ fillColumn)
    (h : kind.phrase.Occurs (kind.input s) f) :
    ∃ q, ∃ v ∈ kind.verbs, [q ++ v.toList, kind.noun.toList] <:+: (words s).map kind.heard := by
  obtain ⟨before, segments, after⟩ := f
  obtain ⟨htext, hspelled⟩ := h
  obtain ⟨ps, hpieces⟩ := exists_pieces hkind
  rw [hpieces] at hspelled
  match segments, hspelled with
  | verb :: b :: noun :: b' :: ts, .cons hverb (.cons hb (.cons hnoun (.cons hb' _))) =>
    obtain ⟨v, hv, hverb⟩ := hverb
    obtain ⟨_, hmem, hnoun⟩ := hnoun
    obtain rfl := List.mem_singleton.1 hmem
    obtain ⟨hsmall, hne⟩ := inSmallLetters_of_mem_verbs hv
    have hsmall' := inSmallLetters_noun kind
    have hword := isWord_of_spellsWord hsmall hne hverb
    have hword' := isWord_of_spellsWord hsmall' (isWord_noun kind).1 hnoun
    obtain ⟨ws, q, hwords⟩ := exists_words_word_append before hword hb
      (noun ++ (b' ++ (ts.flatten ++ after)))
    rw [words_word_append hword' hb'] at hwords
    have htext' : kind.input s
        = before ++ (verb ++ (b ++ (noun ++ (b' ++ (ts.flatten ++ after))))) := by
      rw [htext]
      simp [Finding.text]
    refine ⟨hear kind.phrase.anyCase q, v, hv, ws.map (hear kind.phrase.anyCase),
      (words (ts.flatten ++ after)).map (hear kind.phrase.anyCase), ?_⟩
    rw [← map_hear_words_input, htext', hwords, List.map_append, List.map_cons, List.map_cons,
      hear_append, hear_of_spellsWord hsmall hverb, hear_of_spellsWord hsmall' hnoun]
    simp

/-- Where the phrase for blank cells occurs one of the words is its noun. -/
theorem exists_cell_of_occurs (h : fillColumn.phrase.Occurs s f) :
    ∃ w ∈ words s, "cell".toList <+: w.map standsFor := by
  obtain ⟨before, segments, after⟩ := f
  obtain ⟨htext, hspelled⟩ := h
  match segments, hspelled with
  | fill :: b :: empty :: noun :: b' :: ts,
      .cons _ (.cons hb (.cons hempty (.cons hnoun (.cons hb' _)))) =>
    obtain ⟨v, hv, hnoun⟩ := hnoun
    have hv : InSmallLetters v.toList ∧ v.toList ≠ [] ∧ "cell".toList <+: v.toList := by
      have hall : ∀ v ∈ ["cells", "cell"],
          InSmallLetters v.toList ∧ v.toList ≠ [] ∧ "cell".toList <+: v.toList := by decide
      exact hall v hv
    obtain ⟨hsmall, hne, hcell⟩ := hv
    have hword := isWord_of_spellsWord hsmall hne hnoun
    refine ⟨noun, ?_, ?_⟩
    · have htext' : s
          = (before ++ fill) ++ (b ++ (empty ++ (noun ++ (b' ++ (ts.flatten ++ after))))) := by
        rw [htext]
        simp [Finding.text]
      rw [htext', words_append_gap hb, List.mem_append]
      refine .inr ?_
      rcases hempty with rfl | ⟨t, b'', rfl, -, hb''⟩
      · rw [List.nil_append, words_word_append hword hb']
        exact List.mem_cons_self ..
      · rw [List.append_assoc, words_append_gap hb'', words_word_append hword hb']
        simp
    · rwa [(spellsWord_iff hsmall).1 hnoun]

/-! ### Words that are not there -/

theorem not_occurs_of_noun (hkind : kind ≠ fillColumn)
    (h : kind.noun.toList ∉ (words s).map kind.heard) : ¬kind.phrase.Occurs (kind.input s) f := by
  intro hoccurs
  obtain ⟨q, v, -, hpair⟩ := exists_pair_of_occurs hkind hoccurs
  exact h (hpair.subset (by simp))

theorem eq_of_pair_infix {α : Type} {n v w : α} {as bs : List α} (hbefore : n ∉ as ++ [v])
    (hafter : n ∉ bs) (h : [w, n] <:+: as ++ v :: n :: bs) : w = v := by
  obtain ⟨us, us', heq⟩ := h
  -- the only place of `n` is the one behind `v`
  have hsplit : (as ++ [v]) ++ n :: bs = (us ++ [w]) ++ n :: us' := by simpa using heq.symm
  have hsame := ((List.append_cons_inj_of_notMem hbefore hafter).1 hsplit).1
  exact (List.append_inj_right' hsame rfl |> List.singleton_inj.1).symm

/-- The noun stands only behind a word in which no verb ends. -/
theorem not_occurs_behind (hkind : kind ≠ fillColumn) {as bs : List (List Char)} {v : List Char}
    (hwords : (words s).map kind.heard = as ++ v :: kind.noun.toList :: bs)
    (hbefore : kind.noun.toList ∉ as ++ [v]) (hafter : kind.noun.toList ∉ bs)
    (hv : ∀ u ∈ kind.verbs, ¬u.toList <:+ v) : ¬kind.phrase.Occurs (kind.input s) f := by
  intro hoccurs
  obtain ⟨q, u, hu, hpair⟩ := exists_pair_of_occurs hkind hoccurs
  rw [hwords] at hpair
  exact hv u hu ⟨q, eq_of_pair_infix hbefore hafter hpair⟩

/-! ### How words sound -/

/-- ASCII letters sound as small ones. -/
theorem heard_of_isAlpha (hw : ∀ c ∈ w, c.isAlpha) : kind.heard w = fold w := by
  by_cases hkind : kind = adjustColumn
  · subst hkind
    exact lower_of_ascii fun c hc => lt_of_isAlpha (hw c hc)
  · have hheard : kind.heard w = w.map standsFor := by
      cases kind with
      | adjustColumn => exact absurd rfl hkind
      | _ => rfl
    rw [hheard]
    exact List.map_congr_left fun c hc => standsFor_of_isAlpha (hw c hc)

/-- Small letters sound as they are. -/
theorem heard_of_inSmallLetters (hw : InSmallLetters w) : kind.heard w = w := by
  rw [heard_of_isAlpha fun c hc => isAlpha_of_isLower (hw c hc), fold_of_inSmallLetters hw]

/-- A word that sounds like the noun has its letters. -/
theorem fold_of_heard_eq_noun (h : kind.heard w = kind.noun.toList) :
    fold w = kind.noun.toList := by
  by_cases hkind : kind = adjustColumn
  · subst hkind
    have hlower : lower w = "column".toList := h
    have hsmall : ∀ d ∈ lowerAfter [] w, d.isLower := by
      show ∀ d ∈ lower w, d.isLower
      rw [hlower]
      decide
    refine fold_eq_of_map (withoutSigns_noun _) (fun c d heq hd => ?_)
      ((lowerAfter_eq_map_smallLetter hsmall).2.symm.trans hlower)
    exact toLower_eq_of_smallLetter heq hd.1
  · refine fold_eq_of_map (withoutSigns_noun _) (fun c d => toLower_eq_of_standsFor) (h ▸ ?_)
    cases kind with
    | adjustColumn => exact absurd rfl hkind
    | _ => rfl

/-- A text without the letters of the noun has no word that sounds like it. -/
theorem noun_not_mem_heard (kind : IntentKind) (h : ¬kind.noun.toList <:+: fold s) :
    kind.noun.toList ∉ (words s).map kind.heard := by
  rw [List.mem_map]
  rintro ⟨w, hw, heq⟩
  refine h ?_
  rw [← fold_of_heard_eq_noun heq]
  exact (infix_of_mem_words hw).map _

end IntentKind

/-! ### Words without a noun -/

/-- The text has the letters of neither noun in it, in any case. -/
def WithoutNouns (x : List Char) : Prop := ∀ n ∈ ["cell", "column"], ¬n.toList <:+: fold x

/-- A word of letters that is neither noun. -/
def Quiet (w : List Char) : Prop :=
  w ≠ [] ∧ (∀ c ∈ w, c.isAlpha) ∧ ∀ n ∈ ["cell", "column"], fold w ≠ n.toList

instance (x : List Char) : Decidable (WithoutNouns x) :=
  inferInstanceAs (Decidable (∀ n ∈ ["cell", "column"], _))

instance (w : List Char) : Decidable (Quiet w) := inferInstanceAs (Decidable (_ ∧ _ ∧ _))

theorem Quiet.isWord {w : List Char} (h : Quiet w) : IsWord w :=
  isWord_of_isAlpha ⟨h.1, h.2.1⟩

theorem length_label {column : Nat} (h : column < Grid.maxCols) :
    (Column.label column).toList.length ≤ 3 := by
  rw [Column.toList_label]
  rw [Grid.maxCols] at h
  exact Column.length_letters_le (by omega)

/-- A label is too short for a noun. -/
theorem withoutNouns_label {column : Nat} (h : column < Grid.maxCols) :
    WithoutNouns (Column.label column).toList := by
  intro n hn hinfix
  have hlong : ∀ n ∈ ["cell", "column"], 3 < n.toList.length := by decide
  have hlength := hinfix.length_le
  have hlabel := length_label h
  have hnoun := hlong n hn
  rw [length_fold] at hlength
  omega

theorem quiet_label {column : Nat} (h : column < Grid.maxCols) :
    Quiet (Column.label column).toList :=
  ⟨(Column.isWord_label column).1, fun _ hc => Column.isAlpha_of_mem_label hc,
    fun n hn heq => withoutNouns_label h n hn (heq ▸ List.infix_rfl)⟩

namespace IntentKind

variable {kind : IntentKind} {ws as bs : List (List Char)} {v x : List Char} {f : Finding}

theorem noun_mem (kind : IntentKind) : kind.noun ∈ ["cell", "column"] := by cases kind <;> decide

theorem noun_not_mem_of_quiet (kind : IntentKind) (h : ∀ w ∈ ws, Quiet w) :
    kind.noun.toList ∉ ws.map kind.heard := by
  rw [List.mem_map]
  rintro ⟨w, hw, heq⟩
  obtain ⟨-, halpha, hne⟩ := h w hw
  exact hne _ (noun_mem kind) (heard_of_isAlpha halpha ▸ heq)

section Sentence

/-! In a sentence of quiet words about a column the noun stands in one place. -/

variable (hquiet : ∀ w ∈ as ++ v :: bs, Quiet w) (hx : WithoutNouns x)
include hquiet

theorem isWord_of_quiet : ∀ w ∈ as ++ v :: "column".toList :: bs, IsWord w := by
  intro w hw
  have hmem : w = "column".toList ∨ w ∈ as ++ v :: bs := by
    simp only [List.mem_append, List.mem_cons] at hw ⊢
    tauto
  rcases hmem with rfl | hmem
  · decide
  · exact (hquiet w hmem).isWord

theorem words_of_quiet : words (spaced (as ++ v :: "column".toList :: bs) x)
    = as ++ v :: "column".toList :: (bs ++ words x) := by
  rw [words_spaced (isWord_of_quiet hquiet)]
  simp

include hx

theorem not_occurs_setCell :
    ¬setCell.phrase.Occurs (setCell.input (spaced (as ++ v :: "column".toList :: bs) x)) f := by
  have hsilent := noun_not_mem_of_quiet setCell hquiet
  have hrest := noun_not_mem_heard setCell (hx "cell" (by simp))
  have hcolumn : setCell.heard "column".toList ≠ setCell.noun.toList := by decide
  refine not_occurs_of_noun (by decide) ?_
  rw [words_of_quiet hquiet]
  simp only [List.map_append, List.map_cons, List.mem_append, List.mem_cons, not_or] at hsilent ⊢
  exact ⟨hsilent.1, hsilent.2.1, hcolumn.symm, hsilent.2.2, hrest⟩

/-- Without the letters of a cell nothing is filled. -/
theorem not_occurs_fillColumn (hcell : ∀ w ∈ as ++ v :: bs, ¬"cell".toList <:+: fold w) :
    ¬fillColumn.phrase.Occurs
      (fillColumn.input (spaced (as ++ v :: "column".toList :: bs) x)) f := by
  intro hoccurs
  obtain ⟨w, hw, hprefix⟩ :=
    exists_cell_of_occurs (s := spaced (as ++ v :: "column".toList :: bs) x) hoccurs
  have hletters := (prefix_fold_of_prefix_map (by decide) hprefix).isInfix
  have hmem : w = "column".toList ∨ w ∈ as ++ v :: bs ∨ w ∈ words x := by
    rw [words_of_quiet hquiet] at hw
    simp only [List.mem_append, List.mem_cons] at hw ⊢
    tauto
  rcases hmem with rfl | hmem | hmem
  · exact absurd hletters (by decide)
  · exact hcell w hmem hletters
  · exact hx "cell" (by simp) (hletters.trans ((infix_of_mem_words hmem).map _))

/-- The word before the noun is the only one that could be the verb. -/
theorem not_occurs_column (hkind : kind ≠ setCell) (hfill : kind ≠ fillColumn)
    (hv : InSmallLetters v) (hverb : ∀ u ∈ kind.verbs, ¬u.toList <:+ v) :
    ¬kind.phrase.Occurs (kind.input (spaced (as ++ v :: "column".toList :: bs) x)) f := by
  have hcolumn : kind.noun = "column" := by
    cases kind with
    | setCell => exact absurd rfl hkind
    | _ => rfl
  have hsilent := noun_not_mem_of_quiet kind hquiet
  have hrest := noun_not_mem_heard kind (hx _ (noun_mem kind))
  have hnoun : kind.heard kind.noun.toList = kind.noun.toList :=
    heard_of_inSmallLetters (inSmallLetters_noun kind)
  rw [List.map_append, List.map_cons, List.mem_append, List.mem_cons, not_or, not_or,
    heard_of_inSmallLetters hv] at hsilent
  obtain ⟨has, hne, hbs⟩ := hsilent
  have hwords : (words (spaced (as ++ v :: "column".toList :: bs) x)).map kind.heard
      = as.map kind.heard ++ v :: kind.noun.toList :: (bs.map kind.heard ++
        (words x).map kind.heard) := by
    rw [words_of_quiet hquiet, ← hcolumn]
    simp [heard_of_inSmallLetters hv, hnoun]
  exact not_occurs_behind hfill hwords (by simp [has, hne]) (by simp [hbs, hrest]) hverb

/-- A phrase that is looked for in vain. -/
theorem not_occurs_of_quiet (hv : InSmallLetters v) (hverb : ∀ u ∈ kind.verbs, ¬u.toList <:+ v)
    (hcell : kind = fillColumn → ∀ w ∈ as ++ v :: bs, ¬"cell".toList <:+: fold w) :
    ¬kind.phrase.Occurs (kind.input (spaced (as ++ v :: "column".toList :: bs) x)) f := by
  by_cases hset : kind = setCell
  · subst hset
    exact not_occurs_setCell hquiet hx
  · by_cases hfill : kind = fillColumn
    · subst hfill
      exact not_occurs_fillColumn hquiet hx (hcell rfl)
    · exact not_occurs_column hquiet hx hset hfill hv hverb

end Sentence

end IntentKind

end GridTalk
