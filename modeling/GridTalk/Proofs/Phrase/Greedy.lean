import GridTalk.Proofs.Phrase.Search
import GridTalk.Proofs.Text.Words

/-!
# Texts that are read without going back

If every piece of a phrase finds at its place the segment that it prefers to all others, the phrase
is matched with these segments, and nothing has to be given back.

* `Piece.Takes`: at its place a piece prefers this segment; `takes_run`, `takes_word`,
  `takes_maybe` and `takes_nothing` say when.
* `TakesAll`: so do all pieces of a phrase, one behind the other.
* `search?_of_takesAll`: then the phrase is found at the start of the text.
-/

namespace GridTalk

open Text

/-- Of all segments at the start of a text, which goes on with `r`, the piece prefers this one. -/
def Piece.Takes (anyCase : Bool) (p : Piece) (t r : List Char) : Prop :=
  p.Spelled anyCase t ∧
    ∀ t' r', t ++ r = t' ++ r' → p.Spelled anyCase t' → t' = t ∨ p.Prefers anyCase t t'

/-- Each piece takes the segment that it prefers, and `u` is left. -/
def TakesAll (anyCase : Bool) : List Piece → List (List Char) → List Char → Prop
  | [], [], _ => True
  | p :: ps, t :: ts, u => p.Takes anyCase t (ts.flatten ++ u) ∧ TakesAll anyCase ps ts u
  | _, _, _ => False

section Pieces

variable {anyCase : Bool} {p : Piece} {ps : List Piece} {t r u : List Char} {ts : List (List Char)}

theorem TakesAll.reads (h : TakesAll anyCase ps ts u) :
    Reads anyCase ps (ts.flatten ++ u) ts u := by
  induction ps generalizing ts with
  | nil =>
    match ts, h with
    | [], _ => exact ⟨rfl, .nil⟩
  | cons p ps ih =>
    match ts, h with
    | t :: ts, ⟨htakes, hrest⟩ =>
      refine reads_cons_iff.2 ⟨ts.flatten ++ u, ?_, htakes.1, ih hrest⟩
      rw [List.flatten_cons, List.append_assoc]

/-- No reading is preferred to one in which each piece takes what it prefers. -/
theorem TakesAll.prefersAll (h : TakesAll anyCase ps ts u) {ts' : List (List Char)} {u' : List Char}
    (h' : Reads anyCase ps (ts.flatten ++ u) ts' u') :
    ts' = ts ∨ PrefersAll anyCase ps ts ts' := by
  induction ps generalizing ts ts' with
  | nil =>
    match ts, h with
    | [], _ => exact .inl (List.forall₂_nil_left_iff.1 h'.2)
  | cons p ps ih =>
    match ts, h with
    | t :: ts, ⟨htakes, hrest⟩ =>
      cases h'.2 with
      | @cons _ t' _ ts' _ _ =>
        obtain ⟨r', hs, hspelled, hreads⟩ := reads_cons_iff.1 h'
        rw [List.flatten_cons, List.append_assoc] at hs
        rcases htakes.2 t' r' hs hspelled with rfl | hprefers
        · obtain rfl := List.append_cancel_left hs
          rcases ih hrest hreads with rfl | hprefers
          · exact .inl rfl
          · exact .inr (.inr ⟨rfl, hprefers⟩)
        · exact .inr (.inl hprefers)

theorem matchPieces_of_takesAll (h : TakesAll anyCase ps ts u) :
    matchPieces anyCase ps (ts.flatten ++ u) = some (ts, u) := by
  have hfirst := firstReading_matchPieces anyCase ps (ts.flatten ++ u)
  cases hmatch : matchPieces anyCase ps (ts.flatten ++ u) with
  | none =>
    rw [hmatch] at hfirst
    exact absurd h.reads (hfirst ts u)
  | some m =>
    obtain ⟨ts', u'⟩ := m
    rw [hmatch] at hfirst
    obtain ⟨hreads, hpreferred⟩ := hfirst
    have hsame : ts' = ts := by
      rcases h.prefersAll hreads with hsame | hprefers
      · exact hsame
      · rcases hpreferred ts u h.reads with hsame | hprefers'
        · exact hsame.symm
        · exact absurd hprefers' hprefers.asymm
    subst hsame
    rw [List.append_cancel_left hreads.1]

/-- **A text that is read without going back** is found at its start. -/
theorem search?_of_takesAll {p : Phrase} (h : TakesAll p.anyCase p.pieces ts u) :
    p.search? (ts.flatten ++ u) = some ⟨[], ts, u⟩ :=
  Phrase.search?_eq_some_iff.2 (Phrase.isFirst_of_matchAt? (matchPieces_of_takesAll h))

/-! ### One piece -/

/-- A run is taken whole if it cannot go on. -/
theorem isRun_longest {accepts : Char → Bool} (ht : IsRun accepts t)
    (hr : ∀ c ∈ r.head?, accepts c = false) {t' r' : List Char} (hs : t ++ r = t' ++ r')
    (ht' : IsRun accepts t') : t' = t ∨ Longer t t' := by
  have hrun : (t ++ r).takeWhile accepts = t := by
    rw [List.takeWhile_append_of_pos ht.2]
    cases r with
    | nil => simp
    | cons c r => simp [hr c rfl]
  have hle := ((isRun_prefix_iff hs).1 ht').2
  rw [hrun] at hle
  rcases Nat.lt_or_eq_of_le hle with hlt | heq
  · exact .inr hlt
  · exact .inl (List.append_inj_left hs.symm heq)

theorem takes_operand {k : Operand} (ht : IsRun (k.accepts anyCase) t)
    (hr : ∀ c ∈ r.head?, k.accepts anyCase c = false) : (Piece.operand k).Takes anyCase t r :=
  ⟨ht, fun _ _ hs ht' => isRun_longest ht hr hs ht'⟩

/-- A gap is taken whole if a word follows. -/
theorem takes_blanks (ht : IsGap t) (hr : ∀ c ∈ r.head?, isBlank c = false) :
    Piece.blanks.Takes anyCase t r :=
  ⟨ht, fun _ _ hs ht' => isRun_longest ht hr hs ht'⟩

theorem wordHead?_of_spellsWord {w : List Char} (h : spellsWord anyCase w t = true)
    (r : List Char) : wordHead? anyCase w (t ++ r) = some (t, r) :=
  wordHead?_eq_some_iff.2 ⟨rfl, h⟩

/-- A word is taken if the text starts with none of the words that are tried before. -/
theorem takes_word {passed left : List String} {w : String}
    (hspells : spellsWord anyCase w.toList t = true)
    (hpassed : ∀ v ∈ passed, wordHead? anyCase v.toList (t ++ r) = none) :
    (Piece.word (passed ++ w :: left)).Takes anyCase t r := by
  refine ⟨⟨w, by simp, hspells⟩, fun t' r' hs ht' => ?_⟩
  by_cases hsame : spellsWord anyCase w.toList t' = true
  · -- one word spells only one segment at the start of a text
    have hhead := wordHead?_of_spellsWord hspells r
    rw [hs, wordHead?_of_spellsWord hsame] at hhead
    exact .inl (congrArg Prod.fst (Option.some.inj hhead))
  · refine .inr (prefers_word hspells fun v hv hother => ?_)
    rcases List.mem_append.1 hv with hv | hv
    · have hnone := hpassed v hv
      rw [hs, wordHead?_of_spellsWord hother] at hnone
      cases hnone
    · rw [List.mem_singleton.1 hv] at hother
      exact hsame hother

/-- A word that can be missing is taken with the gap behind it. -/
theorem takes_maybe {w : String} {b : List Char} (hspells : spellsWord anyCase w.toList t = true)
    (hb : IsGap b) (hr : ∀ c ∈ r.head?, isBlank c = false) :
    (Piece.maybe w).Takes anyCase (t ++ b) r := by
  refine ⟨.inr ⟨t, b, rfl, hspells, hb⟩, ?_⟩
  rintro _ r' hs (rfl | ⟨t', b', rfl, hspells', hb'⟩)
  · exact .inr (List.length_pos_iff.2 (by simp [hb.1]))
  · rw [List.append_assoc, List.append_assoc] at hs
    have hhead := wordHead?_of_spellsWord hspells (b ++ r)
    rw [hs, wordHead?_of_spellsWord hspells', Option.some.injEq, Prod.mk.injEq] at hhead
    obtain ⟨rfl, hrest⟩ := hhead
    rcases isRun_longest hb hr hrest.symm hb' with rfl | hlonger
    · exact .inl rfl
    · refine .inr ?_
      simpa [Piece.Prefers, Longer] using hlonger

/-- A word that can be missing is not taken if the text does not start with it. -/
theorem takes_nothing {w : String} (h : wordHead? anyCase w.toList r = none) :
    (Piece.maybe w).Takes anyCase [] r := by
  refine ⟨.inl rfl, ?_⟩
  rintro _ r' hs (rfl | ⟨t', b', rfl, hspells', -⟩)
  · exact .inl rfl
  · rw [List.nil_append, List.append_assoc] at hs
    rw [hs, wordHead?_of_spellsWord hspells'] at h
    cases h

/-! ### Sentences -/

/-- A word of a phrase, written as it is, is taken for none of those that are tried before it. -/
def Unmistaken (anyCase : Bool) (choices : List String) (w : String) : Prop :=
  w ∈ choices ∧ IsWord w.toList ∧ spellsWord anyCase w.toList w.toList = true ∧
    ∀ v ∈ choices.takeWhile (· != w),
      ∃ p ∈ v.toList.zip w.toList, letterAgrees anyCase p.1 p.2 = false

instance (anyCase : Bool) (choices : List String) (w : String) :
    Decidable (Unmistaken anyCase choices w) :=
  inferInstanceAs (Decidable (_ ∧ _ ∧ _ ∧ _))

/-- A text that differs from a word in one letter does not start with this word. -/
theorem wordHead?_append_eq_none {v : List Char}
    (h : ∃ p ∈ v.zip t, letterAgrees anyCase p.1 p.2 = false) (r : List Char) :
    wordHead? anyCase v (t ++ r) = none := by
  have hspells : spellsWord anyCase v ((t ++ r).take v.length) = false := by
    induction v generalizing t with
    | nil => simp at h
    | cons letter v ih =>
      cases t with
      | nil => simp at h
      | cons c t =>
        rw [List.cons_append, List.length_cons, List.take_succ_cons, spellsWord_cons,
          Bool.and_eq_false_iff]
        obtain ⟨p, hp, hdiffers⟩ := h
        rcases List.mem_cons.1 hp with rfl | hp
        · exact .inl hdiffers
        · exact .inr (ih ⟨p, hp, hdiffers⟩)
  rw [wordHead?, if_neg (by simp [hspells])]

theorem takes_unmistaken {choices : List String} {w : String} (h : Unmistaken anyCase choices w) :
    (Piece.word choices).Takes anyCase w.toList r := by
  obtain ⟨hmem, -, hspells, hpassed⟩ := h
  obtain ⟨left, hleft⟩ : ∃ left, choices.dropWhile (· != w) = w :: left := by
    have hne : choices.dropWhile (· != w) ≠ [] := by
      intro hnil
      simpa using List.dropWhile_eq_nil_iff.1 hnil w hmem
    obtain ⟨v, left, hcons⟩ := List.exists_cons_of_ne_nil hne
    have hhead := List.head_dropWhile_not (· != w) hne
    simp only [hcons, List.head_cons, bne_eq_false_iff_eq] at hhead
    exact ⟨left, hhead ▸ hcons⟩
  have hchoices := List.takeWhile_append_dropWhile (p := (· != w)) (l := choices)
  rw [hleft] at hchoices
  rw [← hchoices]
  exact takes_word hspells fun v hv => wordHead?_append_eq_none (hpassed v hv) r

/-- The pieces take all but the end `u` of a text that does not start with a blank. -/
structure Follows (anyCase : Bool) (ps : List Piece) (ts : List (List Char)) (u : List Char) :
    Prop where
  takes : TakesAll anyCase ps ts u
  head : ∀ c ∈ (ts.flatten ++ u).head?, isBlank c = false

namespace Follows

theorem of_isWord (htakes : TakesAll anyCase ps (t :: ts) u) (ht : IsWord t) :
    Follows anyCase ps (t :: ts) u := by
  refine ⟨htakes, ?_⟩
  rw [List.flatten_cons, List.append_assoc]
  exact ht.head?_append _

/-- The last operand, and what it cannot take. -/
theorem operand {k : Operand} (ht : IsRun (k.accepts anyCase) t)
    (hu : ∀ c ∈ u.head?, k.accepts anyCase c = false) (hhead : ∀ c ∈ t.head?, isBlank c = false) :
    Follows anyCase [.operand k] [t] u := by
  refine ⟨⟨takes_operand ht (by simpa using hu), trivial⟩, fun c hc => hhead c ?_⟩
  rwa [List.flatten_singleton, head?_append_of_ne_nil ht.1] at hc

/-- A word and a space in front. -/
theorem word (h : Follows anyCase ps ts u) (choices : List String) (w : String)
    (hw : Unmistaken anyCase choices w) :
    Follows anyCase (.word choices :: .blanks :: ps) (w.toList :: [' '] :: ts) u :=
  of_isWord ⟨takes_unmistaken hw, takes_blanks isGap_space h.head, h.takes⟩ hw.2.1

/-- An operand and a space in front. -/
theorem operand_space (h : Follows anyCase ps ts u) (k : Operand) (ht : IsRun (k.accepts anyCase) t)
    (hword : IsWord t) (hspace : k.accepts anyCase ' ' = false) :
    Follows anyCase (.operand k :: .blanks :: ps) (t :: [' '] :: ts) u :=
  of_isWord ⟨takes_operand ht (by simpa using hspace), takes_blanks isGap_space h.head, h.takes⟩
    hword

/-- An operand in front, directly before another one. -/
theorem operand_before (h : Follows anyCase ps ts u) (k : Operand)
    (ht : IsRun (k.accepts anyCase) t) (hword : IsWord t)
    (hnext : ∀ c ∈ (ts.flatten ++ u).head?, k.accepts anyCase c = false) :
    Follows anyCase (.operand k :: ps) (t :: ts) u :=
  of_isWord ⟨takes_operand ht hnext, h.takes⟩ hword

/-- A word that can be missing in front, with a space behind it. -/
theorem maybe (h : Follows anyCase ps ts u) (w : String) (hw : Unmistaken anyCase [w] w) :
    Follows anyCase (.maybe w :: ps) ((w.toList ++ [' ']) :: ts) u := by
  refine ⟨⟨takes_maybe hw.2.2.1 isGap_space h.head, h.takes⟩, ?_⟩
  rw [List.flatten_cons, List.append_assoc, List.append_assoc]
  exact hw.2.1.head?_append _

/-- A word that can be missing is not there. -/
theorem missing (h : Follows anyCase ps ts u) (w : String)
    (hw : wordHead? anyCase w.toList (ts.flatten ++ u) = none) :
    Follows anyCase (.maybe w :: ps) ([] :: ts) u :=
  ⟨⟨takes_nothing hw, h.takes⟩, h.head⟩

end Follows

end Pieces

end GridTalk
