import GridTalk.Phrase
import GridTalk.Proofs.Text.Words
import Mathlib.Computability.Language

/-!
# What a search finds

A phrase stands for a language: the texts that consist of one text for each of its pieces.  A search
succeeds exactly when a part of the text is in this language.  When there are several such parts, or
several ways to divide one among the pieces, what counts is the place that comes first, and then
what the first piece takes, the second one, and so on.

* `Phrase.language`: the language of a phrase.
* `Phrase.Occurs`: a finding that is really there, with a text for each piece.
* `Piece.Prefers`, `PrefersAll`, `Phrase.Earlier`: which of two findings counts.
* `FirstSuccess`: what it means to try the texts of a piece in their order; `firstSuccess_tryAll` is
  about one piece, `firstReading_matchPieces` about a sequence of them.
* `Phrase.search?_eq_some_iff`, `Phrase.search?_eq_none_iff`: what a search returns.
-/

namespace GridTalk

open Text

/-! ### The language of a phrase -/

/-- The texts that a piece stands for. -/
def Piece.language (anyCase : Bool) (p : Piece) : Language Char := {t | p.Spelled anyCase t}

/-- The texts that a phrase stands for. -/
def Phrase.language (p : Phrase) : Language Char :=
  (p.pieces.map (Piece.language p.anyCase)).prod

theorem mem_prod_language_iff {anyCase : Bool} {ps : List Piece} {s : List Char} :
    s ∈ (ps.map (Piece.language anyCase)).prod ↔
      ∃ ts, s = ts.flatten ∧ List.Forall₂ (Piece.Spelled anyCase) ps ts := by
  induction ps generalizing s with
  | nil => simp [Language.mem_one]
  | cons p ps ih =>
    rw [List.map_cons, List.prod_cons, Language.mem_mul]
    constructor
    · rintro ⟨t, ht, r, hr, rfl⟩
      obtain ⟨ts, rfl, hts⟩ := ih.1 hr
      exact ⟨t :: ts, rfl, .cons ht hts⟩
    · rintro ⟨_, rfl, hts⟩
      cases hts with
      | @cons _ t _ ts ht hts => exact ⟨t, ht, ts.flatten, ih.2 ⟨ts, rfl, hts⟩, rfl⟩

/-- A finding that is really there: its parts make up the text, and its segments are spelled as the
pieces ask. -/
structure Phrase.Occurs (p : Phrase) (s : List Char) (f : Finding) : Prop where
  text_eq : s = f.before ++ f.text ++ f.after
  spelled : List.Forall₂ (Piece.Spelled p.anyCase) p.pieces f.segments

/-- A phrase occurs in a text exactly when a part of the text is in its language. -/
theorem Phrase.exists_occurs_iff {p : Phrase} {s : List Char} :
    (∃ f, p.Occurs s f) ↔ ∃ t ∈ p.language, t <:+: s := by
  constructor
  · rintro ⟨f, htext, hspelled⟩
    have hlanguage := mem_prod_language_iff.2 ⟨f.segments, rfl, hspelled⟩
    exact ⟨f.text, hlanguage, f.before, f.after, htext.symm⟩
  · rintro ⟨t, ht, before, after, rfl⟩
    obtain ⟨ts, rfl, hts⟩ := mem_prod_language_iff.1 ht
    exact ⟨⟨before, ts, after⟩, rfl, hts⟩

/-! ### Which finding counts -/

/-- Is one segment longer than another? -/
def Longer (t t' : List Char) : Prop := t'.length < t.length

/-- Of two segments a piece takes this one rather than the other: a word that comes first in the
list of choices, else the longer segment. -/
def Piece.Prefers (anyCase : Bool) : Piece → List Char → List Char → Prop
  | word choices, t, t' =>
    choices.findIdx (fun w => spellsWord anyCase w.toList t)
      < choices.findIdx fun w => spellsWord anyCase w.toList t'
  | blanks, t, t' | maybe _, t, t' | operand _, t, t' => Longer t t'

/-- Of two readings that differ, the one whose first different segment is preferred. -/
def PrefersAll (anyCase : Bool) : List Piece → List (List Char) → List (List Char) → Prop
  | p :: ps, t :: ts, t' :: ts' =>
    p.Prefers anyCase t t' ∨ t = t' ∧ PrefersAll anyCase ps ts ts'
  | _, _, _ => False

theorem Piece.Prefers.asymm {anyCase : Bool} {p : Piece} {t t' : List Char}
    (h : p.Prefers anyCase t t') : ¬p.Prefers anyCase t' t := by
  cases p with
  | word choices => exact Nat.lt_asymm h
  | blanks => exact Nat.lt_asymm h
  | maybe w => exact Nat.lt_asymm h
  | operand k => exact Nat.lt_asymm h

theorem PrefersAll.asymm {anyCase : Bool} {ps : List Piece} {ts ts' : List (List Char)}
    (h : PrefersAll anyCase ps ts ts') : ¬PrefersAll anyCase ps ts' ts := by
  induction ps generalizing ts ts' with
  | nil => exact h.elim
  | cons p ps ih =>
    match ts, ts', h with
    | t :: ts, t' :: ts', h =>
      intro h'
      rcases h with h | ⟨rfl, h⟩ <;> rcases h' with h' | ⟨heq, h'⟩
      · exact h.asymm h'
      · exact (heq ▸ h).asymm (heq ▸ h)
      · exact h'.asymm h'
      · exact ih h h'

/-- Of two findings, the one further to the left, or at the same place the preferred reading. -/
def Phrase.Earlier (p : Phrase) (f f' : Finding) : Prop :=
  f.before.length < f'.before.length ∨
    f.before.length = f'.before.length ∧ PrefersAll p.anyCase p.pieces f.segments f'.segments

theorem Phrase.Earlier.asymm {p : Phrase} {f f' : Finding} (h : p.Earlier f f') :
    ¬p.Earlier f' f := by
  rcases h with h | ⟨heq, h⟩ <;> rintro (h' | ⟨heq', h'⟩)
  · omega
  · omega
  · omega
  · exact h.asymm h'

/-- The finding that counts: it is there, and every other one comes later. -/
structure Phrase.IsFirst (p : Phrase) (s : List Char) (f : Finding) : Prop where
  occurs : p.Occurs s f
  earlier : ∀ f', p.Occurs s f' → f' = f ∨ p.Earlier f f'

theorem Phrase.IsFirst.unique {p : Phrase} {s : List Char} {f f' : Finding} (h : p.IsFirst s f)
    (h' : p.IsFirst s f') : f = f' := by
  rcases h.earlier f' h'.occurs with heq | hearlier
  · exact heq.symm
  · rcases h'.earlier f h.occurs with heq | hearlier'
    · exact heq
    · exact absurd hearlier' hearlier.asymm

/-! ### One piece -/

/-- The outcome of trying the segments at the start of a text that a piece can take, the better ones
first: `next` is the outcome for one of them. -/
def FirstSuccess {α : Type} (Can : List Char → Prop) (Better : List Char → List Char → Prop)
    (next : List Char → List Char → Option α) (s : List Char) : Option α → Prop
  | none => ∀ t r, s = t ++ r → Can t → next t r = none
  | some a => ∃ t r, s = t ++ r ∧ Can t ∧ next t r = some a ∧
      ∀ t' r', s = t' ++ r' → Can t' → t' = t ∨ Better t t' ∨ next t' r' = none

/-- What a piece makes of a text, if `next` is what the rest of the phrase makes of it. -/
def Piece.tryAll {α : Type} (anyCase : Bool) (next : List Char → List Char → Option α)
    (s : List Char) : Piece → Option α
  | word choices =>
    choices.findSome? fun w => (wordHead? anyCase w.toList s).bind fun (t, r) => next t r
  | blanks => takeRun isBlank next s
  | maybe w =>
    ((wordHead? anyCase w.toList s).bind fun (t, r) =>
      takeRun isBlank (fun b r => next (t ++ b) r) r) <|> next [] s
  | operand k => takeRun (k.accepts anyCase) next s

theorem matchPieces_cons (anyCase : Bool) (p : Piece) (ps : List Piece) (s : List Char) :
    matchPieces anyCase (p :: ps) s
      = p.tryAll anyCase
          (fun t r => (matchPieces anyCase ps r).map fun (ts, u) => (t :: ts, u)) s := by
  cases p <;> rfl

section Tries

variable {α : Type} {anyCase : Bool} {next : List Char → List Char → Option α} {s : List Char}

theorem orElse_eq_some_iff {a b : Option α} {x : α} :
    (a <|> b) = some x ↔ a = some x ∨ (a = none ∧ b = some x) := by
  cases a <;> simp

theorem orElse_eq_none_iff {a b : Option α} : (a <|> b) = none ↔ a = none ∧ b = none := by
  cases a <;> simp

theorem spellsWord_cons (letter c : Char) (w t : List Char) :
    spellsWord anyCase (letter :: w) (c :: t)
      = (letterAgrees anyCase letter c && spellsWord anyCase w t) := by
  rw [Bool.eq_iff_iff]
  simp only [spellsWord, List.length_cons, List.zip_cons_cons, List.all_cons, Bool.and_eq_true,
    beq_iff_eq, Nat.add_right_cancel_iff]
  exact and_left_comm

theorem wordHead?_eq_some_iff {w t r : List Char} :
    wordHead? anyCase w s = some (t, r) ↔ s = t ++ r ∧ spellsWord anyCase w t := by
  constructor
  · intro h
    unfold wordHead? at h
    split at h
    · next hspells =>
      cases h
      exact ⟨(List.take_append_drop w.length s).symm, hspells⟩
    · cases h
  · rintro ⟨rfl, hspells⟩
    have hlength : w.length = t.length := by
      rw [spellsWord, Bool.and_eq_true, beq_iff_eq] at hspells
      exact hspells.1
    rw [wordHead?, hlength, List.take_left, List.drop_left, if_pos hspells]

/-- A word that spells one segment, but with all words before it not the other. -/
theorem prefers_word {passed left : List String} {w : String} {t t' : List Char}
    (hspells : spellsWord anyCase w.toList t = true)
    (hother : ∀ v ∈ passed ++ [w], ¬spellsWord anyCase v.toList t' = true) :
    (Piece.word (passed ++ w :: left)).Prefers anyCase t t' := by
  -- cut behind `w`, the choices spell one segment in the first part and the other one not before
  -- the second part
  have hsplit : passed ++ w :: left = (passed ++ [w]) ++ left := by simp
  rw [hsplit]
  generalize hfirst : passed ++ [w] = first at hother
  have hfound : first.findIdx (fun v => spellsWord anyCase v.toList t) < first.length :=
    List.findIdx_lt_length.2 ⟨w, by simp [← hfirst], hspells⟩
  have hnotFound : ¬first.findIdx (fun v => spellsWord anyCase v.toList t') < first.length := by
    rw [List.findIdx_lt_length]
    rintro ⟨v, hv, hspells'⟩
    exact hother v hv hspells'
  rw [Piece.Prefers, List.findIdx_append, List.findIdx_append, if_pos hfound, if_neg hnotFound]
  omega

theorem firstSuccess_word (choices : List String) :
    FirstSuccess ((Piece.word choices).Spelled anyCase) ((Piece.word choices).Prefers anyCase) next
      s ((Piece.word choices).tryAll anyCase next s) := by
  have htry : ∀ {w : String} {t r : List Char}, s = t ++ r → spellsWord anyCase w.toList t = true →
      ((wordHead? anyCase w.toList s).bind fun (t, r) => next t r) = next t r := by
    intro w t r hs hspells
    rw [wordHead?_eq_some_iff.2 ⟨hs, hspells⟩, Option.bind_some]
  cases hresult : (Piece.word choices).tryAll anyCase next s with
  | none =>
    rintro t r hs ⟨w, hw, hspells⟩
    rw [← htry hs hspells]
    exact List.findSome?_eq_none_iff.1 hresult w hw
  | some a =>
    obtain ⟨passed, w, left, rfl, hw, hpassed⟩ := List.findSome?_eq_some_iff.1 hresult
    obtain ⟨⟨t, r⟩, hhead, ha⟩ := Option.bind_eq_some_iff.1 hw
    obtain ⟨hs, hspells⟩ := wordHead?_eq_some_iff.1 hhead
    refine ⟨t, r, hs, ⟨w, by simp, hspells⟩, ha, fun t' r' hs' _ => ?_⟩
    by_cases hsame : spellsWord anyCase w.toList t' = true
    · -- one word spells only one segment at the start of a text
      have hhead' := wordHead?_eq_some_iff.2 ⟨hs', hsame⟩
      rw [hhead, Option.some.injEq, Prod.mk.injEq] at hhead'
      exact .inl hhead'.1.symm
    · by_cases hearlier : ∃ v ∈ passed, spellsWord anyCase v.toList t' = true
      · obtain ⟨v, hv, hspells'⟩ := hearlier
        exact .inr (.inr ((htry hs' hspells').symm.trans (hpassed v hv)))
      · refine .inr (.inl (prefers_word hspells fun v hv => ?_))
        rcases List.mem_append.1 hv with hv | hv
        · exact fun hspells' => hearlier ⟨v, hv, hspells'⟩
        · rwa [List.mem_singleton.1 hv]

theorem longestFirst_eq_none {n : Nat} (h : longestFirst next s n = none) :
    ∀ i, 0 < i → i ≤ n → next (s.take i) (s.drop i) = none := by
  induction n with
  | zero => intro i hi hn; omega
  | succ n ih =>
    intro i hi hn
    rw [longestFirst, orElse_eq_none_iff] at h
    rcases Nat.lt_or_eq_of_le hn with hlt | rfl
    · exact ih h.2 i hi (by omega)
    · exact h.1

theorem longestFirst_eq_some {n : Nat} {a : α} (h : longestFirst next s n = some a) :
    ∃ i, 0 < i ∧ i ≤ n ∧ next (s.take i) (s.drop i) = some a ∧
      ∀ j, i < j → j ≤ n → next (s.take j) (s.drop j) = none := by
  induction n with
  | zero => cases h
  | succ n ih =>
    rw [longestFirst] at h
    rcases orElse_eq_some_iff.1 h with h | ⟨hnone, h⟩
    · exact ⟨n + 1, by omega, Nat.le_refl _, h, fun j hj hn => by omega⟩
    · obtain ⟨i, hi, hn, ha, hlonger⟩ := ih h
      refine ⟨i, hi, by omega, ha, fun j hj hn' => ?_⟩
      rcases Nat.lt_or_eq_of_le hn' with hlt | rfl
      · exact hlonger j hj (by omega)
      · exact hnone

theorem firstSuccess_takeRun (accepts : Char → Bool) (next : List Char → List Char → Option α)
    (s : List Char) : FirstSuccess (IsRun accepts) Longer next s (takeRun accepts next s) := by
  have htry : ∀ {t r : List Char}, s = t ++ r →
      next (s.take t.length) (s.drop t.length) = next t r := by
    rintro t r rfl
    rw [List.take_left, List.drop_left]
  cases hresult : takeRun accepts next s with
  | none =>
    intro t r hs hrun
    obtain ⟨hpos, hle⟩ := (isRun_prefix_iff hs).1 hrun
    rw [← htry hs]
    exact longestFirst_eq_none hresult t.length hpos hle
  | some a =>
    obtain ⟨i, hi, hn, ha, hlonger⟩ := longestFirst_eq_some hresult
    have hlength : (s.take i).length = i := by
      have hle := (List.takeWhile_prefix (p := accepts) (l := s)).length_le
      rw [List.length_take]
      omega
    have hs := (List.take_append_drop i s).symm
    -- a longer run than `i` has failed, and of length `i` there is only one
    refine ⟨s.take i, s.drop i, hs, (isRun_prefix_iff hs).2 (by omega), ha,
      fun t' r' hs' hrun' => ?_⟩
    obtain ⟨hpos, hle⟩ := (isRun_prefix_iff hs').1 hrun'
    rcases Nat.lt_trichotomy i t'.length with hlt | heq | hgt
    · exact .inr (.inr ((htry hs').symm.trans (hlonger _ hlt hle)))
    · refine .inl ?_
      rw [heq, hs', List.take_left]
    · exact .inr (.inl (by rwa [Longer, hlength]))

/-- With a word before a run all that is left open is the length of the run. -/
theorem firstSuccess_wordRun (w : List Char) (accepts : Char → Bool) :
    FirstSuccess (fun t => ∃ v b, t = v ++ b ∧ spellsWord anyCase w v ∧ IsRun accepts b) Longer
      next s ((wordHead? anyCase w s).bind fun (v, r) =>
        takeRun accepts (fun b r => next (v ++ b) r) r) := by
  cases hhead : wordHead? anyCase w s with
  | none =>
    rintro t r hs ⟨v, b, rfl, hspells, -⟩
    rw [List.append_assoc] at hs
    rw [wordHead?_eq_some_iff.2 ⟨hs, hspells⟩] at hhead
    cases hhead
  | some m =>
    obtain ⟨v, r⟩ := m
    obtain ⟨rfl, hspells⟩ := wordHead?_eq_some_iff.1 hhead
    -- whatever is read with the word, the word takes the same
    have hsame : ∀ {v' b' r' : List Char}, v ++ r = v' ++ b' ++ r' →
        spellsWord anyCase w v' = true → v = v' ∧ r = b' ++ r' := by
      intro v' b' r' hs hspells'
      rw [List.append_assoc] at hs
      rw [wordHead?_eq_some_iff.2 ⟨hs, hspells'⟩, Option.some.injEq, Prod.mk.injEq] at hhead
      exact ⟨hhead.1.symm, hhead.2.symm⟩
    have hrun := firstSuccess_takeRun accepts (fun b r => next (v ++ b) r) r
    rw [Option.bind_some]
    dsimp only
    cases hresult : takeRun accepts (fun b r => next (v ++ b) r) r with
    | none =>
      rw [hresult] at hrun
      rintro _ r' hs ⟨v', b', rfl, hspells', hb'⟩
      obtain ⟨rfl, hr⟩ := hsame hs hspells'
      exact hrun b' r' hr hb'
    | some a =>
      rw [hresult] at hrun
      obtain ⟨b, u, rfl, hb, ha, hbest⟩ := hrun
      refine ⟨v ++ b, u, by simp, ⟨v, b, rfl, hspells, hb⟩, ha, ?_⟩
      rintro _ r' hs ⟨v', b', rfl, hspells', hb'⟩
      obtain ⟨rfl, hr⟩ := hsame hs hspells'
      rcases hbest b' r' hr hb' with rfl | hlonger | hnone
      · exact .inl rfl
      · refine .inr (.inl ?_)
        rw [Longer] at hlonger ⊢
        rw [List.length_append, List.length_append]
        omega
      · exact .inr (.inr hnone)

/-- Nothing is taken when all else has failed. -/
theorem FirstSuccess.orNothing {Can : List Char → Prop} {outcome : Option α}
    (h : FirstSuccess Can Longer next s outcome) (hne : ∀ t, Can t → t ≠ []) :
    FirstSuccess (fun t => t = [] ∨ Can t) Longer next s (outcome <|> next [] s) := by
  cases outcome with
  | some a =>
    obtain ⟨t, r, hs, ht, ha, hbest⟩ := h
    refine ⟨t, r, hs, .inr ht, ha, ?_⟩
    rintro t' r' hs' (rfl | ht')
    · exact .inr (.inl (List.length_pos_iff.2 (hne t ht)))
    · exact hbest t' r' hs' ht'
  | none =>
    show FirstSuccess _ Longer next s (next [] s)
    cases hnothing : next [] s with
    | none =>
      rintro t r hs (rfl | ht)
      · rwa [hs, List.nil_append] at hnothing
      · exact h t r hs ht
    | some a =>
      refine ⟨[], s, rfl, .inl rfl, hnothing, ?_⟩
      rintro t' r' hs' (rfl | ht')
      · exact .inl rfl
      · exact .inr (.inr (h t' r' hs' ht'))

theorem firstSuccess_maybe (w : String) :
    FirstSuccess ((Piece.maybe w).Spelled anyCase) ((Piece.maybe w).Prefers anyCase) next s
      ((Piece.maybe w).tryAll anyCase next s) := by
  refine (firstSuccess_wordRun w.toList isBlank).orNothing ?_
  rintro _ ⟨v, b, rfl, -, hb⟩ hnil
  exact hb.1 (List.append_eq_nil_iff.1 hnil).2

/-- A piece tries all segments that it can take, the preferred ones first. -/
theorem firstSuccess_tryAll (anyCase : Bool) (p : Piece)
    (next : List Char → List Char → Option α) (s : List Char) :
    FirstSuccess (p.Spelled anyCase) (p.Prefers anyCase) next s (p.tryAll anyCase next s) := by
  cases p with
  | word choices => exact firstSuccess_word choices
  | blanks => exact firstSuccess_takeRun isBlank next s
  | maybe w => exact firstSuccess_maybe w
  | operand k => exact firstSuccess_takeRun (k.accepts anyCase) next s

end Tries

/-! ### The pieces of a phrase -/

/-- The start of a text read as a sequence of pieces, with what is left. -/
def Reads (anyCase : Bool) (ps : List Piece) (s : List Char) (ts : List (List Char))
    (u : List Char) : Prop :=
  s = ts.flatten ++ u ∧ List.Forall₂ (Piece.Spelled anyCase) ps ts

section Readings

variable {anyCase : Bool} {p : Piece} {ps : List Piece} {s t u : List Char} {ts : List (List Char)}

theorem reads_cons_iff :
    Reads anyCase (p :: ps) s (t :: ts) u ↔
      ∃ r, s = t ++ r ∧ p.Spelled anyCase t ∧ Reads anyCase ps r ts u := by
  rw [Reads, List.flatten_cons, List.append_assoc, List.forall₂_cons]
  constructor
  · rintro ⟨hs, ht, hts⟩
    exact ⟨ts.flatten ++ u, hs, ht, rfl, hts⟩
  · rintro ⟨r, rfl, ht, rfl, hts⟩
    exact ⟨rfl, ht, hts⟩

/-- The outcome of reading the start of a text: the preferred one of all readings. -/
def FirstReading (anyCase : Bool) (ps : List Piece) (s : List Char) :
    Option (List (List Char) × List Char) → Prop
  | none => ∀ ts u, ¬Reads anyCase ps s ts u
  | some (ts, u) => Reads anyCase ps s ts u ∧
      ∀ ts' u', Reads anyCase ps s ts' u' → ts' = ts ∨ PrefersAll anyCase ps ts ts'

theorem firstReading_matchPieces (anyCase : Bool) (ps : List Piece) (s : List Char) :
    FirstReading anyCase ps s (matchPieces anyCase ps s) := by
  induction ps generalizing s with
  | nil =>
    refine ⟨⟨rfl, .nil⟩, fun ts' u' h => .inl ?_⟩
    exact List.forall₂_nil_left_iff.1 h.2
  | cons p ps ih =>
    have hfirst := firstSuccess_tryAll anyCase p
      (fun t r => (matchPieces anyCase ps r).map fun (ts, u) => (t :: ts, u)) s
    rw [← matchPieces_cons] at hfirst
    -- `hfirst` says which segment the first piece takes, `ih` what becomes of the rest of the text
    have hfails : ∀ {t r : List Char},
        ((matchPieces anyCase ps r).map fun (ts, u) => (t :: ts, u)) = none →
          ∀ ts u, ¬Reads anyCase ps r ts u := by
      intro t r hnone
      have hrest := ih r
      rwa [Option.map_eq_none_iff.1 hnone] at hrest
    cases hresult : matchPieces anyCase (p :: ps) s with
    | none =>
      rw [hresult] at hfirst
      intro ts u hreads
      cases hreads.2 with
      | cons _ _ =>
        obtain ⟨r, hs, hspelled, hrest⟩ := reads_cons_iff.1 hreads
        exact hfails (hfirst _ r hs hspelled) _ _ hrest
    | some m =>
      rw [hresult] at hfirst
      obtain ⟨t, r, hs, hspelled, hm, hbest⟩ := hfirst
      obtain ⟨⟨ts, u⟩, hmatch, rfl⟩ := Option.map_eq_some_iff.1 hm
      have hrest := ih r
      rw [hmatch] at hrest
      obtain ⟨hreads, hpreferred⟩ := hrest
      refine ⟨reads_cons_iff.2 ⟨r, hs, hspelled, hreads⟩, fun ts' u' hreads' => ?_⟩
      cases hreads'.2 with
      | @cons _ t' _ ts' _ _ =>
        obtain ⟨r', hs', hspelled', hrest'⟩ := reads_cons_iff.1 hreads'
        rcases hbest t' r' hs' hspelled' with rfl | hprefers | hnone
        · obtain rfl : r' = r := List.append_cancel_left (hs'.symm.trans hs)
          rcases hpreferred ts' u' hrest' with rfl | hprefers
          · exact .inl rfl
          · exact .inr (.inr ⟨rfl, hprefers⟩)
        · exact .inr (.inl hprefers)
        · exact absurd hrest' (hfails hnone ts' u')

end Readings

/-! ### The leftmost place -/

/-- A finding in a text with one more character in front. -/
def Finding.shift (c : Char) (f : Finding) : Finding := ⟨c :: f.before, f.segments, f.after⟩

namespace Phrase

variable {p : Phrase} {s r : List Char} {c : Char} {f : Finding}

theorem searchFrom?_eq_map (before s : List Char) :
    p.searchFrom? before s
      = (p.search? s).map fun f => ⟨before.reverse ++ f.before, f.segments, f.after⟩ := by
  induction s generalizing before with
  | nil => simp [search?, searchFrom?, Function.comp_def]
  | cons c r ih =>
    rw [search?, searchFrom?, searchFrom?]
    cases p.matchAt? (c :: r) with
    | some m => simp
    | none => simp [ih (c :: before), ih [c], Function.comp_def]

theorem search?_cons (p : Phrase) (c : Char) (r : List Char) :
    p.search? (c :: r) =
      match p.matchAt? (c :: r) with
      | some (ts, u) => some ⟨[], ts, u⟩
      | none => (p.search? r).map (Finding.shift c) := by
  rw [search?, searchFrom?, searchFrom?_eq_map [c]]
  rfl

theorem occurs_iff_of_before_eq_nil (h : f.before = []) :
    p.Occurs s f ↔ Reads p.anyCase p.pieces s f.segments f.after := by
  constructor
  · rintro ⟨htext, hspelled⟩
    rw [h, List.nil_append] at htext
    exact ⟨htext, hspelled⟩
  · rintro ⟨htext, hspelled⟩
    refine ⟨?_, hspelled⟩
    rw [h, List.nil_append]
    exact htext

theorem occurs_shift_iff : p.Occurs (c :: r) (f.shift c) ↔ p.Occurs r f := by
  have htext : c :: r = (f.shift c).before ++ (f.shift c).text ++ (f.shift c).after ↔
      r = f.before ++ f.text ++ f.after := by
    simp [Finding.shift, Finding.text]
  exact ⟨fun h => ⟨htext.1 h.text_eq, h.spelled⟩, fun h => ⟨htext.2 h.text_eq, h.spelled⟩⟩

/-- A finding that is not at the start is one in the rest of the text. -/
theorem Occurs.exists_shift (h : p.Occurs (c :: r) f) (hbefore : f.before ≠ []) :
    ∃ f', f = f'.shift c ∧ p.Occurs r f' := by
  obtain ⟨before, ts, u⟩ := f
  match before, hbefore with
  | d :: before, _ =>
    have hd : c = d := by
      have htext := h.text_eq
      simp only [List.cons_append, List.cons.injEq] at htext
      exact htext.1
    subst hd
    exact ⟨⟨before, ts, u⟩, rfl, occurs_shift_iff.1 h⟩

/-- What is matched at the start comes before all other findings. -/
theorem isFirst_of_matchAt? {ts : List (List Char)} {u : List Char}
    (h : p.matchAt? s = some (ts, u)) : p.IsFirst s ⟨[], ts, u⟩ := by
  have hfirst := firstReading_matchPieces p.anyCase p.pieces s
  rw [show matchPieces p.anyCase p.pieces s = some (ts, u) from h] at hfirst
  obtain ⟨hreads, hpreferred⟩ := hfirst
  refine ⟨(occurs_iff_of_before_eq_nil rfl).2 hreads, fun f' hf' => ?_⟩
  obtain ⟨before, ts', u'⟩ := f'
  cases before with
  | cons d before => exact .inr (.inl (Nat.succ_pos _))
  | nil =>
    have hreads' := (occurs_iff_of_before_eq_nil rfl).1 hf'
    rcases hpreferred ts' u' hreads' with rfl | hprefers
    · have hafter : u' = u := List.append_cancel_left (hreads'.1.symm.trans hreads.1)
      exact .inl (by rw [hafter])
    · exact .inr (.inr ⟨rfl, hprefers⟩)

/-- When nothing is matched at the start there is no finding there. -/
theorem before_ne_nil_of_matchAt? (h : p.matchAt? s = none) (hf : p.Occurs s f) :
    f.before ≠ [] := by
  intro hbefore
  have hfirst := firstReading_matchPieces p.anyCase p.pieces s
  rw [show matchPieces p.anyCase p.pieces s = none from h] at hfirst
  exact hfirst _ _ ((occurs_iff_of_before_eq_nil hbefore).1 hf)

/-- If nothing is matched at the start, what counts in the rest of a text counts in the whole. -/
theorem IsFirst.shift (h : p.IsFirst r f) (hnone : p.matchAt? (c :: r) = none) :
    p.IsFirst (c :: r) (f.shift c) := by
  refine ⟨occurs_shift_iff.2 h.occurs, fun f' hf' => ?_⟩
  obtain ⟨f', rfl, hrest⟩ := hf'.exists_shift (before_ne_nil_of_matchAt? hnone hf')
  rcases h.earlier f' hrest with rfl | hlength | ⟨hlength, hprefers⟩
  · exact .inl rfl
  · exact .inr (.inl (Nat.succ_lt_succ hlength))
  · exact .inr (.inr ⟨congrArg Nat.succ hlength, hprefers⟩)

/-- A search returns the finding that counts, and fails only if there is none. -/
theorem search?_spec (p : Phrase) (s : List Char) :
    (∃ f, p.search? s = some f ∧ p.IsFirst s f) ∨ (p.search? s = none ∧ ∀ f, ¬p.Occurs s f) := by
  induction s with
  | nil =>
    cases hmatch : p.matchAt? [] with
    | some m =>
      refine .inl ⟨⟨[], m.1, m.2⟩, ?_, isFirst_of_matchAt? hmatch⟩
      simp [search?, searchFrom?, hmatch]
    | none =>
      refine .inr ⟨by simp [search?, searchFrom?, hmatch], fun f hf => ?_⟩
      have htext := hf.text_eq.symm
      rw [List.append_assoc, List.append_eq_nil_iff] at htext
      exact before_ne_nil_of_matchAt? hmatch hf htext.1
  | cons c r ih =>
    cases hmatch : p.matchAt? (c :: r) with
    | some m =>
      refine .inl ⟨⟨[], m.1, m.2⟩, ?_, isFirst_of_matchAt? hmatch⟩
      rw [search?_cons, hmatch]
    | none =>
      rcases ih with ⟨f, hsearch, hfirst⟩ | ⟨hsearch, hnone⟩
      · refine .inl ⟨f.shift c, ?_, hfirst.shift hmatch⟩
        simp [search?_cons, hmatch, hsearch]
      · refine .inr ⟨by simp [search?_cons, hmatch, hsearch], fun f hf => ?_⟩
        obtain ⟨f', rfl, hf'⟩ := hf.exists_shift (before_ne_nil_of_matchAt? hmatch hf)
        exact hnone f' hf'

/-- **A search succeeds** with the finding that counts. -/
theorem search?_eq_some_iff : p.search? s = some f ↔ p.IsFirst s f := by
  rcases search?_spec p s with ⟨f', hsearch, hfirst⟩ | ⟨hsearch, hnone⟩
  · rw [hsearch, Option.some.injEq]
    refine ⟨?_, fun h => hfirst.unique h⟩
    rintro rfl
    exact hfirst
  · rw [hsearch]
    exact ⟨fun h => (Option.some_ne_none f h.symm).elim, fun h => (hnone f h.occurs).elim⟩

/-- **A search fails** when no part of the text is in the language of the phrase. -/
theorem search?_eq_none_iff : p.search? s = none ↔ ∀ t ∈ p.language, ¬t <:+: s := by
  have hoccurs : (∀ t ∈ p.language, ¬t <:+: s) ↔ ∀ f, ¬p.Occurs s f := by
    rw [← not_exists, exists_occurs_iff]
    simp only [not_exists, not_and]
  rw [hoccurs]
  rcases search?_spec p s with ⟨f', hsearch, hfirst⟩ | ⟨hsearch, hnone⟩
  · rw [hsearch]
    exact ⟨fun h => (Option.some_ne_none f' h).elim, fun h => (h f' hfirst.occurs).elim⟩
  · exact ⟨fun _ => hnone, fun _ => hsearch⟩

end Phrase

end GridTalk
