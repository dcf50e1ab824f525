import GridTalk.Text.Blank
import Mathlib.Data.List.Basic
import Mathlib.Data.List.TakeDrop
import Mathlib.Data.List.TakeWhile

/-!
# The words of a text

What stands between blanks, and where it stands.

* `IsRun`: a run of characters of one class.
* `span_eq_iff`: a text is divided where its first run of characters ends.
* `IsWord`: a text that is one word.
* `words_append_gap`: the words of a text are those before a gap and those after it; with
  `words_word_append` and `exists_words_append` a text is divided word by word.
* `spaced`: words with a space behind each of them; `words_spaced` gets them back, and
  `words_intercalate` gets back words with a space between every two.
* `exists_blank_before`: a word which is not the first one stands directly after a blank.
* `trim_eq_self_iff`: a text without blanks at its ends is not trimmed; `trim_append_of_isBlank` and
  `exists_trim_append` are about the blanks behind it.
-/

namespace GridTalk.Text

/-- What all characters of a text have in common is decided on the text.  The instance that goes
through all characters there are would be tried first. -/
instance (priority := high) decidableForallMem (p : Char → Prop) [DecidablePred p]
    (s : List Char) : Decidable (∀ c ∈ s, p c) := List.decidableBAll p s

/-! ### Runs of characters -/

section Runs

variable {p : Char → Bool} {w r : List Char}

/-- Is this a run of accepted characters? -/
def IsRun (accepts : Char → Bool) (t : List Char) : Prop := t ≠ [] ∧ ∀ c ∈ t, accepts c = true

/-- A run of one class is a run of any wider class. -/
theorem IsRun.imp {q : Char → Bool} (h : ∀ {c : Char}, p c = true → q c = true)
    (hw : IsRun p w) : IsRun q w :=
  ⟨hw.1, fun c hc => h (hw.2 c hc)⟩

theorem IsRun.append (hw : IsRun p w) (hr : IsRun p r) : IsRun p (w ++ r) :=
  ⟨List.append_ne_nil_of_left_ne_nil hw.1 r, List.forall_mem_append.2 ⟨hw.2, hr.2⟩⟩

/-- A run at the start of a text is part of the longest one. -/
theorem isRun_prefix_iff {s : List Char} (hs : s = w ++ r) :
    IsRun p w ↔ 0 < w.length ∧ w.length ≤ (s.takeWhile p).length := by
  rw [IsRun, List.length_pos_iff]
  refine and_congr_right fun _ => ⟨fun hall => ?_, fun hlength => ?_⟩
  · rw [hs, List.takeWhile_append_of_pos hall, List.length_append]
    omega
  · have hfirst : w <+: s.takeWhile p :=
      List.prefix_of_prefix_length_le ⟨r, hs.symm⟩ (List.takeWhile_prefix p) hlength
    exact fun c hc => List.all_eq_true.1 List.all_takeWhile c (hfirst.subset hc)

theorem eq_false_of_head?_dropWhile {s : List Char} :
    ∀ c ∈ (s.dropWhile p).head?, p c = false := by
  intro c hc
  have hhead := List.head?_dropWhile_not p s
  rw [Option.mem_def.1 hc] at hhead
  exact hhead

/-- A run ends where a character is not of its class. -/
theorem span_append_of_head? (hw : ∀ c ∈ w, p c = true) (hr : ∀ c ∈ r.head?, p c = false) :
    (w ++ r).span p = (w, r) := by
  have hstop : r.takeWhile p = [] ∧ r.dropWhile p = r := by
    cases r with
    | nil => exact ⟨rfl, rfl⟩
    | cons c r => simp [hr c rfl]
  rw [List.span_eq_takeWhile_dropWhile, List.takeWhile_append_of_pos hw,
    List.dropWhile_append_of_pos hw, hstop.1, hstop.2, List.append_nil]

theorem span_eq_iff {s : List Char} :
    s.span p = (w, r) ↔ s = w ++ r ∧ (∀ c ∈ w, p c = true) ∧ ∀ c ∈ r.head?, p c = false := by
  constructor
  · intro h
    rw [List.span_eq_takeWhile_dropWhile, Prod.mk.injEq] at h
    obtain ⟨rfl, rfl⟩ := h
    exact ⟨List.takeWhile_append_dropWhile.symm,
      fun c hc => List.all_eq_true.1 List.all_takeWhile c hc, eq_false_of_head?_dropWhile⟩
  · rintro ⟨rfl, hw, hr⟩
    exact span_append_of_head? hw hr

theorem dropWhile_append_of_head? (hw : ∀ c ∈ w, p c = true) (hr : ∀ c ∈ r.head?, p c = false) :
    (w ++ r).dropWhile p = r := by
  have hspan := span_append_of_head? hw hr
  rw [List.span_eq_takeWhile_dropWhile, Prod.mk.injEq] at hspan
  exact hspan.2

end Runs

/-! ### Words and gaps -/

/-- The text is one word. -/
def IsWord (w : List Char) : Prop := w ≠ [] ∧ ∀ c ∈ w, isBlank c = false

/-- The text is a gap between two words. -/
def IsGap (b : List Char) : Prop := b ≠ [] ∧ ∀ c ∈ b, isBlank c = true

instance (w : List Char) : Decidable (IsWord w) := inferInstanceAs (Decidable (_ ∧ _))

theorem isGap_space : IsGap [' '] := ⟨by simp, by decide⟩

theorem IsWord.append {v w : List Char} (hv : IsWord v) (hw : IsWord w) : IsWord (v ++ w) := by
  refine ⟨by simp [hv.1], fun c hc => ?_⟩
  rcases List.mem_append.1 hc with hc | hc
  · exact hv.2 c hc
  · exact hw.2 c hc

theorem head?_append_of_ne_nil {s : List Char} (h : s ≠ []) (t : List Char) :
    (s ++ t).head? = s.head? := by
  rw [List.head?_append, List.head?_eq_some_head h, Option.some_or]

theorem IsWord.head?_append {w : List Char} (hw : IsWord w) (r : List Char) :
    ∀ c ∈ (w ++ r).head?, isBlank c = false := by
  intro c hc
  rw [head?_append_of_ne_nil hw.1] at hc
  exact hw.2 c (List.mem_of_mem_head? hc)

theorem words_cons_blank {c : Char} (hc : isBlank c = true) (t : List Char) :
    words (c :: t) = words t :=
  words_append_blank hc [] t

theorem words_of_isWord {w : List Char} (hw : IsWord w) : words w = [w] := words_of_forall hw.1 hw.2

/-- Blanks in front belong to no word. -/
theorem words_append_of_isBlank {b : List Char} (hb : ∀ c ∈ b, isBlank c = true) (t : List Char) :
    words (b ++ t) = words t := by
  induction b with
  | nil => rfl
  | cons c b ih =>
    rw [List.cons_append, words_cons_blank (hb c (List.mem_cons_self ..))]
    exact ih fun d hd => hb d (List.mem_cons_of_mem c hd)

/-- The words of a text are those before a gap and those after it. -/
theorem words_append_gap {b : List Char} (hb : IsGap b) (s t : List Char) :
    words (s ++ (b ++ t)) = words s ++ words t := by
  obtain ⟨hne, hall⟩ := hb
  cases b with
  | nil => exact absurd rfl hne
  | cons c b =>
    rw [List.cons_append, words_append_blank (hall c (List.mem_cons_self ..)),
      words_append_of_isBlank fun d hd => hall d (List.mem_cons_of_mem c hd)]

/-- A word with a gap behind it is the first one. -/
theorem words_word_append {w b : List Char} (hw : IsWord w) (hb : IsGap b) (t : List Char) :
    words (w ++ (b ++ t)) = w :: words t := by
  rw [words_append_gap hb, words_of_isWord hw]
  rfl

/-- A word at the end of a text ends the last of its words. -/
theorem exists_words_append (s : List Char) {w : List Char} (hw : IsWord w) :
    ∃ ws q, words (s ++ w) = ws ++ [q ++ w] := by
  have hpieces : ∃ ps q, pieces (s ++ w) = ps ++ [q ++ w] := by
    induction s with
    | nil => exact ⟨[], [], pieces_of_forall hw.2⟩
    | cons c s ih =>
      obtain ⟨ps, q, ih⟩ := ih
      rw [List.cons_append, pieces, ih]
      by_cases hc : isBlank c = true
      · exact ⟨[] :: ps, q, by simp [hc]⟩
      · cases ps with
        | nil => exact ⟨[], c :: q, by simp [hc]⟩
        | cons p ps => exact ⟨(c :: p) :: ps, q, by simp [hc]⟩
  obtain ⟨ps, q, hpieces⟩ := hpieces
  refine ⟨ps.filter fun p => !p.isEmpty, q, ?_⟩
  simp [words, hpieces, hw.1]

/-- A word with a gap behind it ends one of the words, and what is behind the gap comes next. -/
theorem exists_words_word_append (s : List Char) {w b : List Char} (hw : IsWord w) (hb : IsGap b)
    (t : List Char) : ∃ ws q, words (s ++ (w ++ (b ++ t))) = ws ++ (q ++ w) :: words t := by
  obtain ⟨ws, q, hwords⟩ := exists_words_append s hw
  refine ⟨ws, q, ?_⟩
  rw [← List.append_assoc, words_append_gap hb, hwords, List.append_assoc]
  rfl

/-- Words with a space behind each of them, and then a text. -/
def spaced (ws : List (List Char)) (x : List Char) : List Char :=
  ws.foldr (fun w r => w ++ ' ' :: r) x

@[simp] theorem spaced_nil (x : List Char) : spaced [] x = x := rfl

@[simp] theorem spaced_cons (w : List Char) (ws : List (List Char)) (x : List Char) :
    spaced (w :: ws) x = w ++ ' ' :: spaced ws x := rfl

theorem pieces_spaced {ws : List (List Char)} (h : ∀ w ∈ ws, IsWord w) (x : List Char) :
    pieces (spaced ws x) = ws ++ pieces x := by
  induction ws with
  | nil => rfl
  | cons w ws ih =>
    have hw := h w (List.mem_cons_self ..)
    rw [spaced_cons, pieces_append_blank (by decide), pieces_of_forall hw.2,
      ih fun v hv => h v (List.mem_cons_of_mem w hv)]
    rfl

theorem words_spaced {ws : List (List Char)} (h : ∀ w ∈ ws, IsWord w) (x : List Char) :
    words (spaced ws x) = ws ++ words x := by
  rw [words, pieces_spaced h, List.filter_append, List.filter_eq_self.2]
  · rfl
  · exact fun w hw => by simpa using (h w hw).1

/-- Words joined by spaces have no space behind the last one. -/
theorem intercalate_append_singleton (ws : List (List Char)) (w : List Char) :
    [' '].intercalate (ws ++ [w]) = spaced ws w := by
  induction ws with
  | nil => exact List.intercalate_singleton
  | cons v ws ih =>
    rw [List.cons_append, List.intercalate_cons_of_ne_nil (by simp), ih, spaced_cons,
      List.append_assoc]
    rfl

theorem words_intercalate {ws : List (List Char)} (h : ∀ w ∈ ws, IsWord w) :
    words ([' '].intercalate ws) = ws := by
  rcases List.eq_nil_or_concat' ws with rfl | ⟨ws, w, rfl⟩
  · rfl
  · rw [intercalate_append_singleton, words_spaced fun v hv => h v (by simp [hv]),
      words_of_isWord (h w (by simp))]

/-! ### Where a word stands -/

/-- A text that does not start with a blank starts with its first word. -/
theorem exists_words_cons {c : Char} (hc : isBlank c = false) (r : List Char) :
    ∃ p ps, words (c :: r) = (c :: p) :: ps := by
  obtain ⟨p, ps, hpieces⟩ := List.exists_cons_of_ne_nil (pieces_ne_nil r)
  exact ⟨p, ps.filter fun p => !p.isEmpty, by simp [words, pieces, hc, hpieces]⟩

/-- Between two blanks there is an empty piece. -/
theorem nil_mem_pieces {b c : Char} (hb : isBlank b = true) (hc : isBlank c = true)
    (s t : List Char) : [] ∈ pieces (s ++ b :: c :: t) := by
  rw [pieces_append_blank hb, pieces, if_pos hc]
  simp

theorem prefix_of_pieces_eq_cons {s p : List Char} {ps : List (List Char)}
    (h : pieces s = p :: ps) : p <+: s := by
  induction s generalizing p ps with
  | nil =>
    cases h
    exact List.prefix_rfl
  | cons c r ih =>
    rw [pieces] at h
    split at h
    · cases h
      exact List.nil_prefix
    · split at h
      · next hnil => exact absurd hnil (pieces_ne_nil r)
      · next q qs hq =>
        cases h
        exact List.cons_prefix_cons.2 ⟨rfl, ih hq⟩

/-- A piece that is not the first one stands directly after a blank. -/
theorem exists_blank_before_piece {s p : List Char} {ps : List (List Char)}
    (h : pieces s = p :: ps) {q : List Char} (hq : q ∈ ps) :
    ∃ before b after, s = before ++ b :: (q ++ after) ∧ isBlank b = true := by
  induction s generalizing p ps with
  | nil =>
    cases h
    cases hq
  | cons c r ih =>
    obtain ⟨p', ps', hr⟩ := List.exists_cons_of_ne_nil (pieces_ne_nil r)
    have hlater : q ∈ ps' → ∃ before b after, c :: r = before ++ b :: (q ++ after) ∧
        isBlank b = true := by
      intro hq
      obtain ⟨before, b, after, hsplit, hb⟩ := ih hr hq
      exact ⟨c :: before, b, after, by rw [hsplit, List.cons_append], hb⟩
    rw [pieces, hr] at h
    split at h
    · next hc =>
      cases h
      rcases List.mem_cons.1 hq with rfl | hq
      · obtain ⟨after, rfl⟩ := prefix_of_pieces_eq_cons hr
        exact ⟨[], c, after, rfl, hc⟩
      · exact hlater hq
    · cases h
      exact hlater hq

/-- A text without blanks is found in one word. -/
theorem exists_word_of_infix {v s : List Char} (hv : IsWord v) (h : v <:+: s) :
    ∃ w ∈ words s, v <:+: w := by
  obtain ⟨before, after, rfl⟩ := h
  -- the word goes on until the next blank
  obtain ⟨u, t, rfl, hu, ht⟩ : ∃ u t, after = u ++ t ∧ (∀ c ∈ u, isBlank c = false) ∧
      ∀ c ∈ t.head?, isBlank c = true := by
    refine ⟨after.takeWhile (!isBlank ·), after.dropWhile (!isBlank ·),
      List.takeWhile_append_dropWhile.symm, fun c hc => ?_, fun c hc => ?_⟩
    · simpa using List.all_eq_true.1 List.all_takeWhile c hc
    · simpa using eq_false_of_head?_dropWhile c hc
  have hword : IsWord (v ++ u) := by
    refine ⟨by simp [hv.1], fun c hc => ?_⟩
    rcases List.mem_append.1 hc with hc | hc
    · exact hv.2 c hc
    · exact hu c hc
  obtain ⟨ws, q, hwords⟩ := exists_words_append before hword
  refine ⟨q ++ (v ++ u), ?_, ⟨q, u, by simp⟩⟩
  have hsplit : before ++ v ++ (u ++ t) = (before ++ (v ++ u)) ++ t := by simp
  rw [hsplit]
  cases t with
  | nil => simp [hwords]
  | cons c t =>
    rw [words_append_blank (ht c rfl), hwords]
    simp

theorem isWord_of_mem_words {w s : List Char} (hw : w ∈ words s) : IsWord w := by
  obtain ⟨hpiece, hne⟩ := List.mem_filter.1 hw
  exact ⟨by simpa using hne, isBlank_of_mem_pieces hpiece⟩

theorem infix_of_mem_words {w s : List Char} (hw : w ∈ words s) : w <:+: s := by
  obtain ⟨p, ps, hpieces⟩ := List.exists_cons_of_ne_nil (pieces_ne_nil s)
  have hpiece : w ∈ pieces s := (List.mem_filter.1 hw).1
  rw [hpieces] at hpiece
  rcases List.mem_cons.1 hpiece with rfl | hlater
  · exact (prefix_of_pieces_eq_cons hpieces).isInfix
  · obtain ⟨before, b, after, rfl, -⟩ := exists_blank_before_piece hpieces hlater
    exact ⟨before ++ [b], after, by simp⟩

/-- A word with another one before it stands directly after a blank. -/
theorem exists_blank_before {s v w : List Char} (h : [v, w] <:+: words s) :
    ∃ before b after, s = before ++ b :: (w ++ after) ∧ isBlank b = true := by
  obtain ⟨p, ps, hpieces⟩ := List.exists_cons_of_ne_nil (pieces_ne_nil s)
  refine exists_blank_before_piece hpieces ?_
  obtain ⟨ws, ws', hwords⟩ := h
  have htail : w ∈ (words s).tail := by
    rw [← hwords]
    cases ws <;> simp
  rw [words, hpieces, List.filter_cons] at htail
  split at htail
  · exact (List.mem_filter.1 htail).1
  · exact (List.mem_filter.1 (List.mem_of_mem_tail htail)).1

/-! ### The ends of a text -/

/-- There is no blank at the ends of the text. -/
def Trimmed (s : List Char) : Prop :=
  (∀ c ∈ s.head?, isBlank c = false) ∧ ∀ c ∈ s.getLast?, isBlank c = false

theorem dropWhile_eq_self_iff_head? {p : Char → Bool} {s : List Char} :
    s.dropWhile p = s ↔ ∀ c ∈ s.head?, p c = false := by
  cases s <;> simp [List.dropWhile_eq_self_iff]

theorem trim_eq_self_iff {s : List Char} : trim s = s ↔ Trimmed s := by
  have hstart : trimStart s = s ↔ ∀ c ∈ s.head?, isBlank c = false := dropWhile_eq_self_iff_head?
  have hend : trimEnd s = s ↔ ∀ c ∈ s.getLast?, isBlank c = false := by
    rw [trimEnd, List.reverse_eq_iff, dropWhile_eq_self_iff_head?, List.head?_reverse]
  rw [Trimmed, ← hstart, ← hend]
  constructor
  · intro h
    -- neither of the two steps can have shortened the text
    have hlength := congrArg List.length h
    have hle := (List.dropWhile_suffix isBlank (l := s)).length_le
    have hle' := (List.dropWhile_suffix isBlank (l := (trimStart s).reverse)).length_le
    rw [trim, trimEnd, List.length_reverse] at hlength
    rw [List.length_reverse] at hle'
    have hsame : trimStart s = s :=
      (List.dropWhile_suffix isBlank).eq_of_length (by rw [trimStart] at *; omega)
    refine ⟨hsame, ?_⟩
    rwa [trim, hsame] at h
  · rintro ⟨h, h'⟩
    rw [trim, h, h']

theorem IsWord.trimmed {w : List Char} (hw : IsWord w) : Trimmed w :=
  ⟨fun c hc => hw.2 c (List.mem_of_mem_head? hc), fun c hc => hw.2 c (List.mem_of_getLast? hc)⟩

theorem trim_of_isWord {w : List Char} (hw : IsWord w) : trim w = w :=
  trim_eq_self_iff.2 hw.trimmed

theorem Trimmed.append {s t : List Char} (hs : Trimmed s) (hne : s ≠ []) (ht : Trimmed t)
    (hne' : t ≠ []) (b : List Char) : Trimmed (s ++ (b ++ t)) := by
  refine ⟨fun c hc => hs.1 c ?_, fun c hc => ht.2 c ?_⟩
  · rwa [head?_append_of_ne_nil hne] at hc
  · rwa [List.getLast?_append, List.getLast?_append, List.getLast?_eq_some_getLast hne',
      Option.some_or, Option.some_or, ← List.getLast?_eq_some_getLast hne'] at hc

theorem trimmed_spaced {ws : List (List Char)} (h : ∀ w ∈ ws, IsWord w) {x : List Char}
    (hne : x ≠ []) (hx : Trimmed x) : Trimmed (spaced ws x) ∧ spaced ws x ≠ [] := by
  induction ws with
  | nil => exact ⟨hx, hne⟩
  | cons w ws ih =>
    have hw := h w (List.mem_cons_self ..)
    obtain ⟨hrest, hne'⟩ := ih fun v hv => h v (List.mem_cons_of_mem w hv)
    exact ⟨hw.trimmed.append hw.1 hrest hne' [' '], by simp⟩

theorem trimmed_intercalate {ws : List (List Char)} (h : ∀ w ∈ ws, IsWord w) :
    Trimmed ([' '].intercalate ws) := by
  rcases List.eq_nil_or_concat' ws with rfl | ⟨ws, w, rfl⟩
  · exact ⟨by simp, by simp⟩
  · have hw := h w (by simp)
    rw [intercalate_append_singleton]
    exact (trimmed_spaced (fun v hv => h v (by simp [hv])) hw.1 hw.trimmed).1

theorem trimEnd_isPrefix (s : List Char) : trimEnd s <+: s := by
  rw [← List.reverse_suffix, trimEnd, List.reverse_reverse]
  exact List.dropWhile_suffix isBlank

theorem trim_isInfix (s : List Char) : trim s <:+: s :=
  (trimEnd_isPrefix _).isInfix.trans (List.dropWhile_suffix isBlank).isInfix

theorem trim_subset (s : List Char) : trim s ⊆ s := (trim_isInfix s).subset

theorem trimmed_trim (s : List Char) : Trimmed (trim s) := by
  constructor
  · obtain ⟨r, hr⟩ := trimEnd_isPrefix (trimStart s)
    intro c hc
    refine eq_false_of_head?_dropWhile (s := s) c ?_
    have hhead : (trimEnd (trimStart s)).head? = some c := hc
    rw [← trimStart, ← hr, List.head?_append, hhead, Option.some_or]
    rfl
  · intro c hc
    rw [trim, trimEnd, List.getLast?_reverse] at hc
    exact eq_false_of_head?_dropWhile c hc

/-- Blanks behind a text are dropped. -/
theorem trim_append_of_isBlank {s b : List Char} (hs : Trimmed s) (hne : s ≠ [])
    (hb : ∀ c ∈ b, isBlank c = true) : trim (s ++ b) = s := by
  have hstart : trimStart (s ++ b) = s ++ b := by
    refine dropWhile_eq_self_iff_head?.2 ?_
    rw [head?_append_of_ne_nil hne]
    exact hs.1
  have hblank : ∀ c ∈ b.reverse, isBlank c = true := fun c hc => hb c (List.mem_reverse.1 hc)
  have hlast : ∀ c ∈ s.reverse.head?, isBlank c = false := by
    rw [List.head?_reverse]
    exact hs.2
  rw [trim, hstart, trimEnd, List.reverse_append, dropWhile_append_of_head? hblank hlast,
    List.reverse_reverse]

/-- Without blanks in front a text is what trimming leaves of it, with blanks behind. -/
theorem exists_trim_append {s : List Char} (h : ∀ c ∈ s.head?, isBlank c = false) :
    ∃ b, s = trim s ++ b ∧ ∀ c ∈ b, isBlank c = true := by
  have hstart : trimStart s = s := dropWhile_eq_self_iff_head?.2 h
  refine ⟨(s.reverse.takeWhile isBlank).reverse, ?_, fun c hc => ?_⟩
  · rw [trim, hstart, trimEnd, ← List.reverse_append, List.takeWhile_append_dropWhile,
      List.reverse_reverse]
  · exact List.all_eq_true.1 List.all_takeWhile c (List.mem_reverse.1 hc)

@[simp] theorem trim_trim (s : List Char) : trim (trim s) = trim s :=
  trim_eq_self_iff.2 (trimmed_trim s)

end GridTalk.Text
