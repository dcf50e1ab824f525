import GridTalk.Text.CharSet

/-!
# Blank characters

White space of any script, and what is done with it at the ends of a text and between its words.

* `isBlank`: the 25 characters of the Unicode property White_Space.
* `trim`: the text without the blanks at its two ends.
* `words`: the longest pieces without a blank, from left to right.
-/

namespace GridTalk.Text

/-- Tabs, line ends, spaces of every width, and the separators of lines and paragraphs. -/
def blankSet : CharSet :=
  [(0x9, 0xD), (0x20, 0x20), (0x85, 0x85), (0xA0, 0xA0), (0x1680, 0x1680), (0x2000, 0x200A),
   (0x2028, 0x2029), (0x202F, 0x202F), (0x205F, 0x205F), (0x3000, 0x3000)]

/-- Is the character white space? -/
def isBlank (c : Char) : Bool := blankSet.contains c

/-- The blanks in front are dropped. -/
def trimStart (s : List Char) : List Char := s.dropWhile isBlank

/-- The blanks at the end are dropped. -/
def trimEnd (s : List Char) : List Char := (s.reverse.dropWhile isBlank).reverse

/-- The blanks at both ends are dropped. -/
def trim (s : List Char) : List Char := trimEnd (trimStart s)

/-- The pieces between single blanks, empty ones included: one more than there are blanks. -/
def pieces : List Char → List (List Char)
  | [] => [[]]
  | c :: r =>
    if isBlank c then [] :: pieces r
    else match pieces r with
      | [] => [[c]]
      | p :: ps => (c :: p) :: ps

/-- The words of a text, each a longest piece without a blank. -/
def words (s : List Char) : List (List Char) := (pieces s).filter fun p => !p.isEmpty

theorem pieces_ne_nil (s : List Char) : pieces s ≠ [] := by
  cases s with
  | nil => simp [pieces]
  | cons c r =>
    rw [pieces]
    split
    · simp
    · split <;> simp

/-- A text without blanks is one piece. -/
theorem pieces_of_forall {s : List Char} (h : ∀ c ∈ s, isBlank c = false) : pieces s = [s] := by
  induction s with
  | nil => rfl
  | cons c r ih =>
    have hr := ih fun d hd => h d (List.mem_cons_of_mem c hd)
    simp [pieces, h c (List.mem_cons_self ..), hr]

/-- A blank divides a text into what stands before it and what stands after it. -/
theorem pieces_append_blank {c : Char} (hc : isBlank c = true) (s t : List Char) :
    pieces (s ++ c :: t) = pieces s ++ pieces t := by
  induction s with
  | nil => simp [pieces, hc]
  | cons d s ih =>
    rw [List.cons_append, pieces, pieces, ih]
    split
    · rfl
    · cases h : pieces s with
      | nil => exact absurd h (pieces_ne_nil s)
      | cons p ps => rfl

/-- The words of a text are those before a blank and those after it. -/
theorem words_append_blank {c : Char} (hc : isBlank c = true) (s t : List Char) :
    words (s ++ c :: t) = words s ++ words t := by
  rw [words, pieces_append_blank hc, List.filter_append, words, words]

/-- A text without blanks is one word, unless it is empty. -/
theorem words_of_forall {s : List Char} (hne : s ≠ []) (h : ∀ c ∈ s, isBlank c = false) :
    words s = [s] := by
  rw [words, pieces_of_forall h]
  simpa using hne

/-- Every piece is free of blanks. -/
theorem isBlank_of_mem_pieces {s p : List Char} (hp : p ∈ pieces s) :
    ∀ c ∈ p, isBlank c = false := by
  induction s generalizing p with
  | nil => simp_all [pieces]
  | cons c r ih =>
    rw [pieces] at hp
    split at hp
    · rcases List.mem_cons.1 hp with rfl | hp
      · simp
      · exact ih hp
    · next hc =>
      split at hp
      · next h => exact absurd h (pieces_ne_nil r)
      · next q qs h =>
        rcases List.mem_cons.1 hp with rfl | hp
        · intro d hd
          rcases List.mem_cons.1 hd with rfl | hd
          · simpa using hc
          · exact ih (by simp [h]) d hd
        · exact ih (by simp [h, hp])

end GridTalk.Text
