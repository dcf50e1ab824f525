import GridTalk.Json.Reading

/-!
# Strings in JSON text

A string is written with some of its characters escaped, and read as code points that are joined to
characters again.

* `Json.codesHead?_escapedChar`: one character.
* `Json.codesHead?_flatMap`: a string up to its closing quote, whatever follows it.
* `Json.textOfCodes?_map_toNat`: no character is half of a surrogate pair.
-/

namespace GridTalk.Json

/-! ### Characters -/

/-- Four hexadecimal digits are read as the control that they spell. -/
theorem hexFour?_hexFour : ∀ n < 0x20,
    hexFour? (n / 4096 % 16).digitChar (n / 256 % 16).digitChar (n / 16 % 16).digitChar
      (n % 16).digitChar = some n := by
  decide

/-- What is read when a character comes before a string. -/
def consCode (c : Char) (p : List Nat × List Char) : List Nat × List Char := (c.toNat :: p.1, p.2)

theorem codesHead?_escape {e c : Char} (h : unescaped? e = some c) (r : List Char) :
    codesHead? ('\\' :: e :: r) = (codesHead? r).map (consCode c) := by
  have hu : e ≠ 'u' := by
    rintro rfl
    cases h
  rw [codesHead?.eq_def]
  split
  · next hr => cases hr
  · next hr => cases hr
  · next hr =>
    cases hr
    exact absurd rfl hu
  · next hr =>
    cases hr
    rw [h]
    rfl
  · next hnot hr =>
    cases hr
    exact (hnot e r rfl rfl).elim

/-- A character that is written as it is. -/
theorem codesHead?_cons {c : Char} (hquote : c ≠ '"') (hslash : c ≠ '\\') (hcode : 0x20 ≤ c.toNat)
    (r : List Char) : codesHead? (c :: r) = (codesHead? r).map (consCode c) := by
  rw [codesHead?.eq_def]
  split
  · next h => cases h
  · next h =>
    cases h
    exact absurd rfl hquote
  · next h =>
    cases h
    exact absurd rfl hslash
  · next h =>
    cases h
    exact absurd rfl hslash
  · next h =>
    cases h
    rw [if_neg (by simp [hslash]; omega)]
    rfl

/-- A character is read as it was written, escaped or not. -/
theorem codesHead?_escapedChar (c : Char) (r : List Char) :
    codesHead? (escapedChar c ++ r) = (codesHead? r).map (consCode c) := by
  unfold escapedChar
  split
  · next h =>
    rcases h with rfl | rfl <;> exact codesHead?_escape rfl r
  split
  · next h => exact h ▸ codesHead?_escape rfl r
  split
  · next h => exact h ▸ codesHead?_escape rfl r
  split
  · next h => exact h ▸ codesHead?_escape rfl r
  split
  · next h => exact h ▸ codesHead?_escape rfl r
  split
  · next h => exact h ▸ codesHead?_escape rfl r
  split
  · next h =>
    -- any other control
    have hcode := hexFour?_hexFour c.toNat h
    simp only [hexFour, List.map_cons, List.map_nil, List.cons_append, List.nil_append]
    rw [codesHead?, hcode]
    rfl
  · next hescaped _ _ _ _ _ hcode =>
    exact codesHead?_cons (fun h => hescaped (.inl h)) (fun h => hescaped (.inr h))
      (by omega) r

/-! ### Strings -/

/-- A string is read up to its closing quote. -/
theorem codesHead?_flatMap (s r : List Char) :
    codesHead? (s.flatMap escapedChar ++ '"' :: r) = some (s.map Char.toNat, r) := by
  induction s with
  | nil => rfl
  | cons c s ih =>
    rw [List.flatMap_cons, List.append_assoc, codesHead?_escapedChar, ih]
    rfl

/-- No character is half of a surrogate pair. -/
theorem not_half (c : Char) : isHighHalf c.toNat = false ∧ isLowHalf c.toNat = false := by
  have hvalid : c.toNat.isValidChar := c.valid
  simp only [isHighHalf, isLowHalf, Bool.and_eq_false_iff, decide_eq_false_iff_not]
  rcases hvalid with h | h <;> omega

theorem textOfCodes?_cons (c : Char) (ns : List Nat) :
    textOfCodes? (c.toNat :: ns) = (textOfCodes? ns).map (c :: ·) := by
  obtain ⟨hhigh, hlow⟩ := not_half c
  cases ns with
  | nil => simp [textOfCodes?, hhigh, hlow]
  | cons n ns => simp [textOfCodes?, hhigh, hlow]

/-- Characters are read from their code points. -/
theorem textOfCodes?_map_toNat (s : List Char) : textOfCodes? (s.map Char.toNat) = some s := by
  induction s with
  | nil => rfl
  | cons c s ih => rw [List.map_cons, textOfCodes?_cons, ih, Option.map_some]

end GridTalk.Json
