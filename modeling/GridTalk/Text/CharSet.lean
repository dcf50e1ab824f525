/-!
# Sets of characters

A set of characters is a list of ranges of code points, both ends included.
-/

namespace GridTalk.Text

/-- Ranges of code points, each from its first member to its last. -/
abbrev CharSet := List (Nat × Nat)

/-- Is the character in one of the ranges? -/
def CharSet.contains (s : CharSet) (c : Char) : Bool :=
  s.any fun r => r.1 ≤ c.toNat && c.toNat ≤ r.2

theorem CharSet.contains_iff {s : CharSet} {c : Char} :
    s.contains c = true ↔ ∃ r ∈ s, r.1 ≤ c.toNat ∧ c.toNat ≤ r.2 := by
  simp [CharSet.contains]

end GridTalk.Text
