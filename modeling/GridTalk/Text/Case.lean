import GridTalk.Text.Blank
import GridTalk.Text.CaseTable

/-!
# Upper and lower case

Case mapping of whole texts, and the two ways in which titles are capitalised.

* `toUpper`, `toLower`: one letter, which can become several (`ß` is `SS` in upper case).
* `lower`: a whole text; a capital sigma that ends a word becomes the final sigma.
* `capitalizeWord`: first letter upper case, the others lower case.
* `capitalizeWords`: every word capitalised, with one space between two words.
* `capitalizeFirst`: first letter upper case, the others as they are.
-/

namespace GridTalk.Text

/-- The one-letter mapping of a table; a letter in none of the runs stays. -/
def mapRuns (runs : List CaseRun) (c : Char) : Char :=
  match runs.find? (·.contains c.toNat) with
  | some r => r.target c.toNat
  | none => c

/-- The full mapping: an expansion if the letter has one, else the one-letter mapping. -/
def mapCase (expansions : List (Nat × List Nat)) (runs : List CaseRun) (c : Char) : List Char :=
  match expansions.lookup c.toNat with
  | some ns => ns.map Char.ofNat
  | none => [mapRuns runs c]

/-- Upper case of one letter. -/
def toUpper (c : Char) : List Char := mapCase upperExpansions upperRuns c

/-- Lower case of one letter, whatever stands around it. -/
def toLower (c : Char) : List Char := mapCase lowerExpansions lowerRuns c

/-- Is the next letter, marks and signs skipped, one that has a case? -/
def casedAhead (s : List Char) : Bool :=
  match s.dropWhile caseIgnorableSet.contains with
  | [] => false
  | c :: _ => casedSet.contains c

/-- Lower case of a text that follows `before`, which is given from its end to its start.
A capital sigma is final when a cased letter stands before it and none after it. -/
def lowerAfter (before : List Char) : List Char → List Char
  | [] => []
  | c :: r =>
    (if c = 'Σ' then [if casedAhead before && !casedAhead r then 'ς' else 'σ'] else toLower c)
      ++ lowerAfter (c :: before) r

/-- Lower case of a whole text. -/
def lower (s : List Char) : List Char := lowerAfter [] s

/-- First letter in upper case, the others in lower case. -/
def capitalizeWord : List Char → List Char
  | [] => []
  | c :: r => toUpper c ++ lower r

/-- Each word capitalised, and one space between two words. -/
def capitalizeWords (s : List Char) : List Char :=
  [' '].intercalate ((words s).map capitalizeWord)

/-- First letter in upper case, the others kept. -/
def capitalizeFirst : List Char → List Char
  | [] => []
  | c :: r => toUpper c ++ r

/-- Does a text have a piece equal to `w`? -/
def hasInfix (w : List Char) : List Char → Bool
  | [] => w.isEmpty
  | c :: r => w.isPrefixOf (c :: r) || hasInfix w r

end GridTalk.Text
