import GridTalk.Json.Reading

/-!
# Request targets

What stands in the first line of a request: a path, and after a question mark the query.  Scheme and
host can stand in front of the path.

* `percentDecode`: bytes from a text in which `%41` stands for a byte.
* `utf8Decode`: text from bytes; what is not well formed becomes the replacement character.
* `Target.ofText`: path segments and query of a target.
* `queryFields`: the names and values of a query.
-/

namespace GridTalk

/-- The bytes of a text. -/
def utf8Bytes (s : List Char) : List UInt8 := (String.ofList s).toUTF8.data.toList

/-- Bytes with every percent sign and its two hexadecimal digits replaced by the byte they stand
for; a percent sign without two digits stays. -/
def percentDecode : List UInt8 → List UInt8
  | b :: h :: l :: r =>
    if b = 0x25 then
      match Json.hexValue? (Char.ofUInt8 h), Json.hexValue? (Char.ofUInt8 l) with
      | some m, some n => UInt8.ofNat (16 * m + n) :: percentDecode r
      | _, _ => b :: percentDecode (h :: l :: r)
    else b :: percentDecode (h :: l :: r)
  | bs => bs

/-- The character that stands for bytes which are no text. -/
def replacementChar : Char := '\ufffd'

/-- A character of which bytes are missing: its first byte, its code point so far, how many bytes
are missing, and whether the next one is the second. -/
structure OpenChar where
  first : UInt8
  value : Nat
  missing : Nat
  atSecond : Bool
  deriving DecidableEq, Repr

/-- Can this byte come next?  For a second byte, longer spellings than needed, surrogates and code
points above the greatest one are excluded. -/
def OpenChar.accepts (p : OpenChar) (b : UInt8) : Bool :=
  if p.atSecond ∧ p.first = 0xE0 then 0xA0 ≤ b && b ≤ 0xBF
  else if p.atSecond ∧ p.first = 0xED then 0x80 ≤ b && b ≤ 0x9F
  else if p.atSecond ∧ p.first = 0xF0 then 0x90 ≤ b && b ≤ 0xBF
  else if p.atSecond ∧ p.first = 0xF4 then 0x80 ≤ b && b ≤ 0x8F
  else 0x80 ≤ b && b ≤ 0xBF

/-- The next byte taken: its six bits are added to the code point. -/
def OpenChar.take (p : OpenChar) (b : UInt8) : OpenChar :=
  { p with value := 64 * p.value + (b.toNat - 0x80), missing := p.missing - 1, atSecond := false }

/-- The first byte of a character: what can be written at once, and what is still open. -/
def openChar (b : UInt8) : List Char × Option OpenChar :=
  if b < 0x80 then ([Char.ofNat b.toNat], none)
  else if 0xC2 ≤ b ∧ b ≤ 0xDF then ([], some ⟨b, b.toNat - 0xC0, 1, true⟩)
  else if 0xE0 ≤ b ∧ b ≤ 0xEF then ([], some ⟨b, b.toNat - 0xE0, 2, true⟩)
  else if 0xF0 ≤ b ∧ b ≤ 0xF4 then ([], some ⟨b, b.toNat - 0xF0, 3, true⟩)
  else ([replacementChar], none)

/-- The text of bytes that follow an open character.  A character that breaks off is replaced once,
and so is every byte that can start no character. -/
def utf8DecodeFrom : Option OpenChar → List UInt8 → List Char
  | none, [] => []
  | some _, [] => [replacementChar]
  | none, b :: r =>
    let (out, next) := openChar b
    out ++ utf8DecodeFrom next r
  | some p, b :: r =>
    if p.accepts b then
      if p.missing = 1 then Char.ofNat (p.take b).value :: utf8DecodeFrom none r
      else utf8DecodeFrom (some (p.take b)) r
    else
      let (out, next) := openChar b
      replacementChar :: out ++ utf8DecodeFrom next r

/-- The text of bytes. -/
def utf8Decode (bs : List UInt8) : List Char := utf8DecodeFrom none bs

/-- A text in which percent signs stand for bytes. -/
def percentText (s : List Char) : List Char := utf8Decode (percentDecode (utf8Bytes s))

/-- The pieces of a text between the places where a character stands. -/
def piecesAt (sep : Char) : List Char → List (List Char)
  | [] => [[]]
  | c :: r =>
    if c = sep then [] :: piecesAt sep r
    else match piecesAt sep r with
      | [] => [[c]]
      | p :: ps => (c :: p) :: ps

/-- What stands before the first place of a character, and what after it if there is one. -/
def cutAt (sep : Char) (s : List Char) : List Char × Option (List Char) :=
  match s.span (· != sep) with
  | (a, _ :: b) => (a, some b)
  | (a, []) => (a, none)

/-- A name or a value of a query: a plus sign stands for a space. -/
def queryText (s : List Char) : String :=
  String.ofList (percentText (s.map fun c => if c = '+' then ' ' else c))

/-- The fields of a query, in order. -/
def queryFields (query : List Char) : List (String × String) :=
  ((piecesAt '&' query).filter (· ≠ [])).map fun field =>
    let (name, value) := cutAt '=' field
    (queryText name, queryText (value.getD []))

/-- A request target: the segments of its path, and its query. -/
structure Target where
  segments : List (List Char)
  query : List Char
  deriving DecidableEq, Repr

/-- Can the character stand in the name of a scheme such as `http`? -/
def isSchemeChar (c : Char) : Bool := c.isAlphanum || c ∈ ['+', '-', '.', '~']

/-- What stands after the host in a target that names one, such as `http://host:80/path`. -/
def afterHost? (s : List Char) : Option (List Char) :=
  match s.dropWhile isSchemeChar with
  | ':' :: '/' :: '/' :: r => some (r.dropWhile fun c => c ∉ ['/', '?', '#'])
  | _ => none

/-- The parts of a target.  A host in front and a fragment at the end are not among them. -/
def Target.ofText (text : String) : Target :=
  let s := text.toList
  let (s, _) := cutAt '#' ((afterHost? s).getD s)
  let (path, query) := cutAt '?' s
  ⟨piecesAt '/' path, query.getD []⟩

end GridTalk
