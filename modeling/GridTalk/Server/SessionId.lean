import GridTalk.Json.Reading

/-!
# Session identifiers

A session is known by a number of 128 bits, written as 32 hexadecimal digits in groups of 8, 4, 4, 4
and 12.

* `SessionId.toText`: the usual spelling, in small letters with hyphens.
* `SessionId.ofText?`: the spellings that are understood, in any case: with hyphens, without them,
  in braces, and as a name of the form `urn:uuid:…`.
-/

namespace GridTalk

/-- The number of a session. -/
structure SessionId where
  bits : BitVec 128
  deriving DecidableEq, Repr

namespace SessionId

/-- The 32 digits of an identifier. -/
def digits (id : SessionId) : List Char :=
  (List.range 32).map fun i => Nat.digitChar (id.bits.toNat >>> (4 * (31 - i)) % 16)

/-- Digits with hyphens between their groups. -/
def hyphenate (ds : List Char) : List Char :=
  ds.take 8 ++ '-' :: (ds.drop 8).take 4 ++ '-' :: (ds.drop 12).take 4
    ++ '-' :: (ds.drop 16).take 4 ++ '-' :: ds.drop 20

/-- The usual spelling. -/
def toText (id : SessionId) : String := String.ofList (hyphenate id.digits)

/-- The identifier with these digits, of which there must be 32. -/
def ofDigits? (ds : List Char) : Option SessionId :=
  if ds.length = 32 then
    (ds.mapM Json.hexValue?).map fun ns => ⟨BitVec.ofNat 128 (ns.foldl (fun n d => 16 * n + d) 0)⟩
  else none

/-- The identifier with these digits, in groups with hyphens between them. -/
def ofGroups? (s : List Char) : Option SessionId :=
  let ds := s.filter (· ≠ '-')
  if s = hyphenate ds then ofDigits? ds else none

/-- What stands between an opening and a closing brace. -/
def unbraced? : List Char → Option (List Char)
  | '\x7b' :: r => if r.getLast? = some '\x7d' then some r.dropLast else none
  | _ => none

/-- What stands after the word that opens a name of identifiers. -/
def unnamed? (s : List Char) : Option (List Char) :=
  let word := "urn:uuid:".toList
  if (s.take word.length).map Char.toLower = word then some (s.drop word.length) else none

/-- The identifier that a text spells. -/
def ofText? (s : List Char) : Option SessionId :=
  ofDigits? s <|> ofGroups? s <|> (unbraced? s).bind ofGroups? <|> (unnamed? s).bind ofGroups?

end SessionId

end GridTalk
