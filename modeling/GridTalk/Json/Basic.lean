import GridTalk.Decimal.Layout

/-!
# JSON values and their text

* `Json`: a value; numbers are exact decimal numbers.
* `Json.ofFloat`: a float as a value, `null` when it is not finite.
* `Json.render`: the compact text, in which only quotes, backslashes and controls are escaped.
-/

namespace GridTalk

/-- A JSON value. -/
inductive Json
  | null
  | boolean (b : Bool)
  /-- A whole number, written without a point. -/
  | integer (n : Int)
  /-- A number, written with a point or an exponent. -/
  | number (x : Numeral)
  | string (s : String)
  | array (items : List Json)
  | object (fields : List (String × Json))
  /-- Something well formed that has no meaning: a string in it has half of a surrogate pair. -/
  | malformed
  deriving Repr

namespace Json

/-- Numbers have a point or an exponent, and the sign of a negative zero. -/
def numberStyle : NumberStyle where
  tie := .even
  signedZero := true
  wholeEnd := ".0"
  positional first := -5 ≤ first ∧ first < 16
  nan := "null"
  infinity := "null"
  negativeInfinity := "null"

/-- A float as a value. -/
def ofFloat (x : Float) : Json :=
  if x.isFinite then number (Numeral.ofFloat numberStyle.tie x) else null

/-- A count as a value. -/
def ofNat (n : Nat) : Json := integer n

/-- Strings as a value. -/
def ofStrings (ss : List String) : Json := array (ss.map string)

/-- Four small hexadecimal digits of a code point below `0x10000`. -/
def hexFour (n : Nat) : List Char :=
  [n / 4096 % 16, n / 256 % 16, n / 16 % 16, n % 16].map Nat.digitChar

/-- A character as it stands in a string. -/
def escapedChar (c : Char) : List Char :=
  if c = '"' ∨ c = '\\' then ['\\', c]
  else if c = '\n' then ['\\', 'n']
  else if c = '\t' then ['\\', 't']
  else if c = '\r' then ['\\', 'r']
  else if c = '\x08' then ['\\', 'b']
  else if c = '\x0c' then ['\\', 'f']
  else if c.toNat < 0x20 then '\\' :: 'u' :: hexFour c.toNat
  else [c]

/-- A string in its quotes. -/
def renderString (s : String) : List Char := '"' :: s.toList.flatMap escapedChar ++ ['"']

mutual

/-- The compact text of a value. -/
def render : Json → List Char
  | null => "null".toList
  | boolean b => (if b then "true" else "false").toList
  | integer n => (toString n).toList
  | number x => numberStyle.write x
  | string s => renderString s
  | array [] => ['[', ']']
  | array (x :: xs) => '[' :: render x ++ renderItems xs
  | object [] => ['\x7b', '\x7d']
  | object ((k, x) :: fs) => '\x7b' :: renderString k ++ ':' :: render x ++ renderFields fs
  | malformed => "null".toList

/-- The items of an array after the first one, and its end. -/
def renderItems : List Json → List Char
  | [] => [']']
  | x :: xs => ',' :: render x ++ renderItems xs

/-- The fields of an object after the first one, and its end. -/
def renderFields : List (String × Json) → List Char
  | [] => ['\x7d']
  | (k, x) :: fs => ',' :: renderString k ++ ':' :: render x ++ renderFields fs

end

end Json

end GridTalk
