import GridTalk.Json.Basic

/-!
# Reading JSON

* `Json.head?`: the value at the start of a text, and what follows it.
* `Json.ofText?`: the value that a whole text is.

A string is read as code points first, and `textOfCodes?` then joins surrogate pairs; a value with
half a pair in it is read as `Json.malformed`.
-/

namespace GridTalk.Json

/-- The blanks between the tokens of a text. -/
def isSpace (c : Char) : Bool := c = ' ' || c = '\t' || c = '\n' || c = '\r'

/-- A text without the blanks in front. -/
def skipSpace (s : List Char) : List Char := s.dropWhile isSpace

/-! ### Strings -/

/-- What a hexadecimal digit is worth, in either case. -/
def hexValue? (c : Char) : Option Nat :=
  if c.isDigit then some (c.toNat - '0'.toNat)
  else if 'a' ≤ c ∧ c ≤ 'f' then some (c.toNat - 'a'.toNat + 10)
  else if 'A' ≤ c ∧ c ≤ 'F' then some (c.toNat - 'A'.toNat + 10)
  else none

/-- The value of four hexadecimal digits. -/
def hexFour? (a b c d : Char) : Option Nat := do
  return 4096 * (← hexValue? a) + 256 * (← hexValue? b) + 16 * (← hexValue? c) + (← hexValue? d)

/-- The character that a letter after a backslash stands for. -/
def unescaped? : Char → Option Char
  | '"' => some '"'
  | '\\' => some '\\'
  | '/' => some '/'
  | 'b' => some '\x08'
  | 'f' => some '\x0c'
  | 'n' => some '\n'
  | 'r' => some '\r'
  | 't' => some '\t'
  | _ => none

/-- The code points of a string up to its closing quote, and what follows. -/
def codesHead? : List Char → Option (List Nat × List Char)
  | [] => none
  | '"' :: r => some ([], r)
  | '\\' :: 'u' :: a :: b :: c :: d :: r =>
    (hexFour? a b c d).bind fun n => (codesHead? r).map fun (ns, u) => (n :: ns, u)
  | '\\' :: e :: r =>
    (unescaped? e).bind fun c => (codesHead? r).map fun (ns, u) => (c.toNat :: ns, u)
  | c :: r =>
    if c = '\\' ∨ c.toNat < 0x20 then none
    else (codesHead? r).map fun (ns, u) => (c.toNat :: ns, u)

/-- Is the code point the first half of a surrogate pair? -/
def isHighHalf (n : Nat) : Bool := 0xD800 ≤ n && n ≤ 0xDBFF

/-- Is the code point the second half of a surrogate pair? -/
def isLowHalf (n : Nat) : Bool := 0xDC00 ≤ n && n ≤ 0xDFFF

/-- The text of a string, `none` if it has half of a surrogate pair. -/
def textOfCodes? : List Nat → Option (List Char)
  | [] => some []
  | [n] => if isHighHalf n || isLowHalf n then none else some [Char.ofNat n]
  | n :: m :: r =>
    if isHighHalf n then
      if isLowHalf m then
        (textOfCodes? r).map (Char.ofNat (0x10000 + (n - 0xD800) * 0x400 + (m - 0xDC00)) :: ·)
      else none
    else if isLowHalf n then none
    else (textOfCodes? (m :: r)).map (Char.ofNat n :: ·)

/-! ### Numbers -/

/-- The fraction at the start of a text: nothing, or a point and digits. -/
def fractionHead? : List Char → Option (List Char × List Char)
  | '.' :: r =>
    let (part, u) := r.span Char.isDigit
    if part = [] then none else some ('.' :: part, u)
  | s => some ([], s)

/-- The exponent at the start of a text: nothing, or `e`, a sign that can be missing, and digits. -/
def exponentHead? : List Char → Option (List Char × List Char)
  | e :: r =>
    if e = 'e' ∨ e = 'E' then
      let (sign, r) :=
        match r with
        | '+' :: r => (['+'], r)
        | '-' :: r => (['-'], r)
        | _ => ([], r)
      let (ds, u) := r.span Char.isDigit
      if ds = [] then none else some (e :: sign ++ ds, u)
    else some ([], e :: r)
  | [] => some ([], [])

/-- The number at the start of a text.  Digits in front of the point have no needless zero. -/
def numberHead? (s : List Char) : Option (Numeral × List Char) := do
  let (sign, r) :=
    match s with
    | '-' :: r => (['-'], r)
    | _ => ([], s)
  let (whole, r) := r.span Char.isDigit
  if whole = [] ∨ (whole.length > 1 ∧ whole.head? = some '0') then none
  else
    let (fraction, r) ← fractionHead? r
    let (exponent, r) ← exponentHead? r
    let x ← Numeral.ofText? (sign ++ whole ++ fraction ++ exponent)
    return (x, r)

/-! ### Values -/

/-- A word at the start of a text, and what it stands for. -/
def wordHead? (word : String) (x : Json) (s : List Char) : Option (Json × List Char) :=
  if word.toList.isPrefixOf s then some (x, s.drop word.length) else none

mutual

/-- The value at the start of a text without blanks in front.  `fuel` bounds the number of calls. -/
def valueHead? : (fuel : Nat) → List Char → Option (Json × List Char)
  | 0, _ => none
  | fuel + 1, s =>
    match s with
    | '"' :: r =>
      (codesHead? r).map fun (ns, u) =>
        match textOfCodes? ns with
        | some cs => (string (String.ofList cs), u)
        | none => (malformed, u)
    | '[' :: r =>
      match skipSpace r with
      | ']' :: u => some (array [], u)
      | r => (itemsHead? fuel r).map fun (xs, u) => (array xs, u)
    | '\x7b' :: r =>
      match skipSpace r with
      | '\x7d' :: u => some (object [], u)
      | r =>
        (fieldsHead? fuel r).map fun (fs, u) =>
          match fs with
          | some fs => (object fs, u)
          | none => (malformed, u)
    | 'n' :: _ => wordHead? "null" null s
    | 't' :: _ => wordHead? "true" (boolean true) s
    | 'f' :: _ => wordHead? "false" (boolean false) s
    | _ => (numberHead? s).map fun (x, u) => (number x, u)

/-- The items of an array up to its end. -/
def itemsHead? : (fuel : Nat) → List Char → Option (List Json × List Char)
  | 0, _ => none
  | fuel + 1, s =>
    (valueHead? fuel s).bind fun (x, r) =>
      match skipSpace r with
      | ']' :: u => some ([x], u)
      | ',' :: r => (itemsHead? fuel (skipSpace r)).map fun (xs, u) => (x :: xs, u)
      | _ => none

/-- The fields of an object up to its end, no fields if a name has half of a surrogate pair. -/
def fieldsHead? : (fuel : Nat) → List Char → Option (Option (List (String × Json)) × List Char)
  | 0, _ => none
  | fuel + 1, s =>
    match s with
    | '"' :: r =>
      (codesHead? r).bind fun (ns, r) =>
        match skipSpace r with
        | ':' :: r =>
          (valueHead? fuel (skipSpace r)).bind fun (x, r) =>
            let field := (textOfCodes? ns).map fun cs => (String.ofList cs, x)
            match skipSpace r with
            | '\x7d' :: u => some (field.map ([·]), u)
            | ',' :: r =>
              (fieldsHead? fuel (skipSpace r)).map fun (fs, u) =>
                (field.bind fun f => fs.map (f :: ·), u)
            | _ => none
        | _ => none
    | _ => none

end

/-- The value at the start of a text, and what follows it.  Every call but the first is made after
a character has been read, so twice the length of the text is fuel enough. -/
def head? (s : List Char) : Option (Json × List Char) :=
  valueHead? (2 * s.length + 2) (skipSpace s)

/-- The value that a whole text is. -/
def ofText? (text : String) : Option Json :=
  (head? text.toList).bind fun (x, r) => if skipSpace r = [] then some x else none

end GridTalk.Json
