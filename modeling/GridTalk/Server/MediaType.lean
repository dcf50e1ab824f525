/-!
# Media types

What a request says about the form of its body, such as `application/json; charset=utf-8`.

* `MediaType.ofText?`: type and subtype, `none` if the text is no media type.
* `MediaType.isJson`: is the body JSON?
-/

namespace GridTalk

/-- A media type in small letters; what follows the last plus sign of the subtype is its suffix. -/
structure MediaType where
  type : List Char
  subtype : List Char
  suffix : Option (List Char)
  deriving DecidableEq, Repr

namespace MediaType

/-- A character of a type, a subtype, or a parameter's name or value. -/
def isToken (c : Char) : Bool :=
  c.isAlphanum || "!#$%&*+-.^_|~\x27\x60".toList.contains c

/-- A character of a parameter's value inside quotes. -/
def isQuotable (c : Char) : Bool := 31 < c.toNat && c.toNat < 127

mutual

/-- Are these the parameters after a semicolon?  `fuel` bounds the number of calls. -/
def areParameters : (fuel : Nat) → List Char → Bool
  | 0, _ => false
  | fuel + 1, s =>
    match s.dropWhile (· == ' ') with
    | [] => true
    | t =>
      match t.span isToken with
      | (_ :: _, '=' :: '"' :: c :: r) =>
        match r.span fun c => isQuotable c && c != '"' with
        | (_, '"' :: r) => isQuotable c && endsParameter fuel (r.dropWhile (· == ' '))
        | _ => false
      | (_ :: _, '=' :: r) =>
        match r.span isToken with
        | ([], []) => true
        | ([], _) => false
        | (_, r) => endsParameter fuel r
      | _ => false

/-- Is this the end, or a semicolon and further parameters? -/
def endsParameter : (fuel : Nat) → List Char → Bool
  | 0, _ => false
  | fuel + 1, s =>
    match s with
    | [] => true
    | ';' :: r => areParameters fuel r
    | _ => false

end

/-- Subtype and suffix, divided at the last plus sign that does not open the subtype. -/
def divide (s : List Char) : List Char × Option (List Char) :=
  let suffix := (s.reverse.takeWhile (· != '+')).reverse
  if suffix.length + 1 < s.length then (s.take (s.length - suffix.length - 1), some suffix)
  else (s, none)

/-- The media type that a text names, in any case. -/
def ofText? (text : String) : Option MediaType :=
  match (text.toList.map Char.toLower).span isToken with
  | (type@(_ :: _), '/' :: r) =>
    match r.span isToken with
    | (s@(_ :: _), rest) =>
      let (subtype, suffix) := divide s
      match rest with
      | [] => some ⟨type, subtype, suffix⟩
      | ';' :: r =>
        if areParameters (2 * r.length + 1) r then some ⟨type, subtype, suffix⟩ else none
      | _ => none
    | _ => none
  | _ => none

/-- Does the type say that the body is JSON, by its subtype or its suffix? -/
def isJson (t : MediaType) : Bool :=
  t.type == "application".toList && (t.subtype == "json".toList || t.suffix == some "json".toList)

end MediaType

end GridTalk
