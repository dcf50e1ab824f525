import GridTalk.Json.Grid
import GridTalk.Server.MediaType
import GridTalk.Server.SessionId
import GridTalk.Server.Url

/-!
# Requests

What a client asks of the server.

* `Request`: method, target, media type and body.
* `Endpoint.ofSegments?`: what a path leads to; a session in it is still text.
* `CreateBody`, `LoadBody`, `InstructionBody`: the bodies that are understood.
* `UploadNames.ofQuery?`: the names that a query gives to an uploaded file.

A body is an object whose fields have names, or an array with the same values in their order.
Fields with other names are ignored, and a name that is given twice is a fault.
-/

namespace GridTalk

/-- The methods of a request, whose names are in capitals; `other` is any other name. -/
inductive Method
  | get
  | head
  | post
  | put
  | delete
  | options
  | other
  deriving DecidableEq, Repr

/-- A request. -/
structure Request where
  method : Method
  target : String
  mediaType : Option String
  body : String
  deriving DecidableEq, Repr

/-- What the paths of the server lead to. -/
inductive Endpoint
  | health
  | examples
  | sessions
  | session (id : String)
  | grid (id : String)
  | sample (id : String)
  | csv (id : String)
  | instructions (id : String)
  deriving DecidableEq, Repr

/-- What the path with these segments leads to. -/
def Endpoint.ofSegments? (segments : List (List Char)) : Option Endpoint :=
  match segments.map String.ofList with
  | ["", "health"] => some health
  | ["", "api", "examples"] => some examples
  | ["", "api", "sessions"] => some sessions
  | ["", "api", "sessions", id] => if id = "" then none else some (session id)
  | ["", "api", "sessions", id, part] =>
    if id = "" then none
    else match part with
      | "grid" => some (grid id)
      | "sample" => some (sample id)
      | "csv" => some (csv id)
      | "instructions" => some (instructions id)
      | _ => none
  | _ => none

/-- The session that a path segment spells. -/
def sessionIdOf? (segment : String) : Option SessionId :=
  SessionId.ofText? (percentText segment.toList)

namespace Request

/-- How many bytes a body may have. -/
def bodyLimit : Nat := 2097152

/-- Is the body too long to be read? -/
def isTooLong (r : Request) : Bool := r.body.utf8ByteSize > bodyLimit

/-- The value that a JSON body starts with; the request has to say that its body is JSON. -/
def json? (r : Request) : Option Json := do
  let mediaType ← r.mediaType.bind MediaType.ofText?
  if mediaType.isJson ∧ ¬r.isTooLong then
    let (x, _) ← Json.head? r.body.toList
    return x
  else none

end Request

/-- The values of some fields, `none` where one is missing; fails if a name is given twice or there
are more values than names. -/
def fieldValues? (names : List String) : Json → Option (List (Option Json))
  | .object fields =>
    names.mapM fun name =>
      match fields.filter (·.1 == name) with
      | [] => some none
      | [field] => some (some field.2)
      | _ => none
  | .array items =>
    if items.length ≤ names.length then
      some (items.map some ++ List.replicate (names.length - items.length) none)
    else none
  | _ => none

/-- A value that can be missing or null. -/
def optional? {α : Type} (read? : Json → Option α) : Option Json → Option (Option α)
  | none => some none
  | some .null => some none
  | some x => (read? x).map some

/-- A text. -/
def stringOf? : Json → Option String
  | .string s => some s
  | _ => none

/-- A truth value, false if it is missing. -/
def flag? : Option Json → Option Bool
  | none => some false
  | some (.boolean b) => some b
  | _ => none

/-- The names of an uploaded sheet and of its file, where they are given. -/
structure UploadNames where
  sheetName : Option String
  fileName : Option String
  deriving DecidableEq, Repr

/-- The sheet name of an upload that gives none. -/
def UploadNames.defaultSheet : String := "Sheet1"

/-- The sheet name of an upload. -/
def UploadNames.sheet (names : UploadNames) : String :=
  names.sheetName.getD UploadNames.defaultSheet

/-- The file name of an upload. -/
def UploadNames.file (names : UploadNames) : String := names.fileName.getD ""

/-- The names that a query gives; fails if one is given twice. -/
def UploadNames.ofQuery? (query : List Char) : Option UploadNames :=
  let fields := (queryFields query).map fun (name, value) => (name, Json.string value)
  match fieldValues? ["sheetName", "fileName"] (.object fields) with
  | some [sheet, file] => some ⟨sheet.bind stringOf?, file.bind stringOf?⟩
  | _ => none

/-- The body of a request for a new session: rows and names if there are any, or the wish for the
built-in dataset. -/
structure CreateBody where
  rows : Option (List (List Cell))
  names : UploadNames
  sample : Bool
  deriving DecidableEq, Repr

/-- The body of a request for a new session. -/
def CreateBody.ofJson? (x : Json) : Option CreateBody :=
  match fieldValues? ["rows", "sheetName", "fileName", "sample"] x with
  | some [rows, sheet, file, sample] => do
    return ⟨← optional? rowsOfJson? rows, ⟨← optional? stringOf? sheet, ← optional? stringOf? file⟩,
      ← flag? sample⟩
  | _ => none

/-- The body of a request for another dataset: rows, and names if there are any. -/
structure LoadBody where
  rows : List (List Cell)
  names : UploadNames
  deriving DecidableEq, Repr

/-- The body of a request for another dataset. -/
def LoadBody.ofJson? (x : Json) : Option LoadBody :=
  match fieldValues? ["rows", "sheetName", "fileName"] x with
  | some [rows, sheet, file] => do
    return ⟨← rows.bind rowsOfJson?, ⟨← optional? stringOf? sheet, ← optional? stringOf? file⟩⟩
  | _ => none

/-- The instruction in the body of a request. -/
def instructionOfJson? (x : Json) : Option String :=
  match fieldValues? ["instruction"] x with
  | some [some text] => stringOf? text
  | _ => none

end GridTalk
