import GridTalk.Csv
import GridTalk.Json.Grid
import GridTalk.Session
import GridTalk.Server.SessionId

/-!
# Replies

What the server answers.

* `ServerError`: the causes of failure, with status, code and message.
* `Reply`: a status and what comes with it.
* `sessionJson`, `editJson`: a session and an edit of its grid, as the owner sees them.
-/

namespace GridTalk

/-- The causes for which a request fails. -/
inductive ServerError
  /-- The instruction failed. -/
  | sheet (e : SheetError)
  /-- There is no session with this identifier. -/
  | unknownSession (id : SessionId)
  /-- The body is not what the endpoint understands.  The reader of the body has its own account of
  each fault; one fixed sentence stands for all of them here. -/
  | malformedBody
  /-- There are as many sessions as there can be. -/
  | sessionLimit (n : Nat)
  /-- The rows of the grid have different lengths. -/
  | unevenRows (uneven : Csv.Uneven)
  deriving DecidableEq, Repr

namespace ServerError

/-- The name of the cause, for programs. -/
def code : ServerError → String
  | sheet e => e.code
  | unknownSession _ => "NOT_FOUND"
  | malformedBody => "BAD_REQUEST"
  | sessionLimit _ => "SESSION_LIMIT"
  | unevenRows _ => "INVALID_CSV"

/-- The sentence that tells the cause. -/
def message : ServerError → String
  | sheet e => e.message
  | unknownSession id => "Not found: Session " ++ id.toText ++ " not found"
  | malformedBody => "Bad request: the body cannot be read"
  | sessionLimit n => "Session limit of " ++ toString n ++ " reached"
  | unevenRows uneven =>
    "CSV error: CSV error: found record with " ++ toString uneven.found
      ++ " fields, but the previous record has " ++ toString uneven.expected ++ " fields"

/-- The status of the answer. -/
def status : ServerError → Nat
  | sheet _ => 422
  | unknownSession _ => 404
  | malformedBody => 400
  | sessionLimit _ => 503
  | unevenRows _ => 400

end ServerError

/-- What the server answers. -/
inductive Reply
  /-- A status with nothing to tell. -/
  | bare (status : Nat)
  /-- A JSON value. -/
  | json (status : Nat) (body : Json)
  /-- A file of comma-separated values, and the headers that tell its media type and its name. -/
  | csv (mediaType disposition body : String)
  /-- No answer: the connection ends. -/
  | dropped
  deriving Repr

namespace Reply

/-- The answer to a request that fails.  A text that cannot be read ends the connection. -/
def ofError : ServerError → Reply
  | .sheet .splitCharacter => dropped
  | e => json e.status (.object [("error", .string e.message), ("code", .string e.code)])

/-- The media type of comma-separated values. -/
def csvType : String := "text/csv; charset=utf-8"

/-- Can a header have this value?  Controls other than the tab are refused. -/
def isHeaderText (s : String) : Bool :=
  s.toList.all fun c => c = '\t' || (0x20 ≤ c.toNat && c.toNat ≠ 0x7F)

/-- The header that gives a file a name; quotes in the name are replaced. -/
def dispositionOf (name : String) : String :=
  "attachment; filename=\""
    ++ String.ofList (name.toList.map fun c => if c = '"' then '_' else c) ++ ".csv\""

/-- A file to be saved, or status 500 if its name cannot stand in a header. -/
def ofFile (body name : String) : Reply :=
  if isHeaderText (dispositionOf name) then csv csvType (dispositionOf name) body else bare 500

/-- The same answer without its body. -/
def withoutBody : Reply → Reply
  | json status _ => bare status
  | csv mediaType disposition _ => csv mediaType disposition ""
  | r => r

end Reply

/-- A grid, if there is one. -/
def gridJson : Option Grid → Json
  | none => .null
  | some g => g.toJson

/-- A session as its owner sees it. -/
def sessionJson (id : SessionId) (session : Session) : Json :=
  .object [
    ("id", .string id.toText),
    ("sheetName", .string session.sheetName),
    ("fileName", .string session.fileName),
    ("grid", gridJson session.grid),
    ("history", .ofStrings session.log.entries),
    ("exportName", .string session.exportName)]

/-- What an instruction has done, and the grid afterwards. -/
def editJson (g : Grid) (edit : Edit) : Json :=
  .object [
    ("grid", g.toJson),
    ("message", .string edit.message),
    ("intent", .string edit.kind.name)]

end GridTalk
