import GridTalk.Csv
import GridTalk.Server.Config
import GridTalk.Server.Reply
import GridTalk.Server.Request

/-!
# The server

The sessions that are open, and what each request does to them.

* `Server.find?`, `Server.put`, `Server.erase`: the table of sessions.
* `Server.open`: a new session, unless there are too many.
* `Server.respond`: the answer to a request, and the server after it.

A new session gets an identifier that the caller of `respond` supplies.  A session in a path is read
first, then the query, then the body, and at last the session is looked up.
-/

namespace GridTalk

/-- The dataset that a new session starts with. -/
def CreateBody.loadInto (body : CreateBody) (session : Session) : Session :=
  if body.sample then session.loadSample
  else
    match body.rows with
    | some rows => session.loadUpload rows body.names.sheet body.names.file
    | none => session

/-- The open sessions, and the limits that hold for them. -/
structure Server where
  historyLimit : Nat
  maxSessions : Nat
  sessions : List (SessionId × Session)
  deriving DecidableEq, Repr

namespace Server

/-- A server without sessions. -/
def new (historyLimit maxSessions : Nat) : Server := ⟨historyLimit, maxSessions, []⟩

/-- A server without sessions, with the limits of a configuration. -/
def ofConfig (c : Config) : Server := new c.historyLimit c.maxSessions

/-- The number of open sessions. -/
def count (server : Server) : Nat := server.sessions.length

/-- The session with this identifier. -/
def find? (server : Server) (id : SessionId) : Option Session := server.sessions.lookup id

/-- The session with this identifier gone. -/
def erase (server : Server) (id : SessionId) : Server :=
  { server with sessions := server.sessions.filter fun entry => entry.1 ≠ id }

/-- This session under this identifier, in the place of one that was there. -/
def put (server : Server) (id : SessionId) (session : Session) : Server :=
  if (server.find? id).isSome then
    { server with
      sessions := server.sessions.map fun entry => if entry.1 = id then (id, session) else entry }
  else { server with sessions := server.sessions ++ [(id, session)] }

/-! ### The endpoints -/

/-- The outcome of a request: an answer or the cause of a failure, and the server after it. -/
abbrev Outcome := Except ServerError Reply × Server

/-- How many sessions there are. -/
def health (server : Server) : Reply :=
  .json 200 (.object [
    ("status", .string "ok"),
    ("version", .string "0.1.0"),
    ("sessions", .ofNat server.count),
    ("historyLimit", .ofNat server.historyLimit)])

/-- Instructions to try. -/
def examples : Reply := .json 200 (.object [("examples", .ofStrings Preset.examples)])

/-- A new session.  The body is read before the number of sessions is looked at. -/
def createSession (server : Server) (fresh : SessionId) (r : Request) : Outcome :=
  match r.json?.bind CreateBody.ofJson? with
  | none => (.error .malformedBody, server)
  | some body =>
    if server.count ≥ server.maxSessions then
      (.error (.sessionLimit server.maxSessions), server)
    else
      let session := CreateBody.loadInto body (Session.new server.historyLimit)
      (.ok (.json 201 (sessionJson fresh session)), server.put fresh session)

/-- What is done with the session of this identifier, if it is open. -/
def withSession (server : Server) (id : SessionId) (act : Session → Outcome) : Outcome :=
  match server.find? id with
  | none => (.error (.unknownSession id), server)
  | some session => act session

/-- A session shown after a change. -/
def store (server : Server) (id : SessionId) (session : Session) : Outcome :=
  (.ok (.json 200 (sessionJson id session)), server.put id session)

/-- A session shown. -/
def showSession (server : Server) (id : SessionId) : Outcome :=
  server.withSession id fun session => (.ok (.json 200 (sessionJson id session)), server)

/-- A session closed. -/
def deleteSession (server : Server) (id : SessionId) : Outcome :=
  server.withSession id fun _ => (.ok (.bare 204), server.erase id)

/-- Another dataset, given as rows. -/
def loadGrid (server : Server) (id : SessionId) (r : Request) : Outcome :=
  match r.json?.bind LoadBody.ofJson? with
  | none => (.error .malformedBody, server)
  | some body =>
    server.withSession id fun session =>
      server.store id (session.loadUpload body.rows body.names.sheet body.names.file)

/-- The built-in dataset. -/
def loadSample (server : Server) (id : SessionId) : Outcome :=
  server.withSession id fun session => server.store id session.loadSample

/-- Another dataset, given as comma-separated values. -/
def importCsv (server : Server) (id : SessionId) (query : List Char) (r : Request) : Outcome :=
  match UploadNames.ofQuery? query with
  | none => (.ok (.bare 400), server)
  | some names =>
    if r.isTooLong then (.ok (.bare 413), server)
    else
      server.withSession id fun session =>
        server.store id (session.loadUpload (Csv.readRows r.body) names.sheet names.file)

/-- The grid as comma-separated values. -/
def exportCsv (server : Server) (id : SessionId) : Outcome :=
  server.withSession id fun session =>
    match session.grid with
    | none => (.error (.sheet .noDataset), server)
    | some g =>
      match Csv.exportGrid g with
      | .error uneven => (.error (.unevenRows uneven), server)
      | .ok text => (.ok (.ofFile text session.exportName), server)

/-- One instruction carried out.  The session is stored, and then its grid is looked up again. -/
def runInstruction (server : Server) (id : SessionId) (r : Request) : Outcome :=
  match r.json?.bind instructionOfJson? with
  | none => (.error .malformedBody, server)
  | some text =>
    server.withSession id fun session =>
      match session.run text with
      | (.error e, _) => (.error (.sheet e), server)
      | (.ok edit, session) =>
        let server := server.put id session
        match session.grid with
        | none => (.error (.sheet .noDataset), server)
        | some g => (.ok (.json 200 (editJson g edit)), server)

/-- What is done for the session that a path names; a name that no session can have is refused. -/
def withId (server : Server) (segment : String) (act : SessionId → Outcome) : Outcome :=
  match sessionIdOf? segment with
  | none => (.ok (.bare 400), server)
  | some id => act id

/-- What an endpoint does, `none` if it does not know the method. -/
def serve? (server : Server) (fresh : SessionId) (endpoint : Endpoint) (method : Method)
    (query : List Char) (r : Request) : Option Outcome :=
  match endpoint, method with
  | .health, .get => some (.ok server.health, server)
  | .examples, .get => some (.ok examples, server)
  | .sessions, .post => some (server.createSession fresh r)
  | .session s, .get => some (server.withId s fun id => server.showSession id)
  | .session s, .delete => some (server.withId s fun id => server.deleteSession id)
  | .grid s, .put => some (server.withId s fun id => server.loadGrid id r)
  | .sample s, .post => some (server.withId s fun id => server.loadSample id)
  | .csv s, .get => some (server.withId s fun id => server.exportCsv id)
  | .csv s, .put => some (server.withId s fun id => server.importCsv id query r)
  | .instructions s, .post => some (server.withId s fun id => server.runInstruction id r)
  | _, _ => none

/-- An outcome as an answer. -/
def replyOf (outcome : Outcome) : Reply × Server :=
  match outcome with
  | (.ok reply, server) => (reply, server)
  | (.error e, server) => (.ofError e, server)

/-- The answer to a request, and the server after it.  Any path admits the question for options, and
a request for the head of an answer is answered without its body. -/
def respond (server : Server) (fresh : SessionId) (r : Request) : Reply × Server :=
  if r.method = .options then (.bare 200, server)
  else
    let target := Target.ofText r.target
    match Endpoint.ofSegments? target.segments with
    | none => (.bare 404, server)
    | some endpoint =>
      let method := if r.method = .head then .get else r.method
      match server.serve? fresh endpoint method target.query r with
      | none => (.bare 405, server)
      | some outcome =>
        let (reply, server) := replyOf outcome
        (if r.method = .head then reply.withoutBody else reply, server)

end Server

end GridTalk
