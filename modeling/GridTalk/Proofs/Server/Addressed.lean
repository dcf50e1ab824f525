import GridTalk.Proofs.Server.Table
import GridTalk.Proofs.Session.Replay

/-!
# Requests and the sessions that they name

A request whose path names a session is answered from this session alone and changes no other.  A
request for a new session depends on the server only through the number of open sessions, and all
other requests leave the sessions as they are.

* `Request.addressee?`, `Request.action?`, `Request.next`: which session a request names, what it
  asks of it, and what becomes of it.
* `Request.opening?`: the body of a request for a new session.
* `Server.Decided`: an outcome that one session decides.
* `Server.respond_of_addressee`, `Server.respond_of_opening`, `Server.respond_of_other`: the three
  kinds of request.
-/

namespace GridTalk

/-- The text in a path that names a session. -/
def Endpoint.sessionText? : Endpoint → Option String
  | health => none
  | examples => none
  | sessions => none
  | session text => some text
  | grid text => some text
  | sample text => some text
  | csv text => some text
  | instructions text => some text

/-- The action that loads the dataset of a new session. -/
def CreateBody.actions (body : CreateBody) : List Session.Action :=
  if body.sample then [.load Preset.rows Preset.sheetName Preset.fileName]
  else
    match body.rows with
    | some rows => [.loadUpload rows body.names.sheet body.names.file]
    | none => []

theorem CreateBody.loadInto_eq (body : CreateBody) (session : Session) :
    body.loadInto session = session.afterAll body.actions := by
  unfold loadInto actions
  split
  · rfl
  · cases body.rows <;> rfl

namespace Request

/-- What the path of a request leads to. -/
def endpoint? (r : Request) : Option Endpoint :=
  Endpoint.ofSegments? (Target.ofText r.target).segments

/-- The session that the path of a request names. -/
def addressee? (r : Request) : Option SessionId :=
  r.endpoint?.bind fun endpoint => endpoint.sessionText?.bind sessionIdOf?

/-- What a request asks of the session that it names: another dataset or an instruction, if the
request can be understood. -/
def action? (r : Request) : Option Session.Action :=
  match r.endpoint?, r.method with
  | some (.grid _), .put =>
    (r.json?.bind LoadBody.ofJson?).map fun body =>
      .loadUpload body.rows body.names.sheet body.names.file
  | some (.sample _), .post => some (.load Preset.rows Preset.sheetName Preset.fileName)
  | some (.csv _), .put =>
    (UploadNames.ofQuery? (Target.ofText r.target).query).bind fun names =>
      if r.isTooLong then none
      else some (.loadUpload (Csv.readRows r.body) names.sheet names.file)
  | some (.instructions _), .post => (r.json?.bind instructionOfJson?).map .run
  | _, _ => none

/-- Does a request ask for the session that it names to be closed? -/
def closes (r : Request) : Bool :=
  match r.endpoint?, r.method with
  | some (.session _), .delete => true
  | _, _ => false

/-- What becomes of an open session that a request names. -/
def next (r : Request) (session : Session) : Option Session :=
  if r.closes then none else some (session.afterAll r.action?.toList)

/-- The body of a request for a new session, if it can be understood. -/
def opening? (r : Request) : Option CreateBody :=
  match r.endpoint?, r.method with
  | some .sessions, .post => r.json?.bind CreateBody.ofJson?
  | _, _ => none

theorem addressee?_eq_some {r : Request} {id : SessionId} (h : r.addressee? = some id) :
    ∃ endpoint text, r.endpoint? = some endpoint ∧ endpoint.sessionText? = some text ∧
      sessionIdOf? text = some id := by
  obtain ⟨endpoint, hendpoint, h⟩ := Option.bind_eq_some_iff.1 h
  obtain ⟨text, htext, hid⟩ := Option.bind_eq_some_iff.1 h
  exact ⟨endpoint, text, hendpoint, htext, hid⟩

/-- A request for a new session names none. -/
theorem opening?_of_addressee {r : Request} {id : SessionId} (h : r.addressee? = some id) :
    r.opening? = none := by
  obtain ⟨endpoint, text, hendpoint, htext, -⟩ := addressee?_eq_some h
  unfold opening?
  split
  · next hsessions _ =>
    rw [hendpoint] at hsessions
    cases hsessions
    cases htext
  · rfl

end Request

namespace Server

variable {id : SessionId} {next : Session → Option Session}

/-- The outcome depends on one session alone, changes no other one, and makes `next` of this one if
it is open. -/
def Decided (id : SessionId) (next : Session → Option Session) (act : Server → Outcome) : Prop :=
  ∃ (answer : Option Session → Except ServerError Reply) (c : Option Session → Change),
    (∀ server, act server = (answer (server.find? id), server.change id (c (server.find? id)))) ∧
      ∀ session, (c session).apply session = session.bind next

/-- An answer that is always the same is decided by any session. -/
theorem decided_const (answer : Except ServerError Reply) :
    Decided id some fun server => (answer, server) :=
  ⟨fun _ => answer, fun _ => .keep, fun _ => rfl, fun session => by cases session <;> rfl⟩

theorem withSession_of_find? {server : Server} {session : Session}
    (hfind : server.find? id = some session) (act : Session → Outcome) :
    server.withSession id act = act session := by
  rw [withSession, hfind]

/-- What is done with an open session is decided by it. -/
theorem decided_withSession {act : Server → Session → Outcome}
    (answer : Session → Except ServerError Reply) (c : Session → Change)
    (hact : ∀ server session, act server session = (answer session, server.change id (c session)))
    (hnext : ∀ session, (c session).apply (some session) = next session) :
    Decided id next fun server => server.withSession id (act server) := by
  refine ⟨fun session => session.elim (.error (.unknownSession id)) answer,
    fun session => session.elim .keep c, fun server => ?_, fun session => ?_⟩
  · dsimp only [withSession]
    cases server.find? id with
    | none => rfl
    | some session => exact hact server session
  · cases session with
    | none => rfl
    | some session => exact hnext session

/-! ### The endpoints -/

theorem decided_showSession (id : SessionId) : Decided id some (showSession · id) :=
  decided_withSession _ (fun _ => .keep) (fun _ _ => rfl) fun _ => rfl

theorem decided_deleteSession (id : SessionId) :
    Decided id (fun _ => none) (deleteSession · id) :=
  decided_withSession (fun _ => .ok (.bare 204)) (fun _ => .erase) (fun _ _ => rfl) fun _ => rfl

/-- A session shown after a change. -/
theorem decided_store (id : SessionId) (f : Session → Session) :
    Decided id (fun session => some (f session)) fun server =>
      server.withSession id fun session => server.store id (f session) :=
  decided_withSession _ (fun session => .put (f session)) (fun _ _ => rfl) fun _ => rfl

theorem decided_loadGrid (id : SessionId) (r : Request) :
    Decided id
      (fun session => some (session.afterAll
        ((r.json?.bind LoadBody.ofJson?).map fun body =>
          Session.Action.loadUpload body.rows body.names.sheet body.names.file).toList))
      (loadGrid · id r) := by
  unfold loadGrid
  cases r.json?.bind LoadBody.ofJson? with
  | none => exact decided_const _
  | some body => exact decided_store id fun session => session.loadUpload body.rows _ _

theorem decided_importCsv (id : SessionId) (query : List Char) (r : Request) :
    Decided id
      (fun session => some (session.afterAll
        ((UploadNames.ofQuery? query).bind fun names =>
          if r.isTooLong then none
          else some (Session.Action.loadUpload (Csv.readRows r.body) names.sheet
            names.file)).toList))
      (importCsv · id query r) := by
  unfold importCsv
  cases UploadNames.ofQuery? query with
  | none => exact decided_const _
  | some names =>
    cases hlong : r.isTooLong with
    | true => exact decided_const _
    | false => exact decided_store id fun session => session.loadUpload (Csv.readRows r.body) _ _

/-- What an open session answers when its grid is exported. -/
def exportAnswer (session : Session) : Except ServerError Reply :=
  match session.grid with
  | none => .error (.sheet .noDataset)
  | some g =>
    match Csv.exportGrid g with
    | .error uneven => .error (.unevenRows uneven)
    | .ok text => .ok (.ofFile text session.exportName)

theorem decided_exportCsv (id : SessionId) : Decided id some (exportCsv · id) := by
  refine decided_withSession exportAnswer (fun _ => .keep) (fun server session => ?_) fun _ => rfl
  unfold exportAnswer
  cases session.grid with
  | none => rfl
  | some g =>
    dsimp only
    cases Csv.exportGrid g <;> rfl

/-- What an open session answers to an instruction that came to this. -/
def runAnswer : Except SheetError Edit × Session → Except ServerError Reply
  | (.error e, _) => .error (.sheet e)
  | (.ok edit, session) =>
    match session.grid with
    | none => .error (.sheet .noDataset)
    | some g => .ok (.json 200 (editJson g edit))

/-- What an instruction that came to this does to the session. -/
def runChange : Except SheetError Edit × Session → Change
  | (.error _, _) => .keep
  | (.ok _, session) => .put session

/-- A session that has carried out an instruction has a grid to show. -/
theorem runAnswer_of_ok {session stored : Session} {text : String} {edit : Edit}
    (h : session.run text = (.ok edit, stored)) :
    runAnswer (session.run text) = .ok (.json 200 (editJson edit.grid edit)) := by
  rw [h, runAnswer, Session.grid_of_run h]

theorem runInstruction_eq {r : Request} {text : String}
    (hbody : r.json?.bind instructionOfJson? = some text) (server : Server) (id : SessionId) :
    server.runInstruction id r = server.withSession id fun session =>
      (runAnswer (session.run text), server.change id (runChange (session.run text))) := by
  rw [runInstruction, hbody]
  refine congrArg (server.withSession id) (funext fun session => ?_)
  rcases session.run text with ⟨e | edit, stored⟩
  · rfl
  · dsimp only [runAnswer]
    cases stored.grid <;> rfl

theorem decided_runInstruction (id : SessionId) (r : Request) :
    Decided id
      (fun session => some (session.afterAll
        ((r.json?.bind instructionOfJson?).map Session.Action.run).toList))
      (runInstruction · id r) := by
  cases hbody : r.json?.bind instructionOfJson? with
  | none =>
    simp only [runInstruction, hbody]
    exact decided_const _
  | some text =>
    simp only [runInstruction_eq hbody]
    refine decided_withSession _ _ (fun server session => rfl) fun session => ?_
    · have hrun : session.afterAll [.run text] = (session.run text).2 := rfl
      have hfail : ∀ e, (session.run text).1 = .error e → (session.run text).2 = session :=
        fun e h => Session.run_snd_of_error h
      simp only [Option.map_some, Option.toList_some, hrun]
      generalize session.run text = outcome at hfail
      obtain ⟨e | edit, session'⟩ := outcome
      · exact congrArg some (hfail e rfl).symm
      · rfl

/-! ### Requests -/

variable {r : Request}

/-- The method that an endpoint sees. -/
def methodOf (r : Request) : Method := if r.method = .head then .get else r.method

/-- What an endpoint makes of a request; a method that it does not know is refused. -/
def outcomeOf (server : Server) (fresh : SessionId) (endpoint : Endpoint) (r : Request) : Outcome :=
  (server.serve? fresh endpoint (methodOf r) (Target.ofText r.target).query r).getD
    (.ok (.bare 405), server)

/-- What an endpoint makes of a request is decided by one session, for which the request says what
becomes of it. -/
def Served (id : SessionId) (endpoint : Endpoint) (r : Request) : Prop :=
  ∃ act, Decided id r.next act ∧ ∀ server fresh, outcomeOf server fresh endpoint r = act server

theorem next_eq (hcloses : r.closes = false) :
    r.next = fun session => some (session.afterAll r.action?.toList) := by
  funext session
  simp [Request.next, hcloses]

/-- A request that asks for nothing leaves the session as it is. -/
theorem next_eq_some (hcloses : r.closes = false) (haction : r.action? = none) :
    r.next = some := by
  rw [next_eq hcloses, haction]
  rfl

/-- A method that is not known is refused. -/
theorem served_refusal {endpoint : Endpoint} (hnext : r.next = some)
    (h : ∀ server fresh, serve? server fresh endpoint (methodOf r) (Target.ofText r.target).query r
      = none) : Served id endpoint r := by
  refine ⟨fun server => (.ok (.bare 405), server), ?_, fun server fresh => ?_⟩
  · rw [hnext]
    exact decided_const _
  · rw [outcomeOf, h]
    rfl

theorem served_act {endpoint : Endpoint} (act : Server → Outcome) (hact : Decided id r.next act)
    (h : ∀ server fresh, serve? server fresh endpoint (methodOf r) (Target.ofText r.target).query r
      = some (act server)) : Served id endpoint r := by
  refine ⟨act, hact, fun server fresh => ?_⟩
  rw [outcomeOf, h]
  rfl

/-- The endpoints of a session. -/
theorem served_of_sessionText? {endpoint : Endpoint} {text : String}
    (hendpoint : r.endpoint? = some endpoint) (htext : endpoint.sessionText? = some text)
    (hid : sessionIdOf? text = some id) : Served id endpoint r := by
  cases endpoint with
  | health | examples | sessions => cases htext
  | session s =>
    cases htext
    have haction : r.action? = none := by simp [Request.action?, hendpoint]
    cases hmethod : r.method with
    | get | head =>
      have hnext := next_eq_some (by simp [Request.closes, hmethod]) haction
      exact served_act _ (hnext ▸ decided_showSession id) fun server fresh => by
        simp [serve?, methodOf, hmethod, withId, hid]
    | delete =>
      have hnext : r.next = fun _ => none := by
        funext session
        simp [Request.next, Request.closes, hendpoint, hmethod]
      exact served_act _ (hnext ▸ decided_deleteSession id) fun server fresh => by
        simp [serve?, methodOf, hmethod, withId, hid]
    | post | put | options | other =>
      have hnext := next_eq_some (by simp [Request.closes, hmethod]) haction
      exact served_refusal hnext fun server fresh => by simp [serve?, methodOf, hmethod]
  | grid s =>
    cases htext
    have hcloses : r.closes = false := by simp [Request.closes, hendpoint]
    cases hmethod : r.method with
    | put =>
      have hact := decided_loadGrid id r
      refine served_act (loadGrid · id r) ?_ fun server fresh => by
        simp [serve?, methodOf, hmethod, withId, hid]
      simpa [next_eq hcloses, Request.action?, hendpoint, hmethod] using hact
    | get | head | post | delete | options | other =>
      have hnext := next_eq_some hcloses (by simp [Request.action?, hendpoint, hmethod])
      exact served_refusal hnext fun server fresh => by simp [serve?, methodOf, hmethod]
  | sample s =>
    cases htext
    have hcloses : r.closes = false := by simp [Request.closes, hendpoint]
    cases hmethod : r.method with
    | post =>
      have hnext : r.next = fun session => some session.loadSample := by
        rw [next_eq hcloses]
        simp only [Request.action?, hendpoint, hmethod]
        rfl
      have hact := decided_store id Session.loadSample
      exact served_act (loadSample · id) (hnext ▸ hact) fun server fresh => by
        simp [serve?, methodOf, hmethod, withId, hid]
    | get | head | put | delete | options | other =>
      have hnext := next_eq_some hcloses (by simp [Request.action?, hendpoint, hmethod])
      exact served_refusal hnext fun server fresh => by simp [serve?, methodOf, hmethod]
  | csv s =>
    cases htext
    have hcloses : r.closes = false := by simp [Request.closes, hendpoint]
    cases hmethod : r.method with
    | get | head =>
      have hnext := next_eq_some hcloses (by simp [Request.action?, hendpoint, hmethod])
      exact served_act _ (hnext ▸ decided_exportCsv id) fun server fresh => by
        simp [serve?, methodOf, hmethod, withId, hid]
    | put =>
      have hact := decided_importCsv id (Target.ofText r.target).query r
      refine served_act (importCsv · id (Target.ofText r.target).query r) ?_
        fun server fresh => by simp [serve?, methodOf, hmethod, withId, hid]
      simpa [next_eq hcloses, Request.action?, hendpoint, hmethod] using hact
    | post | delete | options | other =>
      have hnext := next_eq_some hcloses (by simp [Request.action?, hendpoint, hmethod])
      exact served_refusal hnext fun server fresh => by simp [serve?, methodOf, hmethod]
  | instructions s =>
    cases htext
    have hcloses : r.closes = false := by simp [Request.closes, hendpoint]
    cases hmethod : r.method with
    | post =>
      have hact := decided_runInstruction id r
      refine served_act (runInstruction · id r) ?_ fun server fresh => by
        simp [serve?, methodOf, hmethod, withId, hid]
      simpa [next_eq hcloses, Request.action?, hendpoint, hmethod] using hact
    | get | head | put | delete | options | other =>
      have hnext := next_eq_some hcloses (by simp [Request.action?, hendpoint, hmethod])
      exact served_refusal hnext fun server fresh => by simp [serve?, methodOf, hmethod]

/-! ### Answers -/

/-- The answer to a request that has this result. -/
def replyTo (r : Request) (result : Except ServerError Reply) : Reply :=
  let reply :=
    match result with
    | .ok reply => reply
    | .error e => .ofError e
  if r.method = .head then reply.withoutBody else reply

theorem respond_of_endpoint {endpoint : Endpoint} (hendpoint : r.endpoint? = some endpoint)
    (hoptions : r.method ≠ .options) (server : Server) (fresh : SessionId) :
    server.respond fresh r
      = (replyTo r (outcomeOf server fresh endpoint r).1,
          (outcomeOf server fresh endpoint r).2) := by
  have hsegments : Endpoint.ofSegments? (Target.ofText r.target).segments = some endpoint :=
    hendpoint
  unfold respond outcomeOf methodOf
  rw [if_neg hoptions]
  simp only [hsegments]
  cases server.serve? fresh endpoint _ _ r with
  | none =>
    dsimp only [Option.getD_none, replyTo]
    split <;> rfl
  | some outcome => obtain ⟨e | reply, server'⟩ := outcome <;> rfl

/-- A request reaches an endpoint, or it leaves the server as it is. -/
theorem respond_cases (server : Server) (fresh : SessionId) (r : Request) :
    (server.respond fresh r).2 = server ∨
      ∃ endpoint, r.endpoint? = some endpoint ∧
        server.respond fresh r
          = (replyTo r (outcomeOf server fresh endpoint r).1,
              (outcomeOf server fresh endpoint r).2) := by
  by_cases hoptions : r.method = .options
  · exact .inl (by rw [respond, if_pos hoptions])
  · cases hendpoint : r.endpoint? with
    | none =>
      have hsegments : Endpoint.ofSegments? (Target.ofText r.target).segments = none := hendpoint
      exact .inl (by simp only [respond, if_neg hoptions, hsegments])
    | some endpoint =>
      exact .inr ⟨endpoint, rfl, respond_of_endpoint hendpoint hoptions server fresh⟩

/-- **A request that names a session** is answered from this session alone, changes no other one,
and makes of it what the request says. -/
theorem respond_of_addressee (h : r.addressee? = some id) :
    ∃ (answer : Option Session → Reply) (c : Option Session → Change),
      (∀ (server : Server) (fresh : SessionId), server.respond fresh r
        = (answer (server.find? id), server.change id (c (server.find? id)))) ∧
      ∀ session, (c session).apply session = session.bind r.next := by
  obtain ⟨endpoint, text, hendpoint, htext, hid⟩ := Request.addressee?_eq_some h
  by_cases hoptions : r.method = .options
  · -- whatever the path, the question for options is answered in the same way
    have hnext : r.next = some :=
      next_eq_some (by simp [Request.closes, hoptions]) (by simp [Request.action?, hoptions])
    refine ⟨fun _ => .bare 200, fun _ => .keep, fun server fresh => ?_, fun session => ?_⟩
    · rw [respond, if_pos hoptions]
      rfl
    · rw [hnext]
      cases session <;> rfl
  · obtain ⟨act, ⟨answer, c, hact, hc⟩, hserved⟩ := served_of_sessionText? hendpoint htext hid
    refine ⟨fun session => replyTo r (answer session), c, fun server fresh => ?_, hc⟩
    rw [respond_of_endpoint hendpoint hoptions, hserved, hact]

theorem Request.opening?_eq_some {body : CreateBody} (h : r.opening? = some body) :
    r.endpoint? = some .sessions ∧ r.method = .post ∧
      r.json?.bind CreateBody.ofJson? = some body := by
  unfold Request.opening? at h
  split at h
  · next hendpoint hmethod => exact ⟨hendpoint, hmethod, h⟩
  · cases h

/-- **A request for a new session** is refused when there are too many, and else opens one. -/
theorem respond_of_opening {body : CreateBody} (h : r.opening? = some body) (server : Server)
    (fresh : SessionId) :
    server.respond fresh r =
      if server.count ≥ server.maxSessions then
        (.ofError (.sessionLimit server.maxSessions), server)
      else
        let session := (Session.new server.historyLimit).afterAll body.actions
        (.json 201 (sessionJson fresh session), server.put fresh session) := by
  obtain ⟨hendpoint, hmethod, hbody⟩ := Request.opening?_eq_some h
  rw [respond_of_endpoint hendpoint (by simp [hmethod])]
  have houtcome : outcomeOf server fresh .sessions r = server.createSession fresh r := by
    simp [outcomeOf, methodOf, hmethod, serve?]
  rw [houtcome, createSession, hbody]
  dsimp only
  split <;> simp [replyTo, hmethod, CreateBody.loadInto_eq]

/-- An endpoint changes nothing when no session is named and no session can be opened. -/
theorem outcomeOf_snd_of_other {endpoint : Endpoint} (hendpoint : r.endpoint? = some endpoint)
    (haddressee : r.addressee? = none) (hopening : r.opening? = none) (server : Server)
    (fresh : SessionId) : (outcomeOf server fresh endpoint r).2 = server := by
  have hunnamed {text : String} (htext : endpoint.sessionText? = some text)
      (act : SessionId → Outcome) : server.withId text act = (.ok (.bare 400), server) := by
    have hid : sessionIdOf? text = none := by
      simpa [Request.addressee?, hendpoint, htext] using haddressee
    rw [withId, hid]
  cases endpoint with
  | health | examples => cases hmethod : methodOf r <;> simp [outcomeOf, serve?, hmethod]
  | sessions =>
    cases hmethod : methodOf r with
    | post =>
      have hpost : r.method = .post := by
        unfold methodOf at hmethod
        split at hmethod
        · cases hmethod
        · exact hmethod
      have hbody : r.json?.bind CreateBody.ofJson? = none := by
        simpa [Request.opening?, hendpoint, hpost] using hopening
      simp [outcomeOf, serve?, hmethod, createSession, hbody]
    | get | head | put | delete | options | other => simp [outcomeOf, serve?, hmethod]
  | session text | grid text | sample text | csv text | instructions text =>
    have hrefused := hunnamed rfl
    cases hmethod : methodOf r <;> simp [outcomeOf, serve?, hmethod, hrefused]

/-- **Any other request** leaves the sessions as they are. -/
theorem respond_of_other (haddressee : r.addressee? = none) (hopening : r.opening? = none)
    (server : Server) (fresh : SessionId) : (server.respond fresh r).2 = server := by
  rcases respond_cases server fresh r with hkept | ⟨endpoint, hendpoint, hrespond⟩
  · exact hkept
  · rw [hrespond]
    exact outcomeOf_snd_of_other hendpoint haddressee hopening server fresh

end Server
end GridTalk
