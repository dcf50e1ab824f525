import GridTalk.Proofs.Server.Rejection

/-!
# Looking a session up

A request that names a session is refused, or the session is looked up.  It is refused for its
method, its query or its body, which are read first, and then it makes no difference whether there
is such a session.

* `Request.looksUp`: is the session looked up?
* `Server.Plain`: an answer that tells neither of a session opened or closed nor of one that is
  missing.
* `Server.Handled`: what is done with a session that is found, for each endpoint in turn.
* `Server.respond_of_live`, `Server.respond_of_missing`, `Server.respond_of_not_looksUp`: the
  session is there, it is missing, or it is not looked up.
* `Server.status_eq_missing_iff`: when a session is said to be missing.
-/

namespace GridTalk

/-- Does a request ask to be shown something of the session that it names? -/
def Request.shows (r : Request) : Bool :=
  match r.endpoint?, Server.methodOf r with
  | some (.session _), .get => true
  | some (.csv _), .get => true
  | _, _ => false

/-- Is the session that a request names looked up?  The request has to be understood: it asks for
the session to be shown, changed or closed. -/
def Request.looksUp (r : Request) : Bool := r.shows || r.closes || r.action?.isSome

namespace Server

variable {server : Server} {id : SessionId} {r : Request}

/-- The status with which a result is answered. -/
def answerStatus? : Except ServerError Reply → Option Nat
  | .ok reply => reply.status?
  | .error e => (Reply.ofError e).status?

/-- The answer tells neither of a session opened or closed nor of one that is missing. -/
def Plain (answer : Except ServerError Reply) : Prop :=
  ∀ status ∈ answerStatus? answer, status ≠ 201 ∧ status ≠ 204 ∧ status ≠ 404

theorem plain_of_status {answer : Except ServerError Reply} {status : Nat}
    (h : answerStatus? answer = some status)
    (hstatus : status ≠ 201 ∧ status ≠ 204 ∧ status ≠ 404) : Plain answer := by
  intro other hother
  rw [Option.mem_def, h, Option.some.injEq] at hother
  exact hother ▸ hstatus

/-- An instruction that fails is no missing session. -/
theorem plain_sheet (e : SheetError) : Plain (.error (.sheet e)) := by
  intro status hstatus
  cases e <;> simp_all [answerStatus?, Reply.ofError, Reply.status?, ServerError.status] <;> omega

/-- What an endpoint does with a session that it has found.  It closes the session if and only if
this has been asked for. -/
inductive Handled (server : Server) (id : SessionId) (closes : Bool) : Outcome → Prop
  | kept {answer : Except ServerError Reply} (hasked : closes = false) (hplain : Plain answer) :
      Handled server id closes (answer, server)
  | stored {reply : Reply} {session : Session} (hasked : closes = false)
      (hstatus : reply.status? = some 200) :
      Handled server id closes (.ok reply, server.put id session)
  | closed (hasked : closes = true) : Handled server id closes (.ok (.bare 204), server.erase id)

/-! ### The endpoints -/

/-- A file is sent or refused for its name. -/
theorem plain_ofFile (body name : String) : Plain (.ok (.ofFile body name)) := by
  have hstatus : answerStatus? (.ok (.ofFile body name)) = some 200 ∨
      answerStatus? (.ok (.ofFile body name)) = some 500 := by
    rw [answerStatus?, Reply.ofFile]
    by_cases h : Reply.isHeaderText (Reply.dispositionOf name) = true
    · rw [if_pos h]
      exact .inl rfl
    · rw [if_neg h]
      exact .inr rfl
  rcases hstatus with h | h
  · exact plain_of_status h (by decide)
  · exact plain_of_status h (by decide)

/-- The answer to an export is never that a session is missing. -/
theorem plain_exportAnswer (session : Session) : Plain (exportAnswer session) := by
  unfold exportAnswer
  cases session.grid with
  | none => exact plain_sheet _
  | some g =>
    dsimp only
    cases Csv.exportGrid g with
    | error uneven =>
      have hstatus : answerStatus? (.error (.unevenRows uneven)) = some 400 := rfl
      exact plain_of_status hstatus (by decide)
    | ok text => exact plain_ofFile text _

theorem exportCsv_eq (server : Server) (id : SessionId) :
    server.exportCsv id
      = server.withSession id fun session => (exportAnswer session, server) := by
  refine congrArg (server.withSession id) (funext fun session => ?_)
  unfold exportAnswer
  cases session.grid with
  | none => rfl
  | some g =>
    dsimp only
    cases Csv.exportGrid g <;> rfl

theorem handled_run (server : Server) (id : SessionId) (session : Session) (text : String) :
    Handled server id false
      (runAnswer (session.run text), server.change id (runChange (session.run text))) := by
  rcases hrun : session.run text with ⟨e | edit, stored⟩
  · exact .kept rfl (plain_sheet e)
  · rw [← hrun, runAnswer_of_ok hrun, hrun]
    exact .stored rfl rfl

/-- The session is looked up, and what is done with it is one of three things; or the request is
refused in the same way whatever the sessions are. -/
def LookedUp (endpoint : Endpoint) (r : Request) (id : SessionId) : Prop :=
  (r.looksUp = true ∧ ∃ act : Server → Session → Outcome,
    (∀ server fresh, outcomeOf server fresh endpoint r = server.withSession id (act server)) ∧
      ∀ server session, Handled server id r.closes (act server session)) ∨
  (r.looksUp = false ∧ ∃ answer, Plain answer ∧
    ∀ server fresh, outcomeOf server fresh endpoint r = (answer, server))

variable {endpoint : Endpoint} {text : String}

theorem lookedUp_act (hlook : r.looksUp = true) (act : Server → Session → Outcome)
    (hserve : ∀ server fresh,
      serve? server fresh endpoint (methodOf r) (Target.ofText r.target).query r
        = some (server.withSession id (act server)))
    (hact : ∀ server session, Handled server id r.closes (act server session)) :
    LookedUp endpoint r id := by
  refine .inl ⟨hlook, act, fun server fresh => ?_, hact⟩
  rw [outcomeOf, hserve]
  rfl

theorem lookedUp_refusal (hlook : r.looksUp = false) (answer : Except ServerError Reply)
    (hplain : Plain answer)
    (hserve : ∀ server fresh,
      (serve? server fresh endpoint (methodOf r) (Target.ofText r.target).query r).getD
        (.ok (.bare 405), server) = (answer, server)) :
    LookedUp endpoint r id :=
  .inr ⟨hlook, answer, hplain, hserve⟩

/-- A method that the endpoint does not know. -/
theorem lookedUp_method (hlook : r.looksUp = false)
    (hserve : ∀ server fresh,
      serve? server fresh endpoint (methodOf r) (Target.ofText r.target).query r = none) :
    LookedUp endpoint r id :=
  lookedUp_refusal hlook _ (plain_of_status (rfl : answerStatus? (.ok (.bare 405)) = _)
    (by decide)) fun server fresh => by rw [hserve]; rfl

/-- A request that is understood as a change is looked up. -/
theorem looksUp_of_action {action : Session.Action} (h : r.action? = some action) :
    r.looksUp = true := by
  simp [Request.looksUp, h]

/-- A request that is no change is looked up only if it asks to see the session or to close it. -/
theorem looksUp_of_no_action (hcloses : r.closes = false) (hshows : r.shows = false)
    (h : r.action? = none) : r.looksUp = false := by
  simp [Request.looksUp, hcloses, hshows, h]

theorem lookedUp_session (hendpoint : r.endpoint? = some (.session text))
    (hid : sessionIdOf? text = some id) : LookedUp (.session text) r id := by
  cases hmethod : r.method with
  | get | head =>
    have hlook : r.looksUp = true := by
      simp [Request.looksUp, Request.shows, hendpoint, methodOf, hmethod]
    refine lookedUp_act hlook
      (fun server session => (.ok (.json 200 (sessionJson id session)), server))
      (fun server fresh => by simp [serve?, methodOf, hmethod, withId, hid, showSession])
      fun server session => ?_
    exact .kept (by simp [Request.closes, hmethod]) (plain_of_status rfl (by decide))
  | delete =>
    have hcloses : r.closes = true := by simp [Request.closes, hendpoint, hmethod]
    exact lookedUp_act (by simp [Request.looksUp, hcloses])
      (fun server _ => (.ok (.bare 204), server.erase id))
      (fun server fresh => by simp [serve?, methodOf, hmethod, withId, hid, deleteSession])
      fun server _ => .closed hcloses
  | post | put | options | other =>
    have hlook : r.looksUp = false :=
      looksUp_of_no_action (by simp [Request.closes, hmethod])
        (by simp [Request.shows, methodOf, hmethod]) (by simp [Request.action?, hendpoint])
    exact lookedUp_method hlook fun server fresh => by simp [serve?, methodOf, hmethod]

theorem lookedUp_grid (hendpoint : r.endpoint? = some (.grid text))
    (hid : sessionIdOf? text = some id) : LookedUp (.grid text) r id := by
  have hcloses : r.closes = false := by simp [Request.closes, hendpoint]
  have hshows : r.shows = false := by simp [Request.shows, hendpoint]
  cases hmethod : r.method with
  | put =>
    have haction : r.action? = (r.json?.bind LoadBody.ofJson?).map fun body =>
        .loadUpload body.rows body.names.sheet body.names.file := by
      simp only [Request.action?, hendpoint, hmethod]
    have hserve (server : Server) (fresh : SessionId) :
        serve? server fresh (.grid text) (methodOf r) (Target.ofText r.target).query r
          = some (server.loadGrid id r) := by simp [serve?, methodOf, hmethod, withId, hid]
    cases hbody : r.json?.bind LoadBody.ofJson? with
    | none =>
      rw [hbody] at haction
      refine lookedUp_refusal (looksUp_of_no_action hcloses hshows haction) (.error .malformedBody)
        (plain_of_status rfl (by decide)) fun server fresh => ?_
      rw [hserve, loadGrid, hbody]
      rfl
    | some body =>
      rw [hbody] at haction
      refine lookedUp_act (looksUp_of_action haction)
        (fun server session => server.store id
          (session.loadUpload body.rows body.names.sheet body.names.file))
        (fun server fresh => ?_) fun server session => .stored hcloses rfl
      rw [hserve, loadGrid, hbody]
  | get | head | post | delete | options | other =>
    have haction : r.action? = none := by simp [Request.action?, hendpoint, hmethod]
    exact lookedUp_method (looksUp_of_no_action hcloses hshows haction) fun server fresh => by
      simp [serve?, methodOf, hmethod]

theorem lookedUp_sample (hendpoint : r.endpoint? = some (.sample text))
    (hid : sessionIdOf? text = some id) : LookedUp (.sample text) r id := by
  have hcloses : r.closes = false := by simp [Request.closes, hendpoint]
  have hshows : r.shows = false := by simp [Request.shows, hendpoint]
  cases hmethod : r.method with
  | post =>
    have haction : r.action? = some (.load Preset.rows Preset.sheetName Preset.fileName) := by
      simp only [Request.action?, hendpoint, hmethod]
    exact lookedUp_act (looksUp_of_action haction)
      (fun server session => server.store id session.loadSample)
      (fun server fresh => by simp [serve?, methodOf, hmethod, withId, hid, loadSample])
      fun server session => .stored hcloses rfl
  | get | head | put | delete | options | other =>
    have haction : r.action? = none := by simp [Request.action?, hendpoint, hmethod]
    exact lookedUp_method (looksUp_of_no_action hcloses hshows haction) fun server fresh => by
      simp [serve?, methodOf, hmethod]

theorem lookedUp_csv (hendpoint : r.endpoint? = some (.csv text))
    (hid : sessionIdOf? text = some id) : LookedUp (.csv text) r id := by
  have hcloses : r.closes = false := by simp [Request.closes, hendpoint]
  cases hmethod : r.method with
  | get | head =>
    have hlook : r.looksUp = true := by
      simp [Request.looksUp, Request.shows, hendpoint, methodOf, hmethod]
    refine lookedUp_act hlook (fun server session => (exportAnswer session, server))
      (fun server fresh => ?_) fun server session => .kept hcloses (plain_exportAnswer session)
    simp [serve?, methodOf, hmethod, withId, hid, exportCsv_eq]
  | put =>
    have hshows : r.shows = false := by simp [Request.shows, methodOf, hmethod]
    have haction : r.action? = (UploadNames.ofQuery? (Target.ofText r.target).query).bind
        fun names => if r.isTooLong then none
          else some (.loadUpload (Csv.readRows r.body) names.sheet names.file) := by
      simp only [Request.action?, hendpoint, hmethod]
    have hserve (server : Server) (fresh : SessionId) :
        serve? server fresh (.csv text) (methodOf r) (Target.ofText r.target).query r
          = some (server.importCsv id (Target.ofText r.target).query r) := by
      simp [serve?, methodOf, hmethod, withId, hid]
    cases hnames : UploadNames.ofQuery? (Target.ofText r.target).query with
    | none =>
      rw [hnames] at haction
      refine lookedUp_refusal (looksUp_of_no_action hcloses hshows haction) (.ok (.bare 400))
        (plain_of_status rfl (by decide)) fun server fresh => ?_
      rw [hserve, importCsv, hnames]
      rfl
    | some names =>
      rw [hnames, Option.bind_some] at haction
      cases hlong : r.isTooLong with
      | true =>
        rw [if_pos hlong] at haction
        refine lookedUp_refusal (looksUp_of_no_action hcloses hshows haction) (.ok (.bare 413))
          (plain_of_status rfl (by decide)) fun server fresh => ?_
        simp [hserve, importCsv, hnames, hlong]
      | false =>
        rw [if_neg (by simp [hlong])] at haction
        refine lookedUp_act (looksUp_of_action haction)
          (fun server session => server.store id
            (session.loadUpload (Csv.readRows r.body) names.sheet names.file))
          (fun server fresh => ?_) fun server session => .stored hcloses rfl
        simp [hserve, importCsv, hnames, hlong]
  | post | delete | options | other =>
    have hlook : r.looksUp = false :=
      looksUp_of_no_action hcloses (by simp [Request.shows, methodOf, hmethod])
        (by simp [Request.action?, hendpoint, hmethod])
    exact lookedUp_method hlook fun server fresh => by simp [serve?, methodOf, hmethod]

theorem lookedUp_instructions (hendpoint : r.endpoint? = some (.instructions text))
    (hid : sessionIdOf? text = some id) : LookedUp (.instructions text) r id := by
  have hcloses : r.closes = false := by simp [Request.closes, hendpoint]
  have hshows : r.shows = false := by simp [Request.shows, hendpoint]
  cases hmethod : r.method with
  | post =>
    have haction : r.action? = (r.json?.bind instructionOfJson?).map .run := by
      simp only [Request.action?, hendpoint, hmethod]
    have hserve (server : Server) (fresh : SessionId) :
        serve? server fresh (.instructions text) (methodOf r) (Target.ofText r.target).query r
          = some (server.runInstruction id r) := by simp [serve?, methodOf, hmethod, withId, hid]
    cases hbody : r.json?.bind instructionOfJson? with
    | none =>
      rw [hbody] at haction
      refine lookedUp_refusal (looksUp_of_no_action hcloses hshows haction) (.error .malformedBody)
        (plain_of_status rfl (by decide)) fun server fresh => ?_
      rw [hserve, runInstruction, hbody]
      rfl
    | some sentence =>
      rw [hbody] at haction
      refine lookedUp_act (looksUp_of_action haction)
        (fun server session => (runAnswer (session.run sentence),
          server.change id (runChange (session.run sentence))))
        (fun server fresh => by rw [hserve, runInstruction_eq hbody])
        fun server session => hcloses ▸ handled_run server id session sentence
  | get | head | put | delete | options | other =>
    have haction : r.action? = none := by simp [Request.action?, hendpoint, hmethod]
    exact lookedUp_method (looksUp_of_no_action hcloses hshows haction) fun server fresh => by
      simp [serve?, methodOf, hmethod]

/-- The endpoints of a session. -/
theorem lookedUp_of_sessionText? (hendpoint : r.endpoint? = some endpoint)
    (htext : endpoint.sessionText? = some text) (hid : sessionIdOf? text = some id) :
    LookedUp endpoint r id := by
  cases endpoint with
  | health | examples | sessions => cases htext
  | session s =>
    cases htext
    exact lookedUp_session hendpoint hid
  | grid s =>
    cases htext
    exact lookedUp_grid hendpoint hid
  | sample s =>
    cases htext
    exact lookedUp_sample hendpoint hid
  | csv s =>
    cases htext
    exact lookedUp_csv hendpoint hid
  | instructions s =>
    cases htext
    exact lookedUp_instructions hendpoint hid

/-! ### Requests -/

theorem looksUp_of_options (h : r.method = .options) : r.looksUp = false :=
  looksUp_of_no_action (by simp [Request.closes, h]) (by simp [Request.shows, methodOf, h])
    (by simp [Request.action?, h])

/-- A request that is understood is answered after the session has been looked up. -/
theorem respond_of_looksUp (haddressee : r.addressee? = some id) (hlook : r.looksUp = true) :
    ∃ act : Server → Session → Outcome,
      (∀ (server : Server) (fresh : SessionId), server.respond fresh r
        = (replyTo r (server.withSession id (act server)).1,
            (server.withSession id (act server)).2)) ∧
      ∀ server session, Handled server id r.closes (act server session) := by
  obtain ⟨endpoint, text, hendpoint, htext, hid⟩ := Request.addressee?_eq_some haddressee
  have hoptions : r.method ≠ .options := fun h => by simp [looksUp_of_options h] at hlook
  obtain ⟨-, act, hact, hhandled⟩ | ⟨hnot, -⟩ := lookedUp_of_sessionText? hendpoint htext hid
  · refine ⟨act, fun server fresh => ?_, hhandled⟩
    rw [respond_of_endpoint hendpoint hoptions, hact]
  · rw [hlook] at hnot
    cases hnot

/-- A request that is not understood is refused without a look at the sessions. -/
theorem respond_of_not_looksUp (haddressee : r.addressee? = some id) (hlook : r.looksUp = false) :
    ∃ answer, Plain answer ∧
      ∀ (server : Server) (fresh : SessionId),
        server.respond fresh r = (replyTo r answer, server) := by
  obtain ⟨endpoint, text, hendpoint, htext, hid⟩ := Request.addressee?_eq_some haddressee
  by_cases hoptions : r.method = .options
  · refine ⟨.ok (.bare 200), plain_of_status rfl (by decide), fun server fresh => ?_⟩
    rw [respond, if_pos hoptions, replyTo, if_neg (by simp [hoptions])]
  · obtain ⟨hyes, -⟩ | ⟨-, answer, hplain, hserve⟩ :=
      lookedUp_of_sessionText? hendpoint htext hid
    · rw [hlook] at hyes
      cases hyes
    · refine ⟨answer, hplain, fun server fresh => ?_⟩
      rw [respond_of_endpoint hendpoint hoptions, hserve]

/-- The same answer without its body has the same status. -/
theorem status?_replyTo_eq (r : Request) (answer : Except ServerError Reply) :
    (replyTo r answer).status? = answerStatus? answer := by
  rw [status?_replyTo]
  cases answer <;> rfl

/-- A session that is not there is reported missing. -/
theorem respond_of_missing (haddressee : r.addressee? = some id) (hlook : r.looksUp = true)
    (hfind : server.find? id = none) (fresh : SessionId) :
    server.respond fresh r = (replyTo r (.error (.unknownSession id)), server) := by
  obtain ⟨act, hrespond, -⟩ := respond_of_looksUp haddressee hlook
  rw [hrespond, withSession, hfind]

/-- With a session that is there one of three things is done. -/
theorem respond_of_live {session : Session} (haddressee : r.addressee? = some id)
    (hlook : r.looksUp = true) (hfind : server.find? id = some session) :
    ∃ outcome, Handled server id r.closes outcome ∧
      ∀ fresh : SessionId, server.respond fresh r = (replyTo r outcome.1, outcome.2) := by
  obtain ⟨act, hrespond, hhandled⟩ := respond_of_looksUp haddressee hlook
  refine ⟨act server session, hhandled server session, fun fresh => ?_⟩
  rw [hrespond, withSession_of_find? hfind]

/-- An endpoint opens and closes nothing when no session is named and none can be opened. -/
theorem plain_outcomeOf_of_other {endpoint : Endpoint} (hendpoint : r.endpoint? = some endpoint)
    (haddressee : r.addressee? = none) (hopening : r.opening? = none) (server : Server)
    (fresh : SessionId) : Plain (outcomeOf server fresh endpoint r).1 := by
  have hstatus : answerStatus? (outcomeOf server fresh endpoint r).1 ∈
      [some 200, some 400, some 405] := by
    have hunnamed {text : String} (htext : endpoint.sessionText? = some text)
        (act : SessionId → Outcome) : server.withId text act = (.ok (.bare 400), server) := by
      have hid : sessionIdOf? text = none := by
        simpa [Request.addressee?, hendpoint, htext] using haddressee
      rw [withId, hid]
    cases endpoint with
    | health | examples =>
      cases hmethod : methodOf r <;>
        simp [outcomeOf, serve?, hmethod, answerStatus?, Reply.status?, health, Server.examples]
    | sessions =>
      cases hmethod : methodOf r with
      | post =>
        have hpost : r.method = .post := by
          unfold methodOf at hmethod
          split at hmethod
          · cases hmethod
          · exact hmethod
        have hbody : r.json?.bind CreateBody.ofJson? = none := by
          simpa [Request.opening?, hendpoint, hpost] using hopening
        simp [outcomeOf, serve?, hmethod, createSession, hbody, answerStatus?, Reply.ofError,
          Reply.status?, ServerError.status]
      | get | head | put | delete | options | other =>
        simp [outcomeOf, serve?, hmethod, answerStatus?, Reply.status?]
    | session text | grid text | sample text | csv text | instructions text =>
      have hrefused := hunnamed rfl
      cases hmethod : methodOf r <;>
        simp [outcomeOf, serve?, hmethod, hrefused, answerStatus?, Reply.status?]
  simp only [List.mem_cons, List.not_mem_nil, or_false] at hstatus
  rcases hstatus with h | h | h <;> exact plain_of_status h (by decide)

/-- A request that names no session and opens none is not answered as if it did. -/
theorem status_of_other (haddressee : r.addressee? = none) (hopening : r.opening? = none)
    (server : Server) (fresh : SessionId) :
    ∀ status ∈ (server.respond fresh r).1.status?, status ≠ 201 ∧ status ≠ 204 := by
  intro status hstatus
  by_cases hoptions : r.method = .options
  · rw [respond, if_pos hoptions] at hstatus
    cases hstatus
    decide
  · cases hendpoint : r.endpoint? with
    | none =>
      have hsegments : Endpoint.ofSegments? (Target.ofText r.target).segments = none := hendpoint
      simp only [respond, if_neg hoptions, hsegments] at hstatus
      cases hstatus
      decide
    | some endpoint =>
      rw [respond_of_endpoint hendpoint hoptions, status?_replyTo_eq] at hstatus
      have hplain := plain_outcomeOf_of_other hendpoint haddressee hopening server fresh
      exact ⟨(hplain status hstatus).1, (hplain status hstatus).2.1⟩

end Server
end GridTalk
