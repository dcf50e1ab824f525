import GridTalk.Proofs.Server.Isolation

/-!
# Rejected requests

A request changes the sessions only if it is answered with a success: every endpoint looks at all
that can be wrong with a request before it changes an entry.

* `Reply.Succeeds`: the answers that tell of a success; an error is never one of them.
* `Server.Announced`: an outcome with a change that is answered with a success, for each endpoint
  in turn.
* `Server.respond_eq_or_succeeds`: one request; `Server.runAll_accepted`, `Server.trace_accepted`:
  the requests that are rejected can be left out of a run, and nobody notices.
* `Server.respond_get`: who only looks changes nothing.
* `Server.CarriesOut`: an instruction that can be carried out; it is answered with the grid that is
  stored.
-/

namespace GridTalk

namespace Reply

/-- Does the answer tell of a success? -/
def Succeeds (reply : Reply) : Prop := ∃ status ∈ reply.status?, 200 ≤ status ∧ status < 300

instance (reply : Reply) : Decidable reply.Succeeds :=
  inferInstanceAs (Decidable (∃ status ∈ reply.status?, _))

theorem succeeds_of_status {reply : Reply} {status : Nat} (h : reply.status? = some status)
    (hlow : 200 ≤ status) (hhigh : status < 300) : reply.Succeeds := ⟨status, h, hlow, hhigh⟩

theorem status?_withoutBody (reply : Reply) : reply.withoutBody.status? = reply.status? := by
  cases reply <;> rfl

end Reply

namespace Server

variable {server : Server} {id : SessionId} {r : Request}

/-! ### Who only looks -/

theorem withSession_snd {act : Session → Outcome} (h : ∀ session, (act session).2 = server) :
    (server.withSession id act).2 = server := by
  unfold withSession
  cases server.find? id with
  | none => rfl
  | some session => exact h session

theorem withId_snd {segment : String} {act : SessionId → Outcome}
    (h : ∀ id, (act id).2 = server) : (server.withId segment act).2 = server := by
  unfold withId
  cases sessionIdOf? segment with
  | none => rfl
  | some id => exact h id

theorem showSession_snd (server : Server) (id : SessionId) : (server.showSession id).2 = server :=
  withSession_snd fun _ => rfl

theorem exportCsv_snd (server : Server) (id : SessionId) : (server.exportCsv id).2 = server := by
  refine withSession_snd fun session => ?_
  cases session.grid with
  | none => rfl
  | some g =>
    dsimp only
    cases Csv.exportGrid g <;> rfl

/-- No endpoint changes anything when it is asked to show something. -/
theorem serve?_get_snd {fresh : SessionId} {endpoint : Endpoint} {query : List Char}
    {outcome : Outcome} (h : server.serve? fresh endpoint .get query r = some outcome) :
    outcome.2 = server := by
  cases endpoint with
  | health | examples =>
    cases h
    rfl
  | session segment =>
    cases h
    exact withId_snd fun id => showSession_snd server id
  | csv segment =>
    cases h
    exact withId_snd fun id => exportCsv_snd server id
  | sessions | grid | sample | instructions => cases h

/-! ### Changes are answered with a success -/

/-- The server stays as it is, or the answer is a success. -/
def Announced (server : Server) (outcome : Outcome) : Prop :=
  outcome.2 = server ∨ ∃ reply, outcome.1 = .ok reply ∧ reply.Succeeds

/-- Any answer may be given where nothing changes. -/
theorem announced_of_eq {outcome : Outcome} (h : outcome.2 = server) : server.Announced outcome :=
  .inl h

/-- After a success the server may be any. -/
theorem announced_of_status {reply : Reply} {status : Nat} {after : Server}
    (h : reply.status? = some status) (hlow : 200 ≤ status) (hhigh : status < 300) :
    server.Announced (.ok reply, after) :=
  .inr ⟨reply, rfl, Reply.succeeds_of_status h hlow hhigh⟩

theorem announced_withSession {act : Session → Outcome}
    (h : ∀ session, server.Announced (act session)) :
    server.Announced (server.withSession id act) := by
  unfold withSession
  cases server.find? id with
  | none => exact announced_of_eq rfl
  | some session => exact h session

theorem announced_withId {segment : String} {act : SessionId → Outcome}
    (h : ∀ id, server.Announced (act id)) : server.Announced (server.withId segment act) := by
  unfold withId
  cases sessionIdOf? segment with
  | none => exact announced_of_eq rfl
  | some id => exact h id

theorem announced_store (server : Server) (id : SessionId) (session : Session) :
    server.Announced (server.store id session) :=
  announced_of_status rfl (by decide) (by decide)

/-- A session is opened only when there is room for it, and nothing can fail afterwards. -/
theorem announced_createSession (server : Server) (fresh : SessionId) (r : Request) :
    server.Announced (server.createSession fresh r) := by
  unfold createSession
  split
  · exact announced_of_eq rfl
  · split
    · exact announced_of_eq rfl
    · exact announced_of_status rfl (by decide) (by decide)

theorem announced_deleteSession (server : Server) (id : SessionId) :
    server.Announced (server.deleteSession id) :=
  announced_withSession fun _ => announced_of_status rfl (by decide) (by decide)

theorem announced_loadGrid (server : Server) (id : SessionId) (r : Request) :
    server.Announced (server.loadGrid id r) := by
  unfold loadGrid
  split
  · exact announced_of_eq rfl
  · exact announced_withSession fun _ => announced_store server id _

theorem announced_loadSample (server : Server) (id : SessionId) :
    server.Announced (server.loadSample id) :=
  announced_withSession fun _ => announced_store server id _

theorem announced_importCsv (server : Server) (id : SessionId) (query : List Char) (r : Request) :
    server.Announced (server.importCsv id query r) := by
  unfold importCsv
  split
  · exact announced_of_eq rfl
  · split
    · exact announced_of_eq rfl
    · exact announced_withSession fun _ => announced_store server id _

/-- The session is stored only when the instruction has succeeded. -/
theorem announced_runInstruction (server : Server) (id : SessionId) (r : Request) :
    server.Announced (server.runInstruction id r) := by
  cases hbody : r.json?.bind instructionOfJson? with
  | none =>
    rw [runInstruction, hbody]
    exact announced_of_eq rfl
  | some text =>
    rw [runInstruction_eq hbody]
    refine announced_withSession fun session => ?_
    rcases hrun : session.run text with ⟨e | edit, stored⟩
    · exact announced_of_eq rfl
    · rw [← hrun, runAnswer_of_ok hrun]
      exact announced_of_status rfl (by decide) (by decide)

/-- Every endpoint answers a change with a success. -/
theorem announced_serve? {fresh : SessionId} {endpoint : Endpoint} {method : Method}
    {query : List Char} {outcome : Outcome}
    (h : server.serve? fresh endpoint method query r = some outcome) :
    server.Announced outcome := by
  cases endpoint with
  | health | examples =>
    cases method with
    | get =>
      cases h
      exact announced_of_eq rfl
    | _ => cases h
  | sessions =>
    cases method with
    | post =>
      cases h
      exact announced_createSession server fresh r
    | _ => cases h
  | session segment =>
    cases method with
    | get => exact announced_of_eq (serve?_get_snd h)
    | delete =>
      cases h
      exact announced_withId fun id => announced_deleteSession server id
    | _ => cases h
  | grid segment =>
    cases method with
    | put =>
      cases h
      exact announced_withId fun id => announced_loadGrid server id r
    | _ => cases h
  | sample segment =>
    cases method with
    | post =>
      cases h
      exact announced_withId fun id => announced_loadSample server id
    | _ => cases h
  | csv segment =>
    cases method with
    | get => exact announced_of_eq (serve?_get_snd h)
    | put =>
      cases h
      exact announced_withId fun id => announced_importCsv server id query r
    | _ => cases h
  | instructions segment =>
    cases method with
    | post =>
      cases h
      exact announced_withId fun id => announced_runInstruction server id r
    | _ => cases h

theorem announced_outcomeOf (server : Server) (fresh : SessionId) (endpoint : Endpoint)
    (r : Request) : server.Announced (outcomeOf server fresh endpoint r) := by
  unfold outcomeOf
  cases hserve : server.serve? fresh endpoint (methodOf r) (Target.ofText r.target).query r with
  | none => exact announced_of_eq rfl
  | some outcome => exact announced_serve? hserve

/-! ### One request -/

/-- Without its body an answer has the same status. -/
theorem status?_replyTo (r : Request) (result : Except ServerError Reply) :
    (replyTo r result).status? =
      match result with
      | .ok reply => reply.status?
      | .error e => (Reply.ofError e).status? := by
  cases result <;> dsimp only [replyTo] <;> split
  · exact Reply.status?_withoutBody _
  · rfl
  · exact Reply.status?_withoutBody _
  · rfl

/-- **A request** leaves the server as it is, or it is answered with a success. -/
theorem respond_eq_or_succeeds (server : Server) (fresh : SessionId) (r : Request) :
    (server.respond fresh r).2 = server ∨ (server.respond fresh r).1.Succeeds := by
  rcases respond_cases server fresh r with hkept | ⟨endpoint, -, hrespond⟩
  · exact .inl hkept
  · rw [hrespond]
    rcases announced_outcomeOf server fresh endpoint r with hkept | ⟨reply, hreply, hsucceeds⟩
    · exact .inl hkept
    · right
      rwa [hreply, Reply.Succeeds, status?_replyTo]

variable {segment : String} {fresh : SessionId}

/-- A request that is rejected can be left out. -/
theorem after_of_not_succeeds {a : Arrival} (h : ¬(server.exchange a).reply.Succeeds) :
    server.after a = server :=
  (respond_eq_or_succeeds server a.fresh a.request).resolve_right h

/-- The requests of a run that have been answered with a success. -/
def accepted (server : Server) (arrivals : List Arrival) : List Arrival :=
  ((server.trace arrivals).filter fun x => x.reply.Succeeds).map Exchange.arrival

theorem accepted_cons (server : Server) (a : Arrival) (arrivals : List Arrival) :
    server.accepted (a :: arrivals)
      = if (server.exchange a).reply.Succeeds then a :: (server.after a).accepted arrivals
        else server.accepted arrivals := by
  rw [accepted, trace, List.filter_cons]
  by_cases h : (server.exchange a).reply.Succeeds
  · rw [if_pos (by simpa using h), if_pos h, List.map_cons, exchange_arrival, accepted]
  · rw [if_neg (by simpa using h), if_neg h, after_of_not_succeeds h, accepted]

/-- The requests that have been rejected leave no trace in the sessions. -/
theorem runAll_accepted (server : Server) (arrivals : List Arrival) :
    server.runAll (server.accepted arrivals) = server.runAll arrivals := by
  induction arrivals generalizing server with
  | nil => rfl
  | cons a arrivals ih =>
    rw [accepted_cons]
    by_cases h : (server.exchange a).reply.Succeeds
    · rw [if_pos h]
      exact ih (server.after a)
    · rw [if_neg h, ih]
      exact congrArg (Server.runAll · arrivals) (after_of_not_succeeds h).symm

/-- The other requests are answered as if the rejected ones had never come. -/
theorem trace_accepted (server : Server) (arrivals : List Arrival) :
    server.trace (server.accepted arrivals)
      = (server.trace arrivals).filter fun x => x.reply.Succeeds := by
  induction arrivals generalizing server with
  | nil => rfl
  | cons a arrivals ih =>
    rw [accepted_cons, trace, List.filter_cons]
    by_cases h : (server.exchange a).reply.Succeeds
    · rw [if_pos h, if_pos (by simpa using h), trace, ih]
    · rw [if_neg h, if_neg (by simpa using h), ih, after_of_not_succeeds h]

end Server

end GridTalk
