import GridTalk.Proofs.Server.Addressed
import Mathlib.Data.List.Nodup
import Mathlib.Data.List.TakeWhile

/-!
# Isolation of sessions

Whoever works on one session notices nothing of the others.

* `Arrival`, `Exchange`, `Server.trace`: a sequence of requests and what is answered.
* `Exchange.concerns`: does an exchange open this session or name it?
* `IsOpen`, `actionsSince`: whether a session is open, and what has been done to it since it was
  opened, as its own exchanges tell.
* `Server.Mirrors`: the invariant that ties a server to one which gets the requests of one session
  only; `mirrors_run` says that it holds after any requests.
* `Server.trace_filter_addressed`: sessions that are open already.
* `Server.isolation`: each session is what its own requests make of it, and they are answered as
  if there were no others.
-/

namespace GridTalk

/-- The status of an answer; a connection that ends has none. -/
def Reply.status? : Reply → Option Nat
  | bare status => some status
  | json status _ => some status
  | csv _ _ _ => some 200
  | dropped => none

/-- A request, and the identifier for the session that it may open. -/
structure Arrival where
  fresh : SessionId
  request : Request
  deriving DecidableEq, Repr

/-- Does the request name this session? -/
def Arrival.addresses (id : SessionId) (a : Arrival) : Bool := a.request.addressee? = some id

/-- A request and its answer. -/
structure Exchange where
  arrival : Arrival
  reply : Reply

namespace Exchange

/-- The body of a request that has opened a session. -/
def opened? (x : Exchange) : Option CreateBody :=
  if x.reply.status? = some 201 then x.arrival.request.opening? else none

/-- Has this session been opened here, or does the request name it? -/
def concerns (id : SessionId) (x : Exchange) : Bool :=
  x.arrival.addresses id || (x.opened?.isSome && x.arrival.fresh = id)

/-- What has been asked of the session. -/
def actions (x : Exchange) : List Session.Action :=
  match x.opened? with
  | some body => body.actions
  | none => x.arrival.request.action?.toList

end Exchange

/-- The identifiers of the sessions that have been opened. -/
def openedIds (xs : List Exchange) : List SessionId :=
  (xs.filter fun x => x.opened?.isSome).map fun x => x.arrival.fresh

/-- The exchanges of a session from the one that opened it. -/
def sinceOpened (xs : List Exchange) : List Exchange := xs.dropWhile fun x => x.opened?.isNone

/-- What has been asked of a session since it was opened. -/
def actionsSince (xs : List Exchange) : List Session.Action :=
  (sinceOpened xs).flatMap Exchange.actions

/-- Has a session with these exchanges been opened, and not been closed? -/
structure IsOpen (xs : List Exchange) : Prop where
  opened : sinceOpened xs ≠ []
  not_closed : ∀ x ∈ sinceOpened xs, x.arrival.request.closes = false

theorem opened?_of_addresses {x : Exchange} {id : SessionId} (h : x.arrival.addresses id = true) :
    x.opened? = none := by
  have haddressee : x.arrival.request.addressee? = some id := by simpa [Arrival.addresses] using h
  simp [Exchange.opened?, Request.opening?_of_addressee haddressee]

theorem openedIds_append_singleton (xs : List Exchange) (x : Exchange) :
    openedIds (xs ++ [x])
      = openedIds xs ++ if x.opened?.isSome then [x.arrival.fresh] else [] := by
  rw [openedIds, List.filter_append, List.map_append, openedIds, List.filter_singleton]
  cases x.opened?.isSome <;> rfl

/-- A session that has been opened among its own exchanges has been opened. -/
theorem mem_openedIds_of_concerns {xs : List Exchange} {id : SessionId}
    (h : ∃ x ∈ xs.filter (Exchange.concerns id), x.opened?.isSome) : id ∈ openedIds xs := by
  obtain ⟨x, hx, hopened⟩ := h
  obtain ⟨hmem, hconcerns⟩ := List.mem_filter.1 hx
  cases haddresses : x.arrival.addresses id with
  | true => simp [opened?_of_addresses haddresses] at hopened
  | false =>
    have hfresh : x.arrival.fresh = id := by
      simpa [Exchange.concerns, haddresses, hopened] using hconcerns
    exact List.mem_map.2 ⟨x, List.mem_filter.2 ⟨hmem, hopened⟩, hfresh⟩

/-- Once a session has been opened, everything that follows belongs to it. -/
theorem sinceOpened_append_of_ne_nil {xs : List Exchange} (h : sinceOpened xs ≠ [])
    (x : Exchange) : sinceOpened (xs ++ [x]) = sinceOpened xs ++ [x] := by
  rw [sinceOpened] at h ⊢
  rw [List.dropWhile_append, if_neg fun hempty => h (List.isEmpty_iff.1 hempty), sinceOpened]

theorem sinceOpened_append_of_eq_nil {xs : List Exchange} (h : sinceOpened xs = [])
    (x : Exchange) : sinceOpened (xs ++ [x]) = if x.opened?.isSome then [x] else [] := by
  rw [sinceOpened] at h
  rw [sinceOpened, List.dropWhile_append, h]
  cases hopened : x.opened? <;> simp [hopened]

/-- A session that has been opened has an exchange which opened it. -/
theorem exists_of_sinceOpened_ne_nil {xs : List Exchange} (h : sinceOpened xs ≠ []) :
    ∃ x ∈ xs, x.opened?.isSome := by
  by_contra hnone
  refine h (List.dropWhile_eq_nil_iff.2 fun x hx => ?_)
  by_contra hopened
  rw [Option.isNone_iff_eq_none] at hopened
  exact hnone ⟨x, hx, Option.isSome_iff_ne_none.2 hopened⟩

/-- An exchange that opens nothing leaves a session open if it does not close it. -/
theorem isOpen_append_iff {xs : List Exchange} {x : Exchange} (hx : x.opened? = none) :
    IsOpen (xs ++ [x]) ↔ IsOpen xs ∧ x.arrival.request.closes = false := by
  by_cases hnil : sinceOpened xs = []
  · have hnil' : sinceOpened (xs ++ [x]) = [] := by
      rw [sinceOpened_append_of_eq_nil hnil, hx]
      rfl
    exact ⟨fun h => absurd hnil' h.opened, fun h => absurd hnil h.1.opened⟩
  · have hsince := sinceOpened_append_of_ne_nil hnil x
    constructor
    · intro h
      refine ⟨⟨hnil, fun y hy => h.not_closed y ?_⟩, h.not_closed x ?_⟩
      · exact hsince ▸ List.mem_append_left _ hy
      · exact hsince ▸ List.mem_append_right _ (List.mem_singleton_self x)
    · rintro ⟨h, hcloses⟩
      refine ⟨by simp [hsince], fun y hy => ?_⟩
      rcases List.mem_append.1 (hsince ▸ hy) with hy | hy
      · exact h.not_closed y hy
      · rwa [List.mem_singleton.1 hy]

/-- The exchange that opens a session is the first one that belongs to it. -/
theorem sinceOpened_append_of_opened {xs : List Exchange} (h : sinceOpened xs = [])
    {x : Exchange} {body : CreateBody} (hx : x.opened? = some body) :
    sinceOpened (xs ++ [x]) = [x] := by
  rw [sinceOpened_append_of_eq_nil h, hx]
  rfl

namespace Server

variable {server small : Server} {id : SessionId} {a : Arrival}

/-- The server after a request. -/
def after (server : Server) (a : Arrival) : Server := (server.respond a.fresh a.request).2

/-- A request with the answer that it gets. -/
def exchange (server : Server) (a : Arrival) : Exchange :=
  ⟨a, (server.respond a.fresh a.request).1⟩

@[simp] theorem exchange_arrival (server : Server) (a : Arrival) :
    (server.exchange a).arrival = a := rfl

/-- The server after some requests. -/
def runAll (server : Server) (arrivals : List Arrival) : Server := arrivals.foldl after server

/-- Some requests with their answers. -/
def trace (server : Server) : List Arrival → List Exchange
  | [] => []
  | a :: arrivals => server.exchange a :: (server.after a).trace arrivals

theorem runAll_append_singleton (server : Server) (arrivals : List Arrival) (a : Arrival) :
    server.runAll (arrivals ++ [a]) = (server.runAll arrivals).after a := by
  simp [runAll]

theorem trace_append_singleton (server : Server) (arrivals : List Arrival) (a : Arrival) :
    server.trace (arrivals ++ [a])
      = server.trace arrivals ++ [(server.runAll arrivals).exchange a] := by
  induction arrivals generalizing server with
  | nil => rfl
  | cons b arrivals ih =>
    rw [List.cons_append, trace, ih, trace, List.cons_append]
    rfl

/-! ### One request -/

/-- A request that names a session is answered from this session alone, and becomes of it what the
request says. -/
theorem exchange_of_addresses (server : Server) (h : a.addresses id = true) :
    (∀ small : Server, small.find? id = server.find? id →
      small.exchange a = server.exchange a) ∧
    (server.after a).find? id = (server.find? id).bind a.request.next := by
  have haddressee : a.request.addressee? = some id := by simpa [Arrival.addresses] using h
  obtain ⟨answer, c, hrespond, hnext⟩ := respond_of_addressee haddressee
  refine ⟨fun small hfind => ?_, ?_⟩
  · rw [exchange, exchange, hrespond, hrespond, hfind]
  · rw [after, hrespond, find?_change_self, hnext]

theorem closes_of_opening {body : CreateBody} (h : a.request.opening? = some body) :
    a.request.closes = false := by
  obtain ⟨hendpoint, -, -⟩ := Request.opening?_eq_some h
  simp [Request.closes, hendpoint]

/-- Where there is room, a session is opened in the same way. -/
theorem respond_of_room {body : CreateBody} (h : a.request.opening? = some body)
    (hroom : server.count < server.maxSessions) :
    let session := (Session.new server.historyLimit).afterAll body.actions
    server.exchange a = ⟨a, .json 201 (sessionJson a.fresh session)⟩ ∧
      server.after a = server.put a.fresh session := by
  have hrespond := respond_of_opening h server a.fresh
  rw [if_neg (by omega)] at hrespond
  exact ⟨by rw [exchange, hrespond], by rw [after, hrespond]⟩

/-- A session is opened on request, when there is room for it. -/
theorem opened?_exchange_iff {body : CreateBody} :
    (server.exchange a).opened? = some body ↔
      a.request.opening? = some body ∧ server.count < server.maxSessions := by
  constructor
  · intro h
    have hopening : a.request.opening? = some body := by
      unfold Exchange.opened? at h
      split at h
      · exact h
      · cases h
    refine ⟨hopening, ?_⟩
    by_contra hfull
    have hrespond := respond_of_opening hopening server a.fresh
    rw [if_pos (by omega)] at hrespond
    simp [Exchange.opened?, exchange, hrespond, Reply.ofError, Reply.status?,
      ServerError.status] at h
  · rintro ⟨hopening, hroom⟩
    rw [(respond_of_room hopening hroom).1]
    simp [Exchange.opened?, Reply.status?, hopening]

/-- A request changes at most one entry, that of a session which it opens or names. -/
theorem after_cases (server : Server) (a : Arrival) :
    server.after a = server ∨
      ∃ id c, (server.exchange a).concerns id = true ∧ server.after a = server.change id c := by
  cases haddressee : a.request.addressee? with
  | some id =>
    obtain ⟨answer, c, hrespond, -⟩ := respond_of_addressee haddressee
    refine .inr ⟨id, c (server.find? id), ?_, by rw [after, hrespond]⟩
    simp [Exchange.concerns, exchange, Arrival.addresses, haddressee]
  | none =>
    cases hopening : a.request.opening? with
    | none => exact .inl (respond_of_other haddressee hopening server a.fresh)
    | some body =>
      by_cases hroom : server.count < server.maxSessions
      · obtain ⟨hexchange, hafter⟩ := respond_of_room hopening hroom
        refine .inr ⟨a.fresh, .put _, ?_, hafter⟩
        simp [Exchange.concerns, hexchange, Exchange.opened?, Reply.status?, hopening]
      · have hrespond := respond_of_opening hopening server a.fresh
        rw [if_pos (by omega)] at hrespond
        exact .inl (by rw [after, hrespond])

/-- A request changes nothing but the session that it opens or names. -/
theorem find?_after_of_not_concerns (h : (server.exchange a).concerns id = false) :
    (server.after a).find? id = server.find? id := by
  rcases after_cases server a with hafter | ⟨id', c, hconcerns, hafter⟩
  · rw [hafter]
  · have hne : id ≠ id' := by
      rintro rfl
      simp [h] at hconcerns
    rw [hafter, find?_change_of_ne hne]

/-- No request changes the limits. -/
theorem limits_after (server : Server) (a : Arrival) :
    (server.after a).historyLimit = server.historyLimit ∧
      (server.after a).maxSessions = server.maxSessions := by
  rcases after_cases server a with hafter | ⟨id, c, -, hafter⟩
  · rw [hafter]
    exact ⟨rfl, rfl⟩
  · rw [hafter]
    exact ⟨historyLimit_change .., maxSessions_change ..⟩

/-- An entry that a request adds is that of a session which it opens or names. -/
theorem mem_sessions_after {entry : SessionId × Session}
    (h : entry ∈ (server.after a).sessions) :
    (server.exchange a).concerns entry.1 = true ∨ entry ∈ server.sessions := by
  rcases after_cases server a with hafter | ⟨id, c, hconcerns, hafter⟩
  · exact .inr (hafter ▸ h)
  · rw [hafter] at h
    rcases mem_sessions_change h with rfl | h
    · exact .inl hconcerns
    · exact .inr h

/-! ### Any requests -/

/-- After the exchanges `own` of a session, `small`, which has seen no others, agrees with the
server on this session, and the session is what has been asked of it since it was opened. -/
structure Mirrors (limit maxSessions : Nat) (id : SessionId) (own : List Exchange)
    (server small : Server) : Prop where
  find?_eq : small.find? id = server.find? id
  historyLimit_eq : server.historyLimit = limit ∧ small.historyLimit = limit
  maxSessions_eq : server.maxSessions = maxSessions ∧ small.maxSessions = maxSessions
  keys_eq : ∀ entry ∈ small.sessions, entry.1 = id
  find?_iff : ∀ session, server.find? id = some session ↔
    IsOpen own ∧ session = (Session.new limit).afterAll (actionsSince own)

variable {limit maxSessions : Nat} {own : List Exchange}

theorem mirrors_new (limit maxSessions : Nat) (id : SessionId) :
    Mirrors limit maxSessions id [] (new limit maxSessions) (new limit maxSessions) where
  find?_eq := rfl
  historyLimit_eq := ⟨rfl, rfl⟩
  maxSessions_eq := ⟨rfl, rfl⟩
  keys_eq _ h := by cases h
  find?_iff _ := ⟨nofun, fun h => absurd rfl h.1.opened⟩

namespace Mirrors

/-- The requests of others make no difference. -/
theorem skip (h : Mirrors limit maxSessions id own server small)
    (hother : (server.exchange a).concerns id = false) :
    Mirrors limit maxSessions id own (server.after a) small := by
  have hfind := find?_after_of_not_concerns hother
  obtain ⟨hlimit, hmax⟩ := limits_after server a
  exact {
    find?_eq := h.find?_eq.trans hfind.symm
    historyLimit_eq := ⟨hlimit.trans h.historyLimit_eq.1, h.historyLimit_eq.2⟩
    maxSessions_eq := ⟨hmax.trans h.maxSessions_eq.1, h.maxSessions_eq.2⟩
    keys_eq := h.keys_eq
    find?_iff := fun session => by rw [hfind, h.find?_iff] }

theorem historyLimit_after (h : Mirrors limit maxSessions id own server small) (a : Arrival) :
    (server.after a).historyLimit = limit ∧ (small.after a).historyLimit = limit :=
  ⟨(limits_after server a).1.trans h.historyLimit_eq.1,
    (limits_after small a).1.trans h.historyLimit_eq.2⟩

theorem maxSessions_after (h : Mirrors limit maxSessions id own server small) (a : Arrival) :
    (server.after a).maxSessions = maxSessions ∧ (small.after a).maxSessions = maxSessions :=
  ⟨(limits_after server a).2.trans h.maxSessions_eq.1,
    (limits_after small a).2.trans h.maxSessions_eq.2⟩

/-- What the small server holds after a request of the session. -/
theorem keys_after (h : Mirrors limit maxSessions id own server small)
    (hconcerns : ∀ i, (small.exchange a).concerns i = true → i = id) :
    ∀ entry ∈ (small.after a).sessions, entry.1 = id := by
  intro entry hentry
  rcases mem_sessions_after hentry with hnew | hold
  · exact hconcerns entry.1 hnew
  · exact h.keys_eq entry hold

/-- A request that names the session is answered in the same way. -/
theorem addressed (h : Mirrors limit maxSessions id own server small)
    (haddresses : a.addresses id = true) :
    small.exchange a = server.exchange a ∧
      Mirrors limit maxSessions id (own ++ [server.exchange a]) (server.after a)
        (small.after a) := by
  obtain ⟨hsame, hnext⟩ := exchange_of_addresses server haddresses
  obtain ⟨-, hnext'⟩ := exchange_of_addresses small haddresses
  have hexchange := hsame small h.find?_eq
  have hopened : (server.exchange a).opened? = none := opened?_of_addresses haddresses
  refine ⟨hexchange, ?_, h.historyLimit_after a, h.maxSessions_after a,
    h.keys_after fun i hi => ?_, fun session => ?_⟩
  · rw [hnext, hnext', h.find?_eq]
  · rw [hexchange] at hi
    have hi' : a.addresses i = true := by
      simpa [Exchange.concerns, hopened] using hi
    simp only [Arrival.addresses, decide_eq_true_eq] at hi' haddresses
    exact Option.some.inj (hi'.symm.trans haddresses)
  · -- such a request opens nothing, so a session that is open afterwards was open before
    have hactions (hopen : IsOpen own) : actionsSince (own ++ [server.exchange a])
        = actionsSince own ++ a.request.action?.toList := by
      rw [actionsSince, sinceOpened_append_of_ne_nil hopen.opened, List.flatMap_append,
        List.flatMap_singleton, Exchange.actions, hopened, exchange_arrival, actionsSince]
    rw [isOpen_append_iff hopened, exchange_arrival, hnext, Option.bind_eq_some_iff]
    constructor
    · rintro ⟨before, hfind, hstep⟩
      obtain ⟨hopen, rfl⟩ := (h.find?_iff before).1 hfind
      rw [Request.next] at hstep
      split at hstep
      · cases hstep
      · next hcloses =>
        rw [hactions hopen, Session.afterAll_append]
        exact ⟨⟨hopen, Bool.eq_false_iff.2 hcloses⟩, (Option.some.inj hstep).symm⟩
    · rintro ⟨⟨hopen, hcloses⟩, rfl⟩
      refine ⟨_, (h.find?_iff _).2 ⟨hopen, rfl⟩, ?_⟩
      rw [next_eq hcloses, hactions hopen, Session.afterAll_append]

/-- The session is opened in the same way, if it has not been opened before. -/
theorem opened (h : Mirrors limit maxSessions id own server small) (hfresh : a.fresh = id)
    (hopened : (server.exchange a).opened?.isSome)
    (hbefore : sinceOpened own = []) :
    small.exchange a = server.exchange a ∧
      Mirrors limit maxSessions id (own ++ [server.exchange a]) (server.after a)
        (small.after a) := by
  obtain ⟨body, hbody⟩ := Option.isSome_iff_exists.1 hopened
  obtain ⟨hopening, hroom⟩ := opened?_exchange_iff.1 hbody
  have hnone : server.find? id = none := by
    by_contra hlive
    obtain ⟨session, hfind⟩ := Option.ne_none_iff_exists'.1 hlive
    exact ((h.find?_iff session).1 hfind).1.opened hbefore
  -- the small server has no session at all, so that there is room if there is any room
  have hempty : small.count = 0 := by
    rw [count, sessions_eq_nil h.keys_eq (h.find?_eq.trans hnone)]
    rfl
  have hroom' : small.count < small.maxSessions := by
    rw [hempty, h.maxSessions_eq.2, ← h.maxSessions_eq.1]
    omega
  obtain ⟨hexchange, hafter⟩ := respond_of_room hopening hroom
  obtain ⟨hexchange', hafter'⟩ := respond_of_room hopening hroom'
  rw [h.historyLimit_eq.1, hfresh] at hexchange hafter
  rw [h.historyLimit_eq.2, hfresh] at hexchange' hafter'
  have hsame : small.exchange a = server.exchange a := hexchange'.trans hexchange.symm
  refine ⟨hsame, ?_, h.historyLimit_after a, h.maxSessions_after a, h.keys_after fun i hi => ?_,
    fun session => ?_⟩
  · rw [hafter, hafter', find?_put, find?_put, if_pos rfl, if_pos rfl]
  · have hunnamed : a.addresses i = false := by
      by_contra hnamed
      rw [Bool.not_eq_false] at hnamed
      have hnot : (server.exchange a).opened? = none := opened?_of_addresses hnamed
      simp [hnot] at hopened
    rw [hsame] at hi
    have hi' : a.fresh = i := by
      rw [Exchange.concerns, exchange_arrival, hunnamed, hopened] at hi
      simpa using hi
    exact hi'.symm.trans hfresh
  · have hsince := sinceOpened_append_of_opened hbefore hbody
    have hactions : actionsSince (own ++ [server.exchange a]) = body.actions := by
      rw [actionsSince, hsince, List.flatMap_singleton, Exchange.actions, hbody]
    have hopen : IsOpen (own ++ [server.exchange a]) := by
      refine ⟨by simp [hsince], fun x hx => ?_⟩
      rw [hsince, List.mem_singleton] at hx
      rw [hx, exchange_arrival, closes_of_opening hopening]
    rw [hafter, find?_put, if_pos rfl, hactions, Option.some.injEq, eq_comm]
    exact ⟨fun h => ⟨hopen, h⟩, fun h => h.2⟩

end Mirrors

/-- After any requests the server agrees on each session with one that has got the requests of this
session only, and both have answered them in the same way. -/
theorem mirrors_run (limit maxSessions : Nat) (arrivals : List Arrival) (id : SessionId)
    (hfresh : (openedIds ((new limit maxSessions).trace arrivals)).Nodup) :
    let server := new limit maxSessions
    let own := (server.trace arrivals).filter (Exchange.concerns id)
    let ownArrivals := own.map Exchange.arrival
    server.trace ownArrivals = own ∧
      Mirrors limit maxSessions id own (server.runAll arrivals) (server.runAll ownArrivals) := by
  induction arrivals using List.reverseRecOn with
  | nil => exact ⟨rfl, mirrors_new limit maxSessions id⟩
  | append_singleton arrivals a ih =>
    -- the last request is one of others, one that names the session, or the one that opens it
    rw [trace_append_singleton, openedIds_append_singleton] at hfresh
    obtain ⟨htrace, hmirrors⟩ := ih hfresh.of_append_left
    dsimp only at htrace hmirrors ⊢
    rw [trace_append_singleton, List.filter_append, List.filter_singleton,
      runAll_append_singleton]
    generalize (new limit maxSessions).runAll arrivals = server at *
    generalize hown : ((new limit maxSessions).trace arrivals).filter (Exchange.concerns id) = own
      at *
    cases hconcerns : (server.exchange a).concerns id with
    | false =>
      rw [cond_false, List.append_nil]
      exact ⟨htrace, hmirrors.skip hconcerns⟩
    | true =>
      rw [cond_true, List.map_append, List.map_singleton, exchange_arrival]
      rw [trace_append_singleton, htrace, runAll_append_singleton]
      generalize (new limit maxSessions).runAll (own.map Exchange.arrival) = small at *
      cases haddresses : a.addresses id with
      | true =>
        obtain ⟨hsame, hmirrors⟩ := hmirrors.addressed haddresses
        exact ⟨by rw [hsame], hmirrors⟩
      | false =>
        rw [Exchange.concerns, exchange_arrival, haddresses, Bool.false_or,
          Bool.and_eq_true, decide_eq_true_eq] at hconcerns
        obtain ⟨hopened, hid⟩ := hconcerns
        rw [if_pos hopened, exchange_arrival, hid] at hfresh
        have hbefore : sinceOpened own = [] := by
          by_contra hne
          have hex := exists_of_sinceOpened_ne_nil hne
          exact List.disjoint_of_nodup_append hfresh
            (mem_openedIds_of_concerns (hown ▸ hex)) (List.mem_singleton_self id)
        obtain ⟨hsame, hmirrors⟩ := hmirrors.opened hid hopened hbefore
        exact ⟨by rw [hsame], hmirrors⟩

/-- Two servers that agree on a session answer its requests in the same way, whatever else they are
asked of sessions in between. -/
theorem trace_filter_addressed {server small : Server} (calls : List Arrival)
    (hnamed : ∀ a ∈ calls, a.request.addressee?.isSome)
    (hfind : small.find? id = server.find? id) :
    (server.trace calls).filter (Exchange.concerns id)
      = small.trace (calls.filter (Arrival.addresses id)) := by
  induction calls generalizing server small with
  | nil => rfl
  | cons a calls ih =>
    have hrest := fun b hb => hnamed b (List.mem_cons_of_mem _ hb)
    have hconcerns : (server.exchange a).concerns id = a.addresses id := by
      obtain ⟨other, hother⟩ := Option.isSome_iff_exists.1 (hnamed a List.mem_cons_self)
      have haddresses : a.addresses other = true := by simp [Arrival.addresses, hother]
      have hopened : (server.exchange a).opened? = none := opened?_of_addresses haddresses
      simp [Exchange.concerns, hopened]
    -- a request to the session is seen by both servers, any other one leaves them in agreement
    rw [trace, List.filter_cons, hconcerns, List.filter_cons]
    cases haddresses : a.addresses id with
    | true =>
      obtain ⟨hsame, hnext⟩ := exchange_of_addresses server haddresses
      obtain ⟨-, hnext'⟩ := exchange_of_addresses small haddresses
      have hagree : (small.after a).find? id = (server.after a).find? id := by
        rw [hnext, hnext', hfind]
      rw [if_pos rfl, if_pos rfl, trace, hsame small hfind, ih hrest hagree]
    | false =>
      rw [if_neg Bool.false_ne_true, if_neg Bool.false_ne_true]
      have hkept := find?_after_of_not_concerns (hconcerns.trans haddresses)
      exact ih hrest (hfind.trans hkept.symm)

/-- **Isolation.**  Take any requests to a new server, where no identifier is given to two sessions,
and those of them that open or name one session.

1. They are answered as they would be if there had been no other requests.
2. The session is open if they have opened it and not closed it, and it is what they have made of
   it.
3. From then on, requests that name sessions may come in any interleaving: those that name this
   session get the same answers.
4. The next request for a session opens one if there is room for it. -/
theorem isolation (limit maxSessions : Nat) (arrivals : List Arrival)
    (hfresh : (openedIds ((new limit maxSessions).trace arrivals)).Nodup) (id : SessionId) :
    let start := new limit maxSessions
    let server := start.runAll arrivals
    let own := (start.trace arrivals).filter (Exchange.concerns id)
    start.trace (own.map Exchange.arrival) = own ∧
      (∀ session, server.find? id = some session ↔
        IsOpen own ∧ session = (Session.new limit).afterAll (actionsSince own)) ∧
      (∀ calls calls' : List Arrival,
        (∀ a ∈ calls ++ calls', a.request.addressee?.isSome) →
        calls.filter (Arrival.addresses id) = calls'.filter (Arrival.addresses id) →
        (server.trace calls).filter (Exchange.concerns id)
          = (server.trace calls').filter (Exchange.concerns id)) ∧
      ∀ a body, (server.exchange a).opened? = some body ↔
        a.request.opening? = some body ∧ server.count < maxSessions := by
  obtain ⟨htrace, hmirrors⟩ := mirrors_run limit maxSessions arrivals id hfresh
  refine ⟨htrace, hmirrors.find?_iff, fun calls calls' hnamed hsame => ?_, fun a body => ?_⟩
  · rw [trace_filter_addressed calls (fun a ha => hnamed a (List.mem_append_left _ ha)) rfl,
      trace_filter_addressed calls' (fun a ha => hnamed a (List.mem_append_right _ ha)) rfl, hsame]
  · rw [opened?_exchange_iff, hmirrors.maxSessions_eq.1]

/-- A request that brings a JSON body. -/
def posting (fresh : SessionId) (target body : String) : Arrival :=
  ⟨fresh, .post, target, some "application/json", body⟩

/-- Two clients open a session each, the first one with a grid. -/
def twoSessions : List Arrival :=
  [posting ⟨1⟩ "/api/sessions" "\x7b\"rows\": [[\"Name\"]]\x7d",
    posting ⟨2⟩ "/api/sessions" "\x7b\"sample\": true\x7d"]

/-- The first client gives an instruction. -/
def firstCall : Arrival :=
  posting ⟨3⟩ "/api/sessions/00000000-0000-0000-0000-000000000001/instructions"
    "\x7b\"instruction\": \"rename column a to pay\"\x7d"

/-- The second client closes its session. -/
def secondCall : Arrival :=
  ⟨⟨4⟩, .delete, "/api/sessions/00000000000000000000000000000002", none, ""⟩

/-- The session of the first client is open, and it gets the same answer whether the second one
leaves before or after. -/
theorem isolation_two_sessions :
    let server := (new 3 2).runAll twoSessions
    let own := ((new 3 2).trace twoSessions).filter (Exchange.concerns ⟨1⟩)
    (openedIds ((new 3 2).trace twoSessions)).Nodup ∧
      IsOpen own ∧ server.find? ⟨1⟩ = some ((Session.new 3).afterAll (actionsSince own)) ∧
      (server.trace [firstCall, secondCall]).filter (Exchange.concerns ⟨1⟩)
        = (server.trace [secondCall, firstCall]).filter (Exchange.concerns ⟨1⟩) := by
  have hfresh : (openedIds ((new 3 2).trace twoSessions)).Nodup := by decide +kernel
  obtain ⟨-, hsession, hcalls, -⟩ := isolation 3 2 twoSessions hfresh ⟨1⟩
  have hlive : (((new 3 2).runAll twoSessions).find? ⟨1⟩).isSome := by decide +kernel
  obtain ⟨session, hfind⟩ := Option.isSome_iff_exists.1 hlive
  obtain ⟨hopen, -⟩ := (hsession session).1 hfind
  exact ⟨hfresh, hopen, (hsession _).2 ⟨hopen, rfl⟩,
    hcalls _ _ (by decide +kernel) (by decide +kernel)⟩

end Server

end GridTalk
