import GridTalk.Server.State
import Mathlib.Data.List.Nodup

/-!
# The table of sessions

What is found in the table after it has changed.  A session is found where it was put, none where
one was erased, and the other identifiers lead to what they led to before.

* `Server.Change`, `Server.change`: all that happens to the entry of one session.
* `Server.find?_change_self`, `Server.find?_change_of_ne`: what is found afterwards.
* `Server.mem_sessions_change`: no other entry is added.
* `Server.keys`, `Server.count_put_of_none`, `Server.count_erase`: the identifiers of the table, and
  how many entries there are afterwards.
-/

namespace GridTalk
namespace Server

/-- What becomes of the entry of a session. -/
inductive Change
  /-- It stays, if there is one. -/
  | keep
  /-- There is an entry with this session. -/
  | put (session : Session)
  /-- There is no entry any more. -/
  | erase

/-- The session of an entry after a change. -/
def Change.apply : Change → Option Session → Option Session
  | keep, session => session
  | put session, _ => some session
  | erase, _ => none

/-- The server after a change of one entry. -/
def change (server : Server) (id : SessionId) : Change → Server
  | .keep => server
  | .put session => server.put id session
  | .erase => server.erase id

variable {server : Server} {id id' : SessionId} {session : Session}

/-! ### One entry put or erased -/

theorem lookup_cons_entry (id key : SessionId) (session : Session)
    (sessions : List (SessionId × Session)) :
    ((key, session) :: sessions).lookup id
      = if id = key then some session else sessions.lookup id := by
  rw [List.lookup_cons]
  by_cases h : id = key
  · simp [h]
  · simp [h, beq_eq_false_iff_ne.2 h]

theorem lookup_map_put (sessions : List (SessionId × Session)) (id id' : SessionId)
    (session : Session) :
    (sessions.map fun entry => if entry.1 = id then (id, session) else entry).lookup id'
      = if id' = id then (sessions.lookup id).map fun _ => session else sessions.lookup id' := by
  induction sessions with
  | nil => simp
  | cons entry sessions ih =>
    obtain ⟨key, old⟩ := entry
    rw [List.map_cons, lookup_cons_entry, lookup_cons_entry]
    by_cases hkey : key = id
    · rw [if_pos hkey, lookup_cons_entry, ih, if_pos hkey.symm, hkey]
      split <;> rfl
    · rw [if_neg hkey, lookup_cons_entry, ih, if_neg (Ne.symm hkey)]
      by_cases hid : id' = id
      · rw [if_neg (fun h => hkey (h.symm.trans hid)), if_pos hid, if_pos hid]
      · rw [if_neg hid, if_neg hid]

theorem lookup_filter_ne (sessions : List (SessionId × Session)) (id id' : SessionId) :
    (sessions.filter fun entry => entry.1 ≠ id).lookup id'
      = if id' = id then none else sessions.lookup id' := by
  induction sessions with
  | nil => simp
  | cons entry sessions ih =>
    obtain ⟨key, old⟩ := entry
    rw [lookup_cons_entry]
    by_cases hkey : key = id
    · rw [List.filter_cons_of_neg (by simpa using hkey), ih, hkey]
      split <;> rfl
    · rw [List.filter_cons_of_pos (by simpa using hkey), lookup_cons_entry, ih]
      by_cases hid : id' = id
      · rw [if_neg (fun h => hkey (h.symm.trans hid)), if_pos hid, if_pos hid]
      · rw [if_neg hid, if_neg hid]

theorem find?_put (server : Server) (id id' : SessionId) (session : Session) :
    (server.put id session).find? id' = if id' = id then some session else server.find? id' := by
  unfold put
  split
  · next h =>
    obtain ⟨old, hold⟩ := Option.isSome_iff_exists.1 h
    have hlookup : server.sessions.lookup id = some old := hold
    rw [find?, lookup_map_put, hlookup]
    rfl
  · next h =>
    have hnone : server.find? id = none := Option.not_isSome_iff_eq_none.1 h
    rw [find?, List.lookup_append, lookup_cons_entry, List.lookup_nil]
    by_cases hid : id' = id
    · rw [if_pos hid, if_pos hid, hid]
      exact congrArg (Option.or · (some session)) hnone
    · rw [if_neg hid, if_neg hid, Option.or_none]
      rfl

theorem find?_erase (server : Server) (id id' : SessionId) :
    (server.erase id).find? id' = if id' = id then none else server.find? id' :=
  lookup_filter_ne server.sessions id id'

theorem mem_sessions_put {entry : SessionId × Session}
    (h : entry ∈ (server.put id session).sessions) : entry.1 = id ∨ entry ∈ server.sessions := by
  unfold put at h
  split at h
  · obtain ⟨old, hold, rfl⟩ := List.mem_map.1 h
    split
    · exact .inl rfl
    · exact .inr hold
  · rcases List.mem_append.1 h with h | h
    · exact .inr h
    · rw [List.mem_singleton.1 h]
      exact .inl rfl

@[simp] theorem historyLimit_put (server : Server) (id : SessionId) (session : Session) :
    (server.put id session).historyLimit = server.historyLimit := by
  unfold put
  split <;> rfl

@[simp] theorem maxSessions_put (server : Server) (id : SessionId) (session : Session) :
    (server.put id session).maxSessions = server.maxSessions := by
  unfold put
  split <;> rfl

/-! ### Changes -/

/-- The entry itself changes. -/
theorem find?_change_self (server : Server) (id : SessionId) (c : Change) :
    (server.change id c).find? id = c.apply (server.find? id) := by
  cases c with
  | keep => rfl
  | put session => simp [change, find?_put, Change.apply]
  | erase => simp [change, find?_erase, Change.apply]

/-- No other entry changes. -/
theorem find?_change_of_ne (h : id' ≠ id) (server : Server) (c : Change) :
    (server.change id c).find? id' = server.find? id' := by
  cases c with
  | keep => rfl
  | put session => simp [change, find?_put, h]
  | erase => simp [change, find?_erase, h]

/-- No other entry is added. -/
theorem mem_sessions_change {entry : SessionId × Session} {c : Change}
    (h : entry ∈ (server.change id c).sessions) : entry.1 = id ∨ entry ∈ server.sessions := by
  cases c with
  | keep => exact .inr h
  | put session => exact mem_sessions_put h
  | erase => exact .inr (List.mem_filter.1 h).1

@[simp] theorem historyLimit_change (server : Server) (id : SessionId) (c : Change) :
    (server.change id c).historyLimit = server.historyLimit := by
  cases c with
  | keep => rfl
  | put session => exact historyLimit_put server id session
  | erase => rfl

@[simp] theorem maxSessions_change (server : Server) (id : SessionId) (c : Change) :
    (server.change id c).maxSessions = server.maxSessions := by
  cases c with
  | keep => rfl
  | put session => exact maxSessions_put server id session
  | erase => rfl

/-- If nothing is found under the only identifier of a table, the table is empty. -/
theorem sessions_eq_nil (hkeys : ∀ entry ∈ server.sessions, entry.1 = id)
    (h : server.find? id = none) : server.sessions = [] := by
  rw [List.eq_nil_iff_forall_not_mem]
  intro entry hentry
  have hne := List.lookup_eq_none_iff.1 h entry hentry
  simp [hkeys entry hentry] at hne

/-! ### The number of entries -/

/-- The identifiers of the table. -/
def keys (server : Server) : List SessionId := server.sessions.map Prod.fst

@[simp] theorem length_keys (server : Server) : server.keys.length = server.count :=
  List.length_map ..

theorem mem_keys_iff : id ∈ server.keys ↔ (server.find? id).isSome := by
  rw [← not_iff_not, Bool.not_eq_true, Option.isSome_eq_false_iff, Option.isNone_iff_eq_none, find?,
    List.lookup_eq_none_iff, keys, List.mem_map]
  constructor
  · intro h entry hentry
    exact bne_iff_ne.2 fun hid => h ⟨entry, hentry, hid.symm⟩
  · rintro h ⟨entry, hentry, rfl⟩
    simpa using h entry hentry

theorem keys_put_of_live (h : (server.find? id).isSome) :
    (server.put id session).keys = server.keys := by
  rw [put, if_pos h, keys, keys, List.map_map]
  refine List.map_congr_left fun entry _ => ?_
  by_cases hid : entry.1 = id <;> simp [hid]

theorem keys_put_of_none (h : server.find? id = none) :
    (server.put id session).keys = server.keys ++ [id] := by
  rw [put, if_neg (by simp [h]), keys, keys, List.map_append]
  rfl

theorem keys_erase (server : Server) (id : SessionId) :
    (server.erase id).keys = server.keys.filter (· != id) := by
  rw [keys, keys, List.filter_map]
  exact congrArg (List.map Prod.fst) (List.filter_congr fun entry _ => by simp [bne, beq_eq_decide])

theorem nodup_keys_put (h : server.keys.Nodup) (id : SessionId) (session : Session) :
    (server.put id session).keys.Nodup := by
  cases hfind : server.find? id with
  | some old => rwa [keys_put_of_live (by simp [hfind])]
  | none =>
    have hnew : id ∉ server.keys := by simp [mem_keys_iff, hfind]
    rw [keys_put_of_none hfind]
    exact h.append (List.nodup_singleton id) (by simpa using hnew)

theorem nodup_keys_erase (h : server.keys.Nodup) (id : SessionId) :
    (server.erase id).keys.Nodup := by
  rw [keys_erase]
  exact h.filter _

theorem count_put_of_none (h : server.find? id = none) :
    (server.put id session).count = server.count + 1 := by
  rw [← length_keys, keys_put_of_none h, List.length_append, length_keys]
  rfl

/-- Where no identifier stands twice, one entry goes when one is erased. -/
theorem count_erase (hkeys : server.keys.Nodup) (h : (server.find? id).isSome) :
    (server.erase id).count + 1 = server.count := by
  have hmem := mem_keys_iff.2 h
  have hpos := List.length_pos_of_mem hmem
  rw [← length_keys, keys_erase, ← hkeys.erase_eq_filter, List.length_erase_of_mem hmem,
    length_keys]
  rw [length_keys] at hpos
  omega

end Server
end GridTalk
