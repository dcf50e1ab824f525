import GridTalk.Text.Quoted

/-!
# The log of a session

Messages, newest first, of which only the newest are kept when there is a limit.

* `Log.record`, `Log.clear`: what changes a log.
* `Log.latest`, `Log.entries`: what can be read from it.
* `Log.describe`: a one-line summary.
-/

namespace GridTalk

/-- Messages, newest first.  A limit of 0 keeps all of them. -/
structure Log where
  entries : List String
  limit : Nat
  deriving DecidableEq, Repr

namespace Log

/-- A log without messages. -/
def empty (limit : Nat) : Log := ⟨[], limit⟩

/-- The messages that a limit lets stand. -/
def keep (limit : Nat) (entries : List String) : List String :=
  if limit > 0 then entries.take limit else entries

/-- A message added in front; the oldest one goes if there are too many. -/
def record (log : Log) (message : String) : Log :=
  ⟨keep log.limit (message :: log.entries), log.limit⟩

/-- The newest message. -/
def latest (log : Log) : Option String := log.entries.head?

/-- How many messages there are. -/
def length (log : Log) : Nat := log.entries.length

/-- Are there no messages? -/
def isEmpty (log : Log) : Bool := log.entries.isEmpty

/-- All messages gone; the limit stays. -/
def clear (log : Log) : Log := empty log.limit

/-- The number of messages, the newest one in quotes, and the limit. -/
def describe (log : Log) : String :=
  let latest :=
    match log.latest with
    | none => "None"
    | some m => "Some(" ++ String.ofList (Text.quoted m.toList) ++ ")"
  "InstructionHistory \x7b len: " ++ toString log.length ++ ", latest: " ++ latest
    ++ ", max_size: " ++ toString log.limit ++ " \x7d"

@[simp] theorem limit_record (log : Log) (m : String) : (log.record m).limit = log.limit := rfl

@[simp] theorem limit_clear (log : Log) : log.clear.limit = log.limit := rfl

/-- A log never holds more messages than its limit, once one has been recorded. -/
theorem length_record_le (log : Log) (m : String) (h : 0 < log.limit) :
    (log.record m).length ≤ log.limit := by
  have hk : (keep log.limit (m :: log.entries)).length ≤ log.limit := by
    rw [keep, if_pos h]
    exact List.length_take_le ..
  exact hk

end Log

end GridTalk
