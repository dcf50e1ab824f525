/-!
# Configuration

What the environment says about how the server runs.

* `Config.default`: what holds where nothing is said.
* `readNumber`: a number between 0 and a bound, with the cause of a failure.
* `Config.ofEnvironment`: the configuration, or what is wrong with the first unusable variable.
-/

namespace GridTalk

/-- Why a text is no number for a setting. -/
inductive NumberFault
  | empty
  | invalidDigit
  | tooLarge
  deriving DecidableEq, Repr

/-- The sentence that tells the cause. -/
def NumberFault.message : NumberFault → String
  | empty => "cannot parse integer from empty string"
  | invalidDigit => "invalid digit found in string"
  | tooLarge => "number too large to fit in target type"

/-- The value of digits that follow a number, as far as the bound goes.  The first character that is
no digit or takes the number over the bound decides. -/
def readDigits (bound : Nat) : (n : Nat) → List Char → Except NumberFault Nat
  | n, [] => .ok n
  | n, c :: r =>
    if !c.isDigit then .error .invalidDigit
    else if 10 * n + (c.toNat - '0'.toNat) > bound then .error .tooLarge
    else readDigits bound (10 * n + (c.toNat - '0'.toNat)) r

/-- The number that a text spells; a plus sign may stand in front of its digits. -/
def readNumber (bound : Nat) (text : String) : Except NumberFault Nat :=
  match text.toList with
  | [] => .error .empty
  | ['+'] => .error .invalidDigit
  | '+' :: r => readDigits bound 0 r
  | s => readDigits bound 0 s

/-- The settings of the server. -/
structure Config where
  /-- The address it listens on. -/
  host : String
  /-- The port it listens on. -/
  port : Nat
  /-- How many messages a session's log keeps; 0 keeps all. -/
  historyLimit : Nat
  /-- How many sessions there can be at a time. -/
  maxSessions : Nat
  deriving DecidableEq, Repr

namespace Config

/-- The settings where the environment says nothing. -/
def default : Config := ⟨"0.0.0.0", 3000, 100, 1024⟩

/-- The greatest port. -/
def maxPort : Nat := UInt16.size - 1

/-- The greatest count. -/
def maxCount : Nat := UInt64.size - 1

/-- A number from a variable, if it is set. -/
def numberOr (fallback bound : Nat) : Option String → Except NumberFault Nat
  | none => .ok fallback
  | some text => readNumber bound text

/-- The settings that the variables of an environment make. -/
def ofEnvironment (setting? : String → Option String) : Except NumberFault Config := do
  let host := (setting? "HOST").getD default.host
  let port ← numberOr default.port maxPort (setting? "PORT")
  let historyLimit ← numberOr default.historyLimit maxCount (setting? "HISTORY_LIMIT")
  let maxSessions ← numberOr default.maxSessions maxCount (setting? "MAX_SESSIONS")
  return ⟨host, port, historyLimit, maxSessions⟩

/-- Host and port, as a socket is bound to them. -/
def bindAddress (c : Config) : String := c.host ++ ":" ++ toString c.port

end Config

end GridTalk
