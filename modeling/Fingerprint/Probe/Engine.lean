import Fingerprint.Config

/-!
What a probe needs of an engine that evaluates scripts.

An engine passes its state from one evaluation to the next. Whatever way an evaluation ends, the
effects that it had up to then are in the state that it leaves.
-/

namespace Fingerprint

/-- How an evaluation ends. -/
inductive Completion (Value : Type) where
  | value (value : Value)
  /-- A script failed; `text` reports the error. -/
  | thrown (text : String)
  /-- The deadline passed. -/
  | interrupted (text : String)
deriving Repr, Inhabited

/-- What the value of an expression can be used for. -/
inductive ValueKind where
  /-- Undefined or null. -/
  | absent
  /-- A text, a number or a truth value. -/
  | printable
  | other
deriving DecidableEq, Repr, Inhabited

/-- An engine with the operations that a probe uses. -/
structure ScriptEngine where
  State : Type
  Value : Type
  /-- The reading of the clock at the start of a probe. -/
  now : Duration
  /-- A fresh sandbox, if one can be made under the limits. -/
  create : ScriptLimits → Option State
  /-- Gives the scripts an empty `window`. -/
  seed : State → Except String State
  /-- Evaluates a script; an expression is a script whose value counts. -/
  evaluate : State → String → Completion Value × State
  /-- Whether the deadline has passed. -/
  expired : State → Bool
  kind : Value → ValueKind
  /-- The text of a printable value, as the scripts' own conversion yields it. -/
  toText : State → Value → Option String

namespace Duration

/-- The last second that the clock can show. -/
def lastSecond : Nat := (1 <<< 63) - 1

/-- Whether the clock can show the instant this span after a reading. -/
def reachableFrom (duration now : Duration) : Bool :=
  now.seconds + duration.seconds + (now.nanoseconds + duration.nanoseconds) / 1000000000 ≤
    lastSecond

end Duration

end Fingerprint
