import ArgRules.Mode

/-!
# Events

What an engine does is noted as a sequence of events, each with a level of severity.

## Main definitions

* `Level` — the levels
* `Event` — the events
-/

namespace ArgRules

/-- How severe an event is. -/
inductive Level
  | debug
  | info
  | error
deriving DecidableEq

namespace Level

/-- The name of a level. -/
def name : Level → String
  | debug => "debug"
  | info => "info"
  | error => "error"

/-- The rank of a level among all levels that can be asked for. -/
def rank : Level → Nat
  | debug => 10
  | info => 20
  | error => 40

end Level

/-- What an engine notes. -/
inductive Event
  /-- The mode of the engine has become another one. -/
  | modeChanged (previous mode : Mode)
  /-- An input was no map; both are told by the names of their types. -/
  | badInput (ruleMapType argMapType : String)
  /-- An evaluation has ended, with so many violations and changes. -/
  | evaluationComplete (mode : Mode) (passed : Bool) (violations changes : Nat)
  /-- An evaluation with violations has been turned into an error of the given name. -/
  | validationFailed (error : String) (violations : Nat) (messages : List String)
deriving DecidableEq

namespace Event

/-- The name of an event. -/
def name : Event → String
  | modeChanged .. => "mode_changed"
  | badInput .. => "bad_input"
  | evaluationComplete .. => "evaluation_complete"
  | validationFailed .. => "validation_failed"

/-- The level of an event. -/
def level : Event → Level
  | modeChanged .. => .info
  | badInput .. => .error
  | evaluationComplete .. => .debug
  | validationFailed .. => .error

end Event

end ArgRules
