/-!
# Modes

A mode says how strictly an engine works. In off mode it does nothing; in normal mode it follows the
directives of each rule map; in strict mode it checks all names and admits no key without a rule.

## Main definitions

* `Mode`, `Mode.name` — the modes and their names
* `Mode.ofName` — the mode that a name asks for
-/

namespace ArgRules

/-- How strictly an engine works. -/
inductive Mode
  | off
  | normal
  | strict
deriving DecidableEq

namespace Mode

/-- The name of a mode. -/
def name : Mode → String
  | off => "off"
  | normal => "normal"
  | strict => "strict"

/-- The name of a mode as a constant. -/
def constantName : Mode → String
  | off => "Mode.OFF"
  | normal => "Mode.NORMAL"
  | strict => "Mode.STRICT"

/-- The mode that a name asks for. Off mode has a second name, and every name that is not one of a
mode asks for normal mode. -/
def ofName (name : String) : Mode :=
  if name = "off" ∨ name = "disabled" then off
  else if name = "strict" then strict
  else normal

@[simp] theorem ofName_name (mode : Mode) : ofName mode.name = mode := by
  cases mode <;> decide

end Mode

end ArgRules
