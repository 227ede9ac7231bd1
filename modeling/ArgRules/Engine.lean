import ArgRules.Event
import ArgRules.Naming

/-!
# Engines

An engine checks argument maps against rule maps. It has a mode, which can be changed, and naming
conventions and a choice of supported kinds, which cannot.

## The mode contract

Any value can be given as a mode. A text is taken as the name of a mode, a member of the modes as
itself, and everything else as the normal mode. The event of a change is noted only if the mode
becomes another one.

## Main definitions

* `Engine` — the engines
* `Engine.build` — the engine with a given mode, conventions and kinds
* `Engine.inMode` — an engine in another mode
* `Engine.setMode` — the change of the mode
* `Mode.ofValue` — the mode that a value asks for
-/

namespace ArgRules

/-- The mode that a value asks for. -/
def Mode.ofValue (value : Value) : Mode :=
  match value.asText? with
  | some name => ofName name
  | none => normal

/-- An engine. -/
structure Engine where
  mode : Mode
  conventions : Conventions
  kinds : List Kind

namespace Engine

/-- The engine in normal mode, with the default conventions and all kinds. -/
def default : Engine := ⟨.normal, .default, Kind.all⟩

/-- An engine in another mode. -/
def inMode (engine : Engine) (mode : Mode) : Engine := { engine with mode := mode }

@[simp] theorem inMode_mode (engine : Engine) (mode : Mode) : (engine.inMode mode).mode = mode :=
  rfl

@[simp] theorem inMode_inMode (engine : Engine) (first second : Mode) :
    (engine.inMode first).inMode second = engine.inMode second := rfl

@[simp] theorem inMode_self (engine : Engine) : engine.inMode engine.mode = engine := rfl

/-- The engine with the given mode, if any, naming conventions and kinds. Without any kinds it has
all of them. -/
def build (mode : Option Value) (conventions : Value) (kinds : List Kind) :
    Except Fault Engine := do
  let mode := match mode with
    | some value => Mode.ofValue value
    | none => .normal
  return ⟨mode, ← Conventions.ofValue conventions, if kinds.isEmpty then Kind.all else kinds⟩

/-- The event of a change of the mode, if there is one. -/
def modeEvents (previous mode : Mode) : List Event :=
  if previous = mode then [] else [.modeChanged previous mode]

/-- Sets the mode to what a value asks for. -/
def setMode (engine : Engine) (value : Value) : Engine × List Event :=
  let mode := Mode.ofValue value
  ({ engine with mode := mode }, modeEvents engine.mode mode)

@[simp] theorem setMode_mode (engine : Engine) (value : Value) :
    (engine.setMode value).1.mode = Mode.ofValue value := rfl

@[simp] theorem setMode_conventions (engine : Engine) (value : Value) :
    (engine.setMode value).1.conventions = engine.conventions := rfl

@[simp] theorem setMode_kinds (engine : Engine) (value : Value) :
    (engine.setMode value).1.kinds = engine.kinds := rfl

end Engine

@[simp] theorem Mode.ofValue_mode (mode : Mode) : Mode.ofValue (.mode mode) = mode := by
  simp [Mode.ofValue, Value.asText?]

end ArgRules
