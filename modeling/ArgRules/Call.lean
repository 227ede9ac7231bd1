import ArgRules.Evaluation
import ArgRules.Failure

/-!
# Calls

An engine can be called in three ways. `evaluate` gives the result of an evaluation, whether or not
it has passed. `normalize` gives the arguments with all changes, and `validate` writes the changes
into the caller's map; for these two, violations are a failure.

## The contract of a call

A call has an answer and events. The answer is a result, or it is a failure of the engine's own or a
fault. Only `validate` can change the caller's map, and it begins to write when everything has been
checked. An engine that is switched off does nothing and notes nothing.

## Main definitions

* `Stop` — why a call gives no result
* `Outcome` — the answer and the events of a call
* `Engine.evaluate`, `Engine.normalize`, `Engine.validate` — the calls
* `Engine.wrap`, `Engine.callWrapped` — the call of a function with checked arguments
-/

namespace ArgRules

/-! ### Outcomes -/

/-- Why a call gives no result. -/
inductive Stop
  | fault (fault : Fault)
  | failure (failure : Failure)

/-- The answer and the events of a call. -/
structure Outcome (α : Type) where
  answer : Except Stop α
  events : List Event

namespace Outcome

variable {α β : Type}

/-- The outcome of doing nothing. -/
def silent (a : α) : Outcome α := ⟨.ok a, []⟩

/-- The outcome of a computation without events. -/
def ofExcept (answer : Except Fault α) : Outcome α := ⟨answer.mapError .fault, []⟩

/-- Goes on with a result. -/
def andThen (outcome : Outcome α) (next : α → Outcome β) : Outcome β :=
  match outcome.answer with
  | .ok a => ⟨(next a).answer, outcome.events ++ (next a).events⟩
  | .error stop => ⟨.error stop, outcome.events⟩

/-- Changes a result. -/
def map (f : α → β) (outcome : Outcome α) : Outcome β := ⟨outcome.answer.map f, outcome.events⟩

end Outcome

namespace Engine

/-! ### The calls -/

/-- The event of a finished evaluation. -/
def completion (engine : Engine) (evaluation : Evaluation) : Event :=
  .evaluationComplete engine.mode evaluation.violations.isEmpty evaluation.violations.length
    evaluation.changes.length

/-- Evaluates two maps and files the result. -/
def evaluateFiled (engine : Engine) (rules args : Entries) : Outcome CheckResult :=
  match engine.evaluateMaps rules args with
  | .error fault => ⟨.error (.fault fault), []⟩
  | .ok evaluation =>
    match CheckResult.ofEvaluation evaluation with
    | .error fault => ⟨.error (.fault fault), []⟩
    | .ok result => ⟨.ok result, [engine.completion evaluation]⟩

/-- The refusal of inputs that are not two maps. -/
def refuse {α : Type} (ruleMap argMap : Value) : Outcome α where
  answer := .error (.failure (.badInput ruleMap argMap))
  events := [.badInput ruleMap.typeName argMap.typeName]

/-- Evaluates a rule map and an argument map. -/
def evaluate (engine : Engine) (ruleMap argMap : Value) : Outcome CheckResult :=
  if engine.mode = .off then .ofExcept (CheckResult.bypass argMap)
  else
    match ruleMap.asMap?, argMap.asMap? with
    | some rules, some args => engine.evaluateFiled rules args
    | _, _ => refuse ruleMap argMap

/-- Turns a result with violations into a failure. -/
def insist (ruleMap : Value) (result : CheckResult) : Outcome CheckResult :=
  if result.passed then .silent result
  else
    let failure := Failure.validationFailure ruleMap result.argMap result.violations
    ⟨.error (.failure failure),
      [.validationFailed failure.kind.errorName result.violations.length result.messages]⟩

/-- Evaluates a rule map and an argument map and insists that there are no violations. -/
def check (engine : Engine) (ruleMap argMap : Value) : Outcome CheckResult :=
  (engine.evaluate ruleMap argMap).andThen (insist ruleMap)

/-- The arguments with all changes. An engine that is switched off gives back what it was given. -/
def normalize (engine : Engine) (ruleMap argMap : Value) : Outcome Value :=
  if engine.mode = .off then .silent argMap
  else (engine.check ruleMap argMap).map (·.argMap)

/-- Whether `normalize` gives back the very map that it was given, and not a new one. -/
def givesBack (engine : Engine) : Bool := engine.mode = .off

/-- Writes a value into the caller's map. Only a map that is not read-only can be written to. -/
def assign (argMap : Value) (name : String) (value : Value) : Except Fault Value :=
  match argMap with
  | .map entries => .ok (.map (Table.put entries (.text name) value))
  | argMap => .error (.readOnly argMap.typeName)

/-- Writes changes into the caller's map, one after the other, and stops at a fault. -/
def writeBack : Value → Table String Change → Value × Except Fault Unit
  | argMap, [] => (argMap, .ok ())
  | argMap, (name, change) :: rest =>
    match assign argMap name change.after with
    | .ok written => writeBack written rest
    | .error fault => (argMap, .error fault)

/-- Writes all changes into the caller's map, which is given as it is after the call. -/
def validate (engine : Engine) (ruleMap argMap : Value) : Value × Outcome Unit :=
  if engine.mode = .off then (argMap, .silent ())
  else
    let checked := engine.check ruleMap argMap
    match checked.answer with
    | .error stop => (argMap, ⟨.error stop, checked.events⟩)
    | .ok result =>
      let (written, answer) := writeBack argMap result.changes
      (written, ⟨answer.mapError .fault, checked.events⟩)

/-! ### Functions with checked arguments -/

/-- Calls a function with checked arguments: those given by position as they are, those given by
name with all changes. -/
def wrap {α : Type} (engine : Engine) (ruleMap : Value)
    (function : List Value → Value → Outcome α) (positional : List Value) (named : Entries) :
    Outcome α :=
  (engine.normalize ruleMap (.map named)).andThen (function positional)

/-- The arguments that a function with checked arguments is called with. -/
def callWrapped (engine : Engine) (ruleMap : Value) (positional : List Value) (named : Entries) :
    Outcome (List Value × Value) :=
  engine.wrap ruleMap (fun positional args => .silent (positional, args)) positional named

end Engine

end ArgRules
