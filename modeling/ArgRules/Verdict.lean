import ArgRules.Engine
import ArgRules.Violation

/-!
# Verdicts

Each entry of a rule map is judged by itself, with the value of its argument: the verdict says what
the argument is changed to, if it is, and what is wrong with it, if anything. No verdict depends on
another entry.

## The order of the questions

First the entry has to be a rule. An argument that is absent gets its default; without a default it
is a violation unless the argument is optional. Then its name is compared with the convention, if
names are checked. A value that the rule exempts is asked nothing more. A value that was given for a
required argument is examined by the check of its kind, unless it counts as absent; a default is
never examined.

## Main definitions

* `Change` — what an argument is changed to
* `Verdict` — the verdict on an entry
* `Engine.judge` — the verdict of an engine on an entry
-/

namespace ArgRules

/-- Why an argument is changed. -/
inductive Action
  /-- It was absent and gets its default. -/
  | default
  /-- It was out of bounds and is moved to a bound. -/
  | clamp
deriving DecidableEq

/-- The name of an action. -/
def Action.name : Action → String
  | default => "default"
  | clamp => "clamp"

/-- What an argument is changed to. -/
structure Change where
  action : Action
  before : Value
  after : Value

/-- The verdict on an entry of a rule map. -/
structure Verdict where
  change : Option Change
  violation : Option Violation

/-- Whether a value is the mark of an argument that is not there. -/
def Value.isAbsent : Value → Bool
  | undefined => true
  | _ => false

namespace Rule

/-- The kind of a rule. The bare rule has none, and asking for it is a fault. -/
def kind (rule : Rule) : Except Fault Kind :=
  match rule.frame.constraint.kind? with
  | some kind => .ok kind
  | none => .error (.lacks rule.frame.constraint.recordName Field.kind.name)

/-- Whether a value is exempt from all checks: if the rule says so, the falsey values other than
zero are. -/
def exempts (rule : Rule) (value : Value) : Except Fault Bool := do
  if !rule.frame.allowFalsey then return false
  if !(← value.isFalsey) then return false
  return !(← value.isZero)

/-- Whether the value of a required argument of a kind is examined by the check of the kind. Falsey
values other than zero are not, except the empty text where a text is expected. -/
def isExamined (kind : Kind) (value : Value) : Except Fault Bool := do
  if kind = .string ∧ value.asText?.isSome then return true
  if !(← value.isFalsey) then return true
  value.isZero

/-- Whether a rule has the value of its argument examined. -/
def examines (rule : Rule) (value : Value) : Except Fault Bool := do
  if value.isAbsent || rule.frame.isOptional then return false
  isExamined (← rule.kind) value

/-- The change that puts the default in the place of an absent argument. -/
def defaultChange (rule : Rule) : Change := ⟨.default, .undefined, rule.default⟩

end Rule

namespace Verdict

/-- The reason against a required argument that is absent. -/
def missingReason : String := "is required but not provided."

/-- The violation for reasons, if there are any. -/
def violationFor (name : Value) (rule : Rule) (value : Value) (reasons : List String) :
    Except Fault (Option Violation) := do
  if reasons.isEmpty then return none
  return some (← Violation.describe name rule.toValue value (.ok reasons))

end Verdict

namespace Engine

open Verdict

/-- The reasons against the name of an argument, if names are checked. -/
def nameReasons (engine : Engine) (checkNames : Bool) (name : Value) (rule : Rule) :
    Except Fault (List String) := do
  if !checkNames then return []
  engine.conventions.reasons (← rule.kind) name

/-- What the check of a kind says about a value. A kind that the engine does not support is a reason
against it. -/
def examineKind (engine : Engine) (kind : Kind) (rule : Rule) (value : Value) :
    Except Fault Finding := do
  if engine.kinds.contains kind then kind.check rule.frame.constraint value (← value.tag)
  else return .unchanged [Rule.unsupportedReason kind.name]

/-- What is found about a value, if the rule has it examined. -/
def examine (engine : Engine) (rule : Rule) (value : Value) : Except Fault Finding := do
  if ← rule.examines value then engine.examineKind (← rule.kind) rule value
  else return .unchanged []

/-- The verdict on an absent argument with a default. -/
def judgeDefault (engine : Engine) (checkNames : Bool) (name : Value) (rule : Rule) :
    Except Fault Verdict := do
  let reasons ← engine.nameReasons checkNames name rule
  if ← rule.exempts rule.default then return ⟨some rule.defaultChange, none⟩
  return ⟨some rule.defaultChange, ← violationFor name rule rule.default reasons⟩

/-- The verdict on an argument that is there, or that is optional and absent. -/
def judgeValue (engine : Engine) (checkNames : Bool) (name : Value) (rule : Rule) (value : Value) :
    Except Fault Verdict := do
  let reasons ← engine.nameReasons checkNames name rule
  if ← rule.exempts value then return ⟨none, none⟩
  let finding ← engine.examine rule value
  let change := finding.replacement.map fun after => Change.mk .clamp value after
  return ⟨change, ← violationFor name rule value (reasons ++ finding.reasons)⟩

/-- The verdict on a rule with the value of its argument. -/
def judgeRule (engine : Engine) (checkNames : Bool) (name : Value) (rule : Rule) (value : Value) :
    Except Fault Verdict := do
  if value.isAbsent && rule.frame.hasDefault then engine.judgeDefault checkNames name rule
  else if value.isAbsent && !rule.frame.isOptional then
    return ⟨none, ← violationFor name rule value [missingReason]⟩
  else engine.judgeValue checkNames name rule value

/-- The verdict on an entry of a rule map with the value of its argument. -/
def judge (engine : Engine) (checkNames : Bool) (name entry value : Value) :
    Except Fault Verdict := do
  match ← Rule.ofEntry entry with
  | .ok rule => engine.judgeRule checkNames name rule value
  | .error reason => return ⟨none, some (← Violation.describe name entry value (.ok [reason]))⟩

end Engine

end ArgRules
