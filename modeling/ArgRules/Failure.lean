import ArgRules.Violation

/-!
# Failures

A failure is the answer of a call that has done its work and found the arguments wanting, or that
was not given two maps to work on. It has a kind, a description, the data that the caller may want
to look at, and the violations.

## The message-list contract

The messages of a failure are those in its data, under `msg_list`, and its text lists them line by
line. The data of a failure made by an engine are `Failure.badInput` and
`Failure.validationFailure`; a failure can also be built from data of any kind, and then asking for
its messages may be a fault.

## Main definitions

* `Failure` — the failures
* `Failure.messages`, `Failure.text` — the messages and the text
* `Failure.badInput`, `Failure.validationFailure` — the failures that engines make
-/

namespace ArgRules

/-- The kinds of failures. -/
inductive FailureKind
  | badInput
  | validationFailure
  | other
deriving DecidableEq

namespace FailureKind

/-- The kind with a given name; every other name is that of the general kind. -/
def ofName : String → FailureKind
  | "BadInput" => badInput
  | "ValidationFailure" => validationFailure
  | _ => other

/-- The name of a kind. -/
def name : FailureKind → String
  | badInput => "BadInput"
  | validationFailure => "ValidationFailure"
  | other => "Error"

/-- The stable name of the failures of a kind. -/
def errorName (kind : FailureKind) : String := "argcheck:" ++ kind.name

end FailureKind

/-- A failure. -/
structure Failure where
  kind : FailureKind
  description : String
  data : Value
  violations : List Violation

namespace Failure

/-- The name under which messages are kept in the data. -/
def messagesKey : String := "msg_list"

/-- The name under which the rule map is kept in the data. -/
def ruleMapKey : String := "rule_map"

/-- The name under which the argument map is kept in the data. -/
def argMapKey : String := "arg_map"

/-- A failure of any kind. Data that count as false are no data. -/
def build (kind : FailureKind) (description : String) (data : Value)
    (violations : List Violation) : Except Fault Failure := do
  let data := if ← data.truth then data else .map []
  return ⟨kind, description, data, violations⟩

/-- The value that the data hold in place of the messages. -/
def listedMessages (data : Value) : Except Fault Value :=
  match data.asMap?, data with
  | some entries, _ => .ok ((entries.get? (.text messagesKey)).getD (.list []))
  | none, .element .. => .ok (.list [])
  | none, .type name =>
    .error (if name = Value.mapTypeName then .misboundOperation name "get"
      else .typeLacks name "get")
  | none, data => .error (.lacks data.qualifiedName "get")

/-- The messages of a failure, which can be any values. -/
def messages (failure : Failure) : Except Fault (List Value) := do
  (← listedMessages failure.data).items

/-- The lines that list messages. -/
def messageLines : List Value → Except Fault (List String)
  | [] => return []
  | message :: rest => return ("  - " ++ (← message.display)) :: (← messageLines rest)

/-- The text of a failure. -/
def text (failure : Failure) : Except Fault String := do
  let header := failure.kind.errorName ++ ": " ++ failure.description
  return String.intercalate "\n" (header :: (← messageLines (← failure.messages)))

/-- The value that the data hold under a name. -/
def datum? (failure : Failure) (name : String) : Option Value :=
  failure.data.asMap?.bind (·.get? (.text name))

/-! ### The failures of engines -/

/-- The failure of a call that was not given two maps. Its data are what was given. -/
def badInput (ruleMap argMap : Value) : Failure where
  kind := .badInput
  description := "Input does not consist of two maps"
  data := .map [(.text ruleMapKey, ruleMap), (.text argMapKey, argMap)]
  violations := []

/-- The failure of an evaluation with violations. Its data hold the argument map with the changes
that the evaluation has made. -/
def validationFailure (ruleMap args : Value) (violations : List Violation) : Failure where
  kind := .validationFailure
  description := "Did not pass validation criteria"
  data := .map [(.text messagesKey, .list (violations.map fun v => .text v.message)),
    (.text ruleMapKey, ruleMap), (.text argMapKey, args)]
  violations := violations

/-- Whether the argument map in the data is the one that the caller gave, and not the one that the
evaluation has worked on. -/
def keepsArguments (failure : Failure) : Bool := failure.kind = .badInput

@[simp] theorem messages_badInput (ruleMap argMap : Value) :
    (badInput ruleMap argMap).messages = .ok [] := by
  simp [messages, listedMessages, badInput, Value.asMap?, Table.get?, Value.beq_text, messagesKey,
    ruleMapKey, argMapKey, bind, Except.bind]

@[simp] theorem messages_validationFailure (ruleMap args : Value) (violations : List Violation) :
    (validationFailure ruleMap args violations).messages =
      .ok (violations.map fun v => .text v.message) := by
  simp [messages, listedMessages, validationFailure, Value.asMap?, Table.get?, Value.beq_text,
    bind, Except.bind]

end Failure

end ArgRules
