import ArgRules.Rule.Record
import ArgRules.Tag

/-!
# Violations

A violation tells which argument is at fault and why: the name of the argument, the kind that its
rule declares, a preview of the value, the reasons, and a message made from all of these.

## The header contract

The kind and the mark of an optional argument are taken from the rule, or, if the entry of the rule
map is no rule, from the entry as it is. A kind that counts as false is none, and so the message
says that it was not provided.

## Names

A violation is filed under a text. The name of an argument may be another value, such as a string of
bytes, which stands for the text that it encodes; a value that stands for no text cannot be filed.

## Main definitions

* `Violation` — what is wrong with an argument
* `Violation.describe` — the violation of an argument and its rule
* `Violation.unexpected` — the violation of an argument without a rule
-/

namespace ArgRules

/-! ### Violations -/

/-- What is wrong with an argument. -/
structure Violation where
  argName : String
  kind : Option String
  isOptional : Bool
  valuePreview : String
  reasons : List String
  message : String
deriving DecidableEq

namespace Violation

/-- What a violation tells of the rule. -/
structure Header where
  kind : Option String
  isOptional : Bool
deriving DecidableEq

/-- The header of a map that is no rule. -/
def Header.ofMap (entries : Entries) : Except Fault Header := do
  let kind := (entries.get? (.text Field.kind.name)).getD .null
  let kindText ← if ← kind.truth then some <$> kind.display else pure none
  let isOptional := (entries.get? (.text Field.isOptional.name)).getD .null
  return ⟨kindText, ← isOptional.truth⟩

/-- The header of a rule. The bare rule has no kind to tell. -/
def Header.ofRule (frame : Rule.Frame) : Except Fault Header :=
  match frame.constraint.kind? with
  | some kind => .ok ⟨some kind.name, frame.isOptional⟩
  | none => .error (.lacks frame.constraint.recordName Field.kind.name)

/-- The header of an entry of a rule map. -/
def Header.ofEntry (entry : Value) : Except Fault Header :=
  match entry, entry.asMap? with
  | .rule frame _, _ => ofRule frame
  | _, some entries => ofMap entries
  | _, none => .ok ⟨none, false⟩

/-- What separates the reasons in a message. -/
def separator : String := "\r\n  * "

/-- The kind as a message tells it. -/
def Header.kindText (header : Header) : String :=
  match header.kind with
  | some "" | none => "not provided"
  | some kind => kind

/-- The message of a violation. -/
def messageText (header : Header) (name preview : String) (reasons : List String) : String :=
  (if header.isOptional then "Optional " else "") ++ "Argument |" ++ name ++ "| data type |" ++
    header.kindText ++ "| " ++ preview ++ " " ++ String.intercalate separator reasons

/-- The name under which a violation is filed; a name that cannot be filed is a fault. -/
def filedName (name : Value) : Except Fault String :=
  match Reading.text name with
  | .ok s => .ok s
  | .error problem => .error (.unusable "Violation" [⟨[.name "arg_name"], problem⟩])

/-- The violation of an argument with the given entry of the rule map and value. The reasons are
asked for when they are needed. -/
def describe (name entry value : Value) (reasons : Except Fault (List String)) :
    Except Fault Violation := do
  let header ← Header.ofEntry entry
  let preview ← value.preview
  let nameText ← name.display
  let reasons ← reasons
  let filed ← filedName name
  return ⟨filed, header.kind, header.isOptional, preview, reasons,
    messageText header nameText preview reasons⟩

/-- The violation of an argument that no rule speaks of. -/
def unexpected (name : Value) : Except Fault Violation := do
  let nameText ← name.display
  let filed ← filedName name
  return ⟨filed, none, false, "", ["unexpected argument"],
    "Unexpected argument |" ++ nameText ++ "| provided."⟩

/-! ### Reasons given as a value -/

/-- The reasons among the items of a value, which are counted from the given number. -/
def reasonTexts (index : Nat) : List Value → Except Fault (List String)
  | [] => return []
  | item :: rest =>
    match item.asText? with
    | some s => return s :: (← reasonTexts (index + 1) rest)
    | none => .error (.reasonNotText index item.qualifiedName)

/-- The reasons that a value lists. -/
def reasonsOf (value : Value) : Except Fault (List String) :=
  match value.items with
  | .ok items => reasonTexts 0 items
  | .error (.noItems _) => .error .reasonsNotListed
  | .error fault => .error fault

/-- Adds the violation of an argument to a report, if there are reasons. -/
def report (sofar : List Violation) (name entry value reasons : Value) :
    Except Fault (List Violation) := do
  if ← reasons.truth then return sofar ++ [← describe name entry value (reasonsOf reasons)]
  return sofar

end Violation

end ArgRules
