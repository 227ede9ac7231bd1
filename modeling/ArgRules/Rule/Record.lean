import ArgRules.Rule.Reading
import ArgRules.Value.Items

/-!
# Reading rules

A rule is read from a map: each declared field from the entry with its name, and what is not among
the declared fields is an issue. All issues are collected, those of the declared fields in the order
of the record first, then those of the other entries in the order of the map.

An entry of a rule map is a rule if it is one already, or if it is a map with a supported kind that
can be read; otherwise the reasons why it cannot be used are given.

## The canonical-form contract

`Rule.canonical` writes the fields that were given to a rule, with the values they have. Reading it
gives the same rule again: what was written leniently is not interpreted twice.

## Main definitions

* `Rule.read` — a rule of a given kind from the entries of a map
* `Rule.ofEntry` — the rule that an entry of a rule map is, or the reasons why it is none
* `Rule.canonical` — the map of a rule
-/

namespace ArgRules

/-! ### Places -/

/-- Whether a whole number is shown as such in a place. -/
def Locator.isIndex (n : Int) : Bool := -(Nat.pow 2 63 : Int) ≤ n && n < Nat.pow 2 63

/-- The step that leads to the entry with a given key. -/
def Locator.ofKey (key : Value) : Locator :=
  let described :=
    match key.shown with
    | .ok text => Locator.name text
    | .error _ => .name ("<unprintable " ++ key.typeName ++ " object>")
  match key with
  | .text s => .name s
  | .mode m => .name m.name
  | .bool b => .index (if b then 1 else 0)
  | .number ⟨.int n, _⟩ => if isIndex n then .index n else described
  | _ => described

namespace Rule

/-! ### Collecting issues -/

/-- A step of reading a record: issues are collected, a fault ends it. -/
abbrev Reader := StateT (List Issue) (Except Fault)

/-- Notes an issue. -/
def report (location : List Locator) (problem : Problem) : Reader Unit :=
  modify (· ++ [⟨location, problem⟩])

/-- The entry of a field. -/
def fieldValue? (entries : Entries) (field : Field) : Option Value :=
  entries.get? (.text field.name)

/-- Reads a field if it is there. Where it is at fault, the issue is noted and the default stands
in. -/
def readField {α : Type} (entries : Entries) (field : Field) (default : α)
    (read : Value → Except Fault (Except (List Issue) α)) : Reader α := do
  match fieldValue? entries field with
  | none => return default
  | some value =>
    match ← read value with
    | .ok result => return result
    | .error issues =>
      modify (· ++ issues)
      return default

/-- The issue of a field as a whole. -/
def fieldIssue (field : Field) (problem : Problem) : Issue := ⟨[.name field.name], problem⟩

/-- Reads a truth value. -/
def readFlag (entries : Entries) (field : Field) : Reader Bool :=
  readField entries field false fun value =>
    .ok ((Reading.flag value).mapError fun problem => [fieldIssue field problem])

/-- Reads a whole number, as `read` does it, or null. -/
def readWhole {α : Type} (read : Value → Except Problem α) (entries : Entries) (field : Field) :
    Reader (Option α) :=
  readField entries field none fun
    | .null => .ok (.ok none)
    | value => .ok <|
      match read value with
      | .ok n => .ok (some n)
      | .error problem => .error [fieldIssue field problem]

/-- Reads a bound on a length or null. -/
def readLength : Entries → Field → Reader (Option Int) := readWhole Reading.whole

/-- Reads a bound of an integer rule or null. -/
def readBound : Entries → Field → Reader (Option Bound) := readWhole Reading.bound

/-- Reads a bound of a number rule or null. -/
def readLimit (entries : Entries) (field : Field) : Reader (Option Limit) :=
  readField entries field none fun
    | .null => .ok (.ok none)
    | value => .ok <|
      match Reading.limit value with
      | .ok bound => .ok (some bound)
      | .error problems =>
        .error [⟨[.name field.name, .name "int"], problems.asWhole⟩,
          ⟨[.name field.name, .name "float"], problems.asDouble⟩]

/-- Reads a pattern or null. -/
def readPattern (entries : Entries) (field : Field) : Reader (Option Pattern) :=
  readField entries field none fun
    | .null => .ok (.ok none)
    | value => do
      match ← Reading.pattern value with
      | .ok p => return .ok (some p)
      | .error problem => return .error [fieldIssue field problem]

/-- Insists that the kind, if it is there, is the kind of the record. -/
def readKind (entries : Entries) (kind : Kind) : Reader Unit :=
  readField entries .kind () fun
    | .text s =>
      .ok (if s = kind.name then .ok () else .error [fieldIssue .kind (.fixedValue kind.name)])
    | _ => .ok (.error [fieldIssue .kind (.fixedValue kind.name)])

/-! ### Records -/

/-- Reads the constraints of a kind. -/
def readConstraint (entries : Entries) : Kind → Reader Constraint
  | .any => return .any
  | .boolean => return .boolean
  | .function => return .function
  | .svgElement => return .svgElement
  | .array => do
    let allowEmpty ← readFlag entries .allowEmpty
    let low ← readLength entries .minLength
    let high ← readLength entries .maxLength
    return .array allowEmpty low high
  | .map => do return .map (← readFlag entries .allowEmpty)
  | .integer => do
    let low ← readBound entries .minInt
    let high ← readBound entries .maxInt
    let autobound ← readFlag entries .autobound
    return .integer low high autobound
  | .number => do
    let low ← readLimit entries .minNum
    let high ← readLimit entries .maxNum
    let autobound ← readFlag entries .autobound
    return .number low high autobound
  | .string => do
    let allowEmpty ← readFlag entries .allowEmpty
    let filter ← readPattern entries .filterPattern
    let low ← readLength entries .minLength
    let high ← readLength entries .maxLength
    return .string allowEmpty filter low high

/-- The fields of a record; the bare one belongs to no kind. -/
def declaredFields : Option Kind → List Field
  | some kind => Field.shared ++ .kind :: kind.ownFields
  | none => Field.shared

/-- The declared fields that a map has entries for. -/
def givenFields (kind? : Option Kind) (entries : Entries) : List Field :=
  (declaredFields kind?).filter fun field => (fieldValue? entries field).isSome

/-- The problem with an entry that is no declared field; the entry of a declared field has none. A
name in bytes counts as the text that it encodes. -/
def strayProblem? (given : List Field) (key : Value) : Option Problem :=
  match Reading.written? key with
  | some (some name) =>
    if given.any fun field => field.name = String.ofList name then none else some .extraField
  | _ => some .fieldName

/-- Notes the entries that are no declared fields. -/
def reportStrays (given : List Field) : Entries → Reader Unit
  | [] => return ()
  | (key, _) :: rest => do
    match strayProblem? given key with
    | some problem => report [Locator.ofKey key] problem
    | none => pure ()
    reportStrays given rest

/-- Reads a record, noting all its issues. -/
def readRecord (kind? : Option Kind) (entries : Entries) : Reader Rule := do
  let isOptional ← readFlag entries .isOptional
  let allowFalsey ← readFlag entries .allowFalsey
  let constraint ← match kind? with
    | some kind => do
      readKind entries kind
      readConstraint entries kind
    | none => pure .bare
  let given := givenFields kind? entries
  reportStrays given entries
  let default := (fieldValue? entries .default).getD .null
  return ⟨⟨isOptional, allowFalsey, constraint, given⟩, default⟩

/-- Reads a rule of a kind, or the bare rule, from the entries of a map. -/
def read (kind? : Option Kind) (entries : Entries) : Except Fault (Except (List Issue) Rule) := do
  let (rule, issues) ← (readRecord kind? entries).run []
  return if issues.isEmpty then .ok rule else .error issues

/-- The name of the record of a kind, or of the bare one. -/
def recordName : Option Kind → String
  | some kind => kind.recordName
  | none => Constraint.bare.recordName

/-- Builds a rule of a kind, or the bare rule, outright; what cannot be built is a fault. -/
def build (kind? : Option Kind) (entries : Entries) : Except Fault Rule := do
  match ← read kind? entries with
  | .ok rule => return rule
  | .error issues => .error (.unusable (recordName kind?) issues)

/-! ### Entries of rule maps -/

/-- An issue in a reason: the place, or the kind if there is no place, and the problem. -/
def issueText (kind : Kind) (issue : Issue) : String :=
  let place := String.intercalate "." (issue.location.map (·.text))
  (if place = "" then kind.name else place) ++ ": " ++ issue.problem.message

/-- The reason against a map that cannot be read. -/
def malformedReason (kind : Kind) (issues : List Issue) : String :=
  "rule is malformed: " ++ String.intercalate "; " (issues.map (issueText kind))

/-- The reason against an entry without a kind. -/
def kindMissing : String := "Required rule *kind* not provided"

/-- The reason against a kind that is not supported. -/
def unsupportedReason (kindText : String) : String :=
  "data type " ++ kindText ++ " is not supported"

/-- Whether a value can be looked up among the kinds; a set can, though it is no key. -/
def checkKindKey : Value → Except Fault Unit
  | .set _ => .ok ()
  | value => value.checkKey

/-- Reads a map whose kind is a value that counts as true. -/
def ofMap (entries : Entries) (kind : Value) : Except Fault (Except String Rule) := do
  checkKindKey kind
  let kind? := match kind with
    | .text s => Kind.ofName? s
    | _ => none
  match kind? with
  | none => return .error (unsupportedReason (← kind.display))
  | some kind =>
    match ← read (some kind) entries with
    | .ok rule => return .ok rule
    | .error issues => return .error (malformedReason kind issues)

/-- The rule that an entry of a rule map is, or the reason why it cannot be used. -/
def ofEntry (entry : Value) : Except Fault (Except String Rule) := do
  match entry with
  | .rule frame default => return .ok ⟨frame, default⟩
  | entry =>
    match entry.asMap? with
    | none => return .error kindMissing
    | some entries =>
      match entries.get? (.text Field.kind.name) with
      | none => return .error kindMissing
      | some kind => if ← kind.truth then ofMap entries kind else return .error kindMissing

/-! ### Canonical form -/

/-- The fields of a rule, in order, that were given to it. -/
def givenValues (rule : Rule) : List (Field × Value) :=
  (Value.ruleFields rule.frame rule.default).filter fun (field, _) =>
    rule.frame.given.contains field

/-- The map of a rule: the fields that were given, with the values they have. -/
def canonical (rule : Rule) : Entries :=
  rule.givenValues.map fun (field, value) => (.text field.name, value)

end Rule

end ArgRules
