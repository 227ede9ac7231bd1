import ArgRules.Numeric.Number
import ArgRules.Pattern.Basic

/-!
# Kinds and constraints

A rule declares the kind of an argument and the constraints that make sense for that kind. This
module holds all of a rule but its default, which is a value and so comes later.

There is one more rule, the bare one, which belongs to no kind. It cannot be used to check anything,
and it is here so that its use can be told.

## Main definitions

* `Kind`, `Kind.name`, `Kind.ofName?` — the kinds of arguments
* `Field`, `Field.name` — the fields of rules
* `Bound`, `Limit` — the bounds of integer rules and of number rules
* `Constraint` — a kind with its constraints
* `Rule.Frame` — a rule without its default
-/

namespace ArgRules

/-! ### Kinds -/

/-- The kind that a rule declares for an argument. -/
inductive Kind
  | any
  | array
  | boolean
  | function
  | integer
  | map
  | number
  | string
  | svgElement
deriving DecidableEq

namespace Kind

/-- All kinds. -/
def all : List Kind :=
  [any, array, boolean, function, integer, map, number, string, svgElement]

/-- The name of a kind. -/
def name : Kind → String
  | any => "any"
  | array => "array"
  | boolean => "boolean"
  | function => "function"
  | integer => "integer"
  | map => "map"
  | number => "number"
  | string => "string"
  | svgElement => "svgelement"

/-- The kind with a given name. -/
def ofName? (name : String) : Option Kind := all.find? (·.name = name)

@[simp] theorem ofName?_name (kind : Kind) : ofName? kind.name = some kind := by
  cases kind <;> decide

theorem name_of_ofName? {name : String} {kind : Kind} (h : ofName? name = some kind) :
    kind.name = name := by
  simpa using List.find?_some h

/-- The name of the record that holds a rule of a kind. -/
def recordName : Kind → String
  | any => "AnyRule"
  | array => "ArrayRule"
  | boolean => "BooleanRule"
  | function => "FunctionRule"
  | integer => "IntegerRule"
  | map => "MapRule"
  | number => "NumberRule"
  | string => "StringRule"
  | svgElement => "SvgElementRule"

end Kind

/-! ### Fields -/

/-- The fields of rules. -/
inductive Field
  | isOptional
  | default
  | allowFalsey
  | kind
  | allowEmpty
  | minLength
  | maxLength
  | minInt
  | maxInt
  | minNum
  | maxNum
  | autobound
  | filterPattern
deriving DecidableEq

namespace Field

/-- The name of a field. -/
def name : Field → String
  | isOptional => "is_optional"
  | default => "default"
  | allowFalsey => "allow_falsey"
  | kind => "kind"
  | allowEmpty => "allow_empty"
  | minLength => "min_length"
  | maxLength => "max_length"
  | minInt => "min_int"
  | maxInt => "max_int"
  | minNum => "min_num"
  | maxNum => "max_num"
  | autobound => "autobound"
  | filterPattern => "filter_pattern"

/-- The fields that every rule has. -/
def shared : List Field := [isOptional, default, allowFalsey]

end Field

/-- The fields that only rules of a kind have. -/
def Kind.ownFields : Kind → List Field
  | array => [.allowEmpty, .minLength, .maxLength]
  | map => [.allowEmpty]
  | integer => [.minInt, .maxInt, .autobound]
  | number => [.minNum, .maxNum, .autobound]
  | string => [.allowEmpty, .filterPattern, .minLength, .maxLength]
  | _ => []

/-! ### Constraints -/

/-- A bound of an integer rule: a whole number in its box. -/
abbrev Bound := Boxed Int

/-- A whole number or a double. -/
inductive Scalar
  | int (n : Int)
  | double (x : Double)
deriving DecidableEq

/-- The amount that a whole number or a double is. -/
def Scalar.amount : Scalar → Amount
  | int n => .int n
  | double x => .double x

/-- A bound of a number rule: a whole number or a double in its box. -/
abbrev Limit := Boxed Scalar

/-- A whole number as a bound, in a box of its own. -/
abbrev Limit.int (n : Int) : Limit := ⟨.int n, none⟩

/-- A double as a bound, in a box of its own. -/
abbrev Limit.double (x : Double) : Limit := ⟨.double x, none⟩

/-- The number that a bound is, in the same box. -/
def Bound.toNumber (bound : Bound) : Number := ⟨.int bound.content, bound.box⟩

/-- The number that a limit is, in the same box. -/
def Limit.toNumber (limit : Limit) : Number := ⟨limit.content.amount, limit.box⟩

/-- A kind with its constraints, or the bare rule, which has neither. -/
inductive Constraint
  | bare
  | any
  | boolean
  | function
  | svgElement
  | array (allowEmpty : Bool) (minLength maxLength : Option Int)
  | map (allowEmpty : Bool)
  | integer (minimum maximum : Option Bound) (autobound : Bool)
  | number (minimum maximum : Option Limit) (autobound : Bool)
  | string (allowEmpty : Bool) (filter : Option Pattern) (minLength maxLength : Option Int)
deriving DecidableEq

namespace Constraint

/-- The kind of a constraint; the bare rule has none. -/
def kind? : Constraint → Option Kind
  | bare => none
  | any => some .any
  | boolean => some .boolean
  | function => some .function
  | svgElement => some .svgElement
  | array .. => some .array
  | map .. => some .map
  | integer .. => some .integer
  | number .. => some .number
  | string .. => some .string

/-- The name of the record that holds such a rule. -/
def recordName (constraint : Constraint) : String :=
  match constraint.kind? with
  | some kind => kind.recordName
  | none => "BaseRule"

/-- The fields of such a rule, in order. -/
def fields (constraint : Constraint) : List Field :=
  match constraint.kind? with
  | some kind => Field.shared ++ .kind :: kind.ownFields
  | none => Field.shared

end Constraint

/-- A rule without its default. -/
structure Rule.Frame where
  isOptional : Bool
  /-- Whether the falsey values other than zero are exempt from all checks. -/
  allowFalsey : Bool
  constraint : Constraint
  /-- The fields that were given, in the order of the record. -/
  given : List Field
deriving DecidableEq

/-- Whether a default was given, be it null. -/
def Rule.Frame.hasDefault (frame : Rule.Frame) : Bool := frame.given.contains .default

end ArgRules
