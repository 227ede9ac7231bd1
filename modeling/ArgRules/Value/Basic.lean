import ArgRules.Fault
import ArgRules.Mode
import ArgRules.Rule.Frame
import ArgRules.Table

/-!
# Values

Arguments are values of any type, and so are the entries of rule maps, since a rule map may hold
anything at all where a rule should be. `Value` is that universe.

Besides plain data it holds rules that have been read already, functions and types, which can only
be told apart by name, elements of a drawing, and objects of which nothing is known but the features
that they offer.

## Main definitions

* `Value` — the values
* `Facets` — the features of an object
* `Rule` — a rule, with its default
* `Value.typeName`, `Value.qualifiedName` — the two names of a value's type
-/

namespace ArgRules

/-! ### Objects -/

/-- What an object answers when it is asked for its tag. -/
inductive TagFacet
  | named (tag : String)
  /-- A tag that is no text; it is kept as it was written and never looked at. -/
  | other (written : String)
  | refused
deriving DecidableEq

/-- What an object answers when it is asked for its length. -/
inductive LengthFacet
  | claimed (n : Int)
  /-- It refuses, in one of the two ways of refusing. -/
  | refused (asType : Bool)
deriving DecidableEq

/-- What an object answers when it is asked whether it has a feature. -/
inductive Presence
  | absent
  | present
  | refused
deriving DecidableEq

/-- How the items of an object end, which it hands out by number. -/
inductive ItemFacet
  /-- It says that there are no more. -/
  | ended
  /-- It refuses the next one. -/
  | refused
  /-- There is always a next one. -/
  | endless
deriving DecidableEq

/-- The features of an object. -/
structure Facets where
  tag : Option TagFacet
  /-- Whether the object has attributes in the sense of an element of a drawing. -/
  attributed : Presence
  callable : Bool
  length : Option LengthFacet
  /-- How the items end, if the object hands out items at all. -/
  item : Option ItemFacet
  /-- The names of the object's own fields, each with what was written for it. -/
  fields : Option (List (String × String))
  /-- What the object is shown as. -/
  shown : Option String
  /-- Whether the object refuses to be shown on its own. -/
  hidden : Bool
deriving DecidableEq

/-! ### Values -/

/-- A value. -/
inductive Value
  | null
  /-- The mark of an argument that is not there. -/
  | undefined
  | bool (b : Bool)
  | number (n : Number)
  | decimal (d : Decimal)
  | complex (re im : Double)
  | text (s : String)
  | mode (m : Mode)
  | bytes (data : List UInt8)
  | byteArray (data : List UInt8)
  | list (items : List Value)
  | tuple (items : List Value)
  | set (items : List Value)
  | deque (items : List Value)
  | range (start stop step : Int)
  | map (entries : List (Value × Value))
  | frozenMap (entries : List (Value × Value))
  | pattern (p : Pattern)
  | function (name : String)
  | type (name : String)
  /-- An element of a drawing, with the number of its children. -/
  | element (name : String) (children : Nat)
  | rule (frame : Rule.Frame) (default : Value)
  /-- An object, with the items that it hands out one by one, up to where they end. -/
  | object (facets : Facets) (items : List Value)

instance : Inhabited Value := ⟨.null⟩

/-- A rule, with its default; the default is null if none was given. -/
structure Rule where
  frame : Rule.Frame
  default : Value

/-- The rule as a value. -/
def Rule.toValue (rule : Rule) : Value := .rule rule.frame rule.default

/-- Entries of a map, in order. -/
abbrev Entries := Table Value Value

namespace Value

/-- A whole number. -/
abbrev int (n : Int) : Value := .number (.int n)

/-- The address of the drawing elements' namespace. -/
def drawingNamespace : String := "\x7bhttp://www.w3.org/2000/svg\x7d"

/-- The tag of the element that groups others. -/
def groupTag : String := drawingNamespace ++ "g"

/-- The text that a value is if it is one; the member of a mode is one as well. -/
def asText? : Value → Option String
  | text s => some s
  | mode m => some m.name
  | _ => none

/-- The entries of a map, read-only or not. -/
def asMap? : Value → Option Entries
  | map entries => some entries
  | frozenMap entries => some entries
  | _ => none

/-- Whether a value is a map. -/
def isMap (value : Value) : Bool := value.asMap?.isSome

/-- The name of the type of maps. -/
def mapTypeName : String := "dict"

/-- The name of a value's type. -/
def typeName : Value → String
  | null => "NoneType"
  | undefined => "_Undefined"
  | bool _ => "bool"
  | number ⟨.int _, _⟩ => "int"
  | number ⟨.double _, _⟩ => "float"
  | number ⟨.fraction _, _⟩ => "Fraction"
  | decimal _ => "Decimal"
  | complex .. => "complex"
  | text _ => "str"
  | mode _ => "Mode"
  | bytes _ => "bytes"
  | byteArray _ => "bytearray"
  | list _ => "list"
  | tuple _ => "tuple"
  | set _ => "set"
  | deque _ => "deque"
  | range .. => "range"
  | map _ => mapTypeName
  | frozenMap _ => "mappingproxy"
  | pattern _ => "Pattern"
  | function _ => "builtin_function_or_method"
  | type _ => "type"
  | element .. => "Element"
  | rule frame _ => frame.constraint.recordName
  | object .. => "Duck"

/-- The name of a value's type, with the library that it belongs to. -/
def qualifiedName : Value → String
  | decimal _ => "decimal.Decimal"
  | deque _ => "collections.deque"
  | pattern _ => "re.Pattern"
  | element .. => "xml.etree.ElementTree.Element"
  | value => value.typeName

@[simp] theorem asMap?_map (entries : Entries) : (map entries).asMap? = some entries := rfl

@[simp] theorem asMap?_frozenMap (entries : Entries) :
    (frozenMap entries).asMap? = some entries := rfl

end Value

end ArgRules
