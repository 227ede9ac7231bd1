import ArgRules.Check.Kinds

/-!
# Naming conventions

A naming convention is a pattern that the names of the arguments of a kind have to match. Functions
and elements of drawings have none, so their names are free.

## The grammar contract

For arrays, maps, numbers and texts, the end of a name tells its kind: an underscore and one of a
few words, with at most one more underscore after it. For truth values it is the beginning, and for
arguments of any kind the whole name. Each convention is written down twice, as the source that
messages show and as the tree that is matched, and `Kind.compile_convention` says that the tree is
that of the source.

## Conventions that are no patterns

An engine can be given conventions of its own, and nothing keeps them from being values of another
type. Such a value is noticed only when a name is compared with it.

## Main definitions

* `Kind.convention?` — the conventions
* `Convention`, `Conventions` — what an engine holds in their place
* `Conventions.ofValue` — the conventions that a value stands for
* `Conventions.reasons` — the reasons against a name
-/

namespace ArgRules

/-! ### The conventions -/

namespace Naming

open Pattern (Node)

/-- The letters of a fixed text, one after the other. -/
def letters (text : String) : List Node := text.toList.map fun c => .char (.single c)

/-- One of several words, which is remembered. -/
def oneOf (words : List String) : Node := .group 1 (.choice (words.map .word))

/-- An underscore that may be missing, and the end. -/
def ending : List Node :=
  [.times 0 (some 1) .greedy (.char (.single '_')), .anchor .lastLineEnd]

/-- The pattern with a source, the least length of a match and the tree that the source describes. -/
def written (source : String) (least : Nat) (parts : List Node) : Pattern :=
  ⟨.text source, .empty, .sequence parts, least⟩

/-- The words at the beginning of the names of truth values. -/
def booleanWords : List String := ["allow", "is", "do", "has", "have", "be", "if", "dont"]

/-- The words at the end of the names of whole numbers. -/
def integerWords : List String := ["count", "idx", "idto", "idint", "ms", "px"]

/-- The words at the end of the names of numbers. -/
def numberWords : List String := ["num", "ratio"]

/-- The words at the end of the names of texts. -/
def stringWords : List String := ["name", "key", "type", "text", "html"]

end Naming

open Naming in
/-- The naming convention of a kind. -/
def Kind.convention? : Kind → Option Pattern
  | .any => some (written "^_data_?$" 5 (.anchor .textStart :: letters "_data" ++ ending))
  | .array => some (written "_list_?$" 5 (letters "_list" ++ ending))
  | .boolean =>
    some (written "^(allow|is|do|has|have|be|if|dont)_" 3
      (.anchor .textStart :: oneOf booleanWords :: letters "_"))
  | .map => some (written "_map_?$" 4 (letters "_map" ++ ending))
  | .integer =>
    some (written "_(count|idx|idto|idint|ms|px)_?$" 3
      (letters "_" ++ oneOf integerWords :: ending))
  | .number => some (written "_(num|ratio)_?$" 4 (letters "_" ++ oneOf numberWords :: ending))
  | .string =>
    some (written "_(name|key|type|text|html)_?$" 4
      (letters "_" ++ oneOf stringWords :: ending))
  | .function => none
  | .svgElement => none

/-! ### What an engine holds -/

/-- What stands where a naming convention belongs. -/
inductive Convention
  | pattern (p : Pattern)
  /-- A value that is no pattern. -/
  | unusable (value : Value)

/-- What an engine holds for each kind, if anything. -/
abbrev Conventions := Kind → Option Convention

namespace Convention

/-- What a value is as a convention; null is none. -/
def ofValue? : Value → Option Convention
  | .null => none
  | .pattern p => some (.pattern p)
  | value => some (.unusable value)

/-- Whether a pattern matches in a name. Only texts and bytes can be searched. -/
def search (p : Pattern) (name : Value) : Except Fault Bool :=
  match name.asText?, name.asBytes? with
  | some s, _ => Check.searchText p s
  | _, some data =>
    match p.source with
    | .text _ => .error .textPatternOnBytes
    | .bytes _ => Check.search p (Pattern.characters data)
  | none, none => .error (.noText name.qualifiedName)

/-- The fault of searching with a value that is no pattern. -/
def noSearch : Value → Fault
  | .type name => .typeLacks name "search"
  | value => .lacks value.qualifiedName "search"

/-- The reasons against a name. -/
def reasons (name : Value) : Convention → Except Fault (List String)
  | pattern p => do
    if ← search p name then return []
    return ["name does not match convention - /" ++ p.sourceText ++ "/"]
  | unusable value => .error (noSearch value)

end Convention

namespace Conventions

/-- The conventions of an engine that is given none. -/
def default : Conventions := fun kind => kind.convention?.map .pattern

/-- The conventions of a map from the names of kinds. -/
def ofEntries (entries : Entries) : Conventions := fun kind =>
  (entries.get? (.text kind.name)).bind Convention.ofValue?

/-- The key and the value that the item with a number consists of. -/
def pair (index : Nat) (item : Value) : Except Fault (Value × Value) := do
  let parts ← match item.items with
    | .ok parts => pure parts
    | .error fault =>
      .error (if fault.category = .type then .pairType index else fault)
  match parts with
  | [key, value] =>
    key.checkKey
    return (key, value)
  | _ => .error (.pairLength index parts.length)

/-- The entries of items that are pairs of a key and a value; numbers are counted from the given
one. -/
def pairs (index : Nat) : List Value → Except Fault Entries
  | [] => return []
  | item :: rest => return (← pair index item) :: (← pairs (index + 1) rest)

/-- The entries that a value consists of, if it is a map or made of pairs. An element of a drawing
has attributes in place of entries, and it has none. The type of maps has keys only for a map. -/
def entriesOf (value : Value) : Except Fault Entries :=
  match value.asMap?, value with
  | some entries, _ => .ok entries
  | none, .element .. => .ok []
  | none, .type name =>
    .error (if name = Value.mapTypeName then .unboundOperation name "keys"
      else .noItems (Value.type name).qualifiedName)
  | none, value => do
    let entries ← pairs 0 value.listing.items
    value.listing.ending
    return Table.ofList entries

/-- The conventions that a value stands for; null stands for the default ones. -/
def ofValue : Value → Except Fault Conventions
  | .null => .ok default
  | value => do return ofEntries (← entriesOf value)

/-- The reasons against the name of an argument of a kind. -/
def reasons (conventions : Conventions) (kind : Kind) (name : Value) :
    Except Fault (List String) :=
  match conventions kind with
  | some convention => convention.reasons name
  | none => .ok []

end Conventions

/-- The tree of a convention is that of its source. -/
theorem Kind.compile_convention {kind : Kind} {p : Pattern} (h : kind.convention? = some p) :
    (Pattern.compile p.source .empty).toOption = some p := by
  cases kind <;> simp only [Kind.convention?, Option.some.injEq, reduceCtorEq] at h <;> subst h <;>
    decide +kernel

end ArgRules
