import ArgRules.Value.Items
import ArgRules.Value.Text

/-!
# Tags of values

Every value has a tag, its type as far as rules care. The tags are found by asking the value in a
fixed order, so that the element that groups others is told from a function and a function from an
array. An array is a list, a tuple, or whatever else has a length other than zero and hands out its
first item, if it is neither a map nor bytes.

## When there is no tag

The order begins with the plain types. An object may refuse to tell its tag, and one with the tag of
the element that groups others may refuse to tell whether it has attributes. Then the classification
fails with it; these are the only ways to fail.

## Main definitions

* `Tag`, `Tag.name` — the tags
* `Value.tag` — the tag of a value
* `Value.isFalsey`, `Value.isZero` — the two questions about single values
* `Value.preview` — the short text of a value for messages
* `Value.isIntegerFormatted` — whether the text of a value is that of a whole number
-/

namespace ArgRules

/-- The type of a value as far as rules care. -/
inductive Tag
  | null
  | undefined
  | boolean
  | number
  | string
  | function
  | array
  | object
  | pattern
  | svgElement
deriving DecidableEq

namespace Tag

/-- The name of a tag. -/
def name : Tag → String
  | null => "Null"
  | undefined => "Undefined"
  | boolean => "Boolean"
  | number => "Number"
  | string => "String"
  | function => "Function"
  | array => "Array"
  | object => "Object"
  | pattern => "RegExp"
  | svgElement => "SVGGElement"

/-- All tags. -/
def all : List Tag :=
  [null, undefined, boolean, number, string, function, array, object, pattern, svgElement]

/-- The tag with a given name. -/
def ofName? (name : String) : Option Tag := all.find? (·.name = name)

@[simp] theorem ofName?_name (tag : Tag) : ofName? tag.name = some tag := by
  cases tag <;> decide

end Tag

namespace Value

/-! ### Classification -/

/-- Whether a length is one of something that is not empty. -/
def isNonemptyLength : Option (Except Fault Nat) → Bool
  | some (.ok n) => n ≠ 0
  | _ => false

/-- Whether an object is the element that groups others: it has the tag of one and attributes. -/
def isGroup (facets : Facets) : Except Fault Bool :=
  match facets.tag, facets.attributed with
  | some .refused, _ => .error .tagRefused
  | some (.named tag), attributed =>
    if tag = groupTag then
      match attributed with
      | .absent => .ok false
      | .present => .ok true
      | .refused => .error .attributesRefused
    else .ok false
  | _, _ => .ok false

/-- Whether an object hands out its first item. -/
def givesItem (facets : Facets) (items : List Value) : Bool :=
  match facets.item with
  | some .ended | some .refused => !items.isEmpty
  | some .endless => true
  | none => false

/-- The tag of an object. -/
def objectTag (facets : Facets) (items : List Value) : Except Fault Tag := do
  if ← isGroup facets then return .svgElement
  if facets.callable then return .function
  return if isNonemptyLength (claimedLength? facets) ∧ givesItem facets items then .array
    else .object

/-- The tag of a value. -/
def tag : Value → Except Fault Tag
  | null => .ok .null
  | undefined => .ok .undefined
  | bool _ => .ok .boolean
  | number _ => .ok .number
  | text _ | mode _ => .ok .string
  | pattern _ => .ok .pattern
  | function _ | type _ => .ok .function
  | list _ | tuple _ => .ok .array
  | deque items => .ok (if items.isEmpty then .object else .array)
  | range start stop step =>
    .ok (if isNonemptyLength (length? (range start stop step)) then .array else .object)
  | element name children =>
    .ok (if name = "g" then .svgElement else if children = 0 then .object else .array)
  | object facets items => objectTag facets items
  | _ => .ok .object

theorem tag_of_asText? {value : Value} {s : String} (h : value.asText? = some s) :
    value.tag = .ok .string := by
  cases value with
  | text | mode => rfl
  | _ => contradiction

/-! ### Falsey values -/

/-- Whether a value is zero, of any numeric type that has a tag of its own. -/
def isZero (value : Value) : Except Fault Bool := do
  match ← value.tag, value with
  | .number, number n => return n.isZero
  | _, _ => return false

/-- Whether a single value counts as absent: null, the undefined mark, the false truth value, the
empty text, zero and not-a-number. A container never does. -/
def isFalsey (value : Value) : Except Fault Bool := do
  match value with
  | null | undefined => return true
  | bool b => return !b
  | text s => return s = ""
  | mode _ => return false
  | value =>
    match ← value.tag, value with
    | .number, number n => return n.isZero || n.isNan
    | _, _ => return false

/-! ### Texts for messages -/

/-- The greatest length of a text that is shown in full. -/
def previewLimit : Nat := 20

/-- The number of characters that are shown of a longer text. -/
def previewKept : Nat := 17

/-- A text cut to the size of a preview. -/
def abridge (s : String) : String :=
  if previewLimit < s.length then
    "(" ++ String.ofList (s.toList.take previewKept) ++ "...)"
  else s

/-- The short text of a value for messages; a falsey value has none. -/
def preview (value : Value) : Except Fault String := do
  if ← value.isFalsey then return ""
  return abridge (← value.display)

/-- Whether a text is a sign, if any, and digits. A line feed after them does not count. -/
def isIntegerText (cs : List Char) : Bool :=
  let body := match cs with
    | '+' :: rest | '-' :: rest => rest
    | _ => cs
  let rest := body.dropWhile Text.isAsciiDigit
  !(body.takeWhile Text.isAsciiDigit).isEmpty && (rest.isEmpty || rest = ['\n'])

/-- Whether the text of a value is that of a whole number, without point and exponent. -/
def isIntegerFormatted (value : Value) : Except Fault Bool := do
  return isIntegerText (← value.display).toList

end Value

end ArgRules
