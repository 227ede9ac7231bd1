/-!
# Faults

A fault is what stops a computation that was given values it cannot work with: a value that is no
key, a pattern applied to the wrong kind of text, a record built from unusable fields. Each fault is
a cause; its wording is in `Fault.message` alone.

A record that cannot be built is reported as a list of issues, one for each field at fault, with the
place of the field.

## Main definitions

* `Problem`, `Issue` — what is wrong with one field, and where
* `Fault` — why a computation stopped
* `Fault.message`, `Fault.category` — its wording and its category
-/

namespace ArgRules

/-! ### Issues -/

/-- A step on the way to a field. -/
inductive Locator
  | name (text : String)
  | index (n : Int)
deriving DecidableEq

/-- The step as text. -/
def Locator.text : Locator → String
  | name text => text
  | index n => toString n

/-- What is wrong with a field. -/
inductive Problem
  | booleanType
  | booleanText
  | integerType
  | integerText
  | integerTooLong
  | integerFractional
  | notFinite
  | floatType
  | floatText
  | patternType
  | patternText
  | extraField
  | fieldName
  | textType
  | textEncoding
  /-- A field with only one possible value has another one. -/
  | fixedValue (expected : String)
  /-- ASCII letters are asked for, and those of the locale, or of all scripts, as well. -/
  | conflictingLetters (inLocale : Bool)
  /-- A number of this many digits is too long to be read. -/
  | digitCount (count : Nat)
deriving DecidableEq

namespace Problem

/-- The stable code of a problem. -/
def code : Problem → String
  | booleanType => "bool_type"
  | booleanText => "bool_parsing"
  | integerType => "int_type"
  | integerText => "int_parsing"
  | integerTooLong => "int_parsing_size"
  | integerFractional => "int_from_float"
  | notFinite => "finite_number"
  | floatType => "float_type"
  | floatText => "float_parsing"
  | patternType => "pattern_type"
  | patternText => "pattern_regex"
  | extraField => "extra_forbidden"
  | fieldName => "invalid_key"
  | textType => "string_type"
  | textEncoding => "string_unicode"
  | fixedValue _ => "literal_error"
  | conflictingLetters _ => "value_error"
  | digitCount _ => "value_error"

/-- The wording of a problem. -/
def message : Problem → String
  | booleanType => "Input should be a valid boolean"
  | booleanText => "Input should be a valid boolean, unable to interpret input"
  | integerType => "Input should be a valid integer"
  | integerText => "Input should be a valid integer, unable to parse string as an integer"
  | integerTooLong => "Unable to parse input string as an integer, exceeded maximum size"
  | integerFractional => "Input should be a valid integer, got a number with a fractional part"
  | notFinite => "Input should be a finite number"
  | floatType => "Input should be a valid number"
  | floatText => "Input should be a valid number, unable to parse string as a number"
  | patternType => "Input should be a valid pattern"
  | patternText => "Input should be a valid regular expression"
  | extraField => "Extra inputs are not permitted"
  | fieldName => "Keys should be strings"
  | textType => "Input should be a valid string"
  | textEncoding =>
    "Input should be a valid string, unable to parse raw data as a unicode string"
  | fixedValue expected => "Input should be '" ++ expected ++ "'"
  | conflictingLetters inLocale =>
    "Value error, ASCII and " ++ (if inLocale then "LOCALE" else "UNICODE") ++
      " flags are incompatible"
  | digitCount count =>
    "Value error, Exceeds the limit (4300 digits) for integer string conversion: value has " ++
      toString count ++ " digits; use sys.set_int_max_str_digits() to increase the limit"

end Problem

/-- A problem and its place. -/
structure Issue where
  location : List Locator
  problem : Problem
deriving DecidableEq

/-! ### Faults -/

/-- Which of two limits a comparison was made with. -/
inductive Comparison
  | less
  | greater
deriving DecidableEq

/-- The same comparison with its sides exchanged. -/
def Comparison.flip : Comparison → Comparison
  | less => greater
  | greater => less

/-- The sign of a comparison. -/
def Comparison.sign : Comparison → String
  | less => "<"
  | greater => ">"

/-- Why a computation stopped. Types are given by their names. -/
inductive Fault
  /-- A value of this type is no key. -/
  | noKey (type : String)
  /-- A signalling not-a-number is no key. -/
  | signallingKey
  /-- A value of this type has no items to go through. -/
  | noItems (type : String)
  /-- A value of this type is no text to search. -/
  | noText (type : String)
  /-- A pattern of text was applied to bytes. -/
  | textPatternOnBytes
  /-- A pattern of bytes was applied to text. -/
  | bytesPatternOnText
  /-- A value of this type was to be written to and is read-only. -/
  | readOnly (type : String)
  /-- A value of this type lacks a feature. -/
  | lacks (type feature : String)
  /-- The type itself, as a value, lacks a feature. -/
  | typeLacks (type feature : String)
  /-- The operation of a type was asked of the type itself, with no value of the type. -/
  | unboundOperation (type operation : String)
  /-- The operation of a type was asked of the type itself, with a text in place of a value. -/
  | misboundOperation (type operation : String)
  /-- Values of these two types have no order. -/
  | unordered (comparison : Comparison) (left right : String)
  /-- The comparison involved a decimal not-a-number. -/
  | unorderedDecimal
  /-- Reasons are not given one by one. -/
  | reasonsNotListed
  /-- A reason is not a text but of this type. -/
  | reasonNotText (index : Nat) (type : String)
  /-- A whole number has too many digits to be written. -/
  | tooManyDigits
  /-- An object refuses to tell its length, by either of two ways of refusing. -/
  | lengthRefused (asType : Bool)
  | negativeLength
  /-- An object claims a length that no length can be. -/
  | lengthTooLarge
  /-- A range has more items than a length can count. -/
  | rangeTooLong
  /-- An object refuses to be shown. -/
  | textRefused
  /-- An object refuses to tell its tag. -/
  | tagRefused
  /-- An object refuses to tell whether it has attributes. -/
  | attributesRefused
  /-- An object refuses to hand out the item with this number. -/
  | itemRefused (index : Nat)
  /-- The items of an object never end, and neither does going through them. -/
  | endlessItems
  /-- A pattern asks for too many rounds. -/
  | tooManyRounds
  /-- A pattern looks for too long a text behind a place. -/
  | tooFarBehind
  /-- A remembered text of a match ends before it starts. -/
  | crossedGroup
  /-- An item that should be a pair of a key and a value is of this type. -/
  | pairType (index : Nat)
  /-- An item that should be a pair of a key and a value has this many items. -/
  | pairLength (index length : Nat)
  /-- A record of this name cannot be built. -/
  | unusable (record : String) (issues : List Issue)
deriving DecidableEq

/-- The categories of faults. -/
inductive FaultCategory
  | type
  | value
  | attribute
  | state
  | system
  | key
  | overflow
  | arithmetic
  | record
deriving DecidableEq

namespace Fault

/-- The category of a fault. -/
def category : Fault → FaultCategory
  | tooManyDigits | lengthRefused false | negativeLength | textRefused | pairLength .. => .value
  | lacks .. | typeLacks .. => .attribute
  | tagRefused | attributesRefused | endlessItems | tooFarBehind => .state
  | crossedGroup => .system
  | itemRefused _ => .key
  | tooManyRounds | lengthTooLarge | rangeTooLong => .overflow
  | unorderedDecimal => .arithmetic
  | unusable .. => .record
  | _ => .type

/-- The wording of a fault. -/
def message : Fault → String
  | noKey type => "unhashable type: '" ++ type ++ "'"
  | signallingKey => "Cannot hash a signaling NaN value"
  | noItems type => "'" ++ type ++ "' object is not iterable"
  | noText type => "expected string or bytes-like object, got '" ++ type ++ "'"
  | textPatternOnBytes => "cannot use a string pattern on a bytes-like object"
  | bytesPatternOnText => "cannot use a bytes pattern on a string-like object"
  | readOnly type => "'" ++ type ++ "' object does not support item assignment"
  | lacks type feature => "'" ++ type ++ "' object has no attribute '" ++ feature ++ "'"
  | typeLacks type feature => "type object '" ++ type ++ "' has no attribute '" ++ feature ++ "'"
  | unboundOperation type operation =>
    "unbound method " ++ type ++ "." ++ operation ++ "() needs an argument"
  | misboundOperation type operation =>
    "descriptor '" ++ operation ++ "' for '" ++ type ++
      "' objects doesn't apply to a 'str' object"
  | unordered comparison left right =>
    "'" ++ comparison.sign ++ "' not supported between instances of '" ++ left ++ "' and '" ++
      right ++ "'"
  | unorderedDecimal => "[<class 'decimal.InvalidOperation'>]"
  | reasonsNotListed => "can only join an iterable"
  | reasonNotText index type =>
    "sequence item " ++ toString index ++ ": expected str instance, " ++ type ++ " found"
  | tooManyDigits =>
    "Exceeds the limit (4300 digits) for integer string conversion; " ++
      "use sys.set_int_max_str_digits() to increase the limit"
  | lengthRefused _ => "no length"
  | negativeLength => "__len__() should return >= 0"
  | lengthTooLarge => "cannot fit 'int' into an index-sized integer"
  | rangeTooLong => "Python int too large to convert to C ssize_t"
  | textRefused => "no text"
  | tagRefused => "no tag"
  | attributesRefused => "no attributes"
  | itemRefused index => toString index
  | endlessItems => "no end of items"
  | tooManyRounds => "the repetition number is too large"
  | tooFarBehind => "invalid SRE code"
  | crossedGroup =>
    "The span of capturing group is wrong, please report a bug for the re module."
  | pairType index =>
    "cannot convert dictionary update sequence element #" ++ toString index ++ " to a sequence"
  | pairLength index length =>
    "dictionary update sequence element #" ++ toString index ++ " has length " ++
      toString length ++ "; 2 is required"
  | unusable record issues =>
    toString issues.length ++ " validation errors for " ++ record

end Fault

end ArgRules
