import ArgRules.Value.Text

/-!
# Reading the fields of rules

The fields of a rule may be written leniently: a truth value as a word, a bound as a text or as a
number without a fractional part, a pattern as its source. Each reader here takes a value and gives
what the field holds, or says what is wrong with the value.

## Main definitions

* `Reading.flag` — a truth value
* `Reading.whole` — a whole number
* `Reading.bound`, `Reading.limit` — a bound of an integer rule, and of a number rule
* `Reading.pattern` — a pattern
* `Reading.text` — a text
-/

namespace ArgRules.Reading

open Value (int)

/-! ### Texts among the values -/

/-- The text that a value is written as, bytes being taken as UTF-8; `none` inside if the bytes are
no such text. -/
def written? : Value → Option (Option (List Char))
  | .bytes data => some ((String.fromUTF8? ⟨data.toArray⟩).map (·.toList))
  | value => value.asText?.map fun s => some s.toList

/-! ### Texts -/

/-- Reads a text. Bytes stand for the text that they encode. -/
def text (value : Value) : Except Problem String :=
  match value, value.asText? with
  | _, some s => .ok s
  | .bytes data, _ | .byteArray data, _ =>
    match String.fromUTF8? ⟨data.toArray⟩ with
    | some s => .ok s
    | none => .error .textEncoding
  | _, _ => .error .textType

@[simp] theorem text_text (s : String) : text (.text s) = .ok s := rfl

/-! ### Truth values -/

/-- The words for the truth value true. -/
def trueWords : List String := ["1", "on", "t", "true", "y", "yes"]

/-- The words for the truth value false. -/
def falseWords : List String := ["0", "off", "f", "false", "n", "no"]

/-- The truth value that a word stands for, in any letter case. -/
def flagWord (word : List Char) : Except Problem Bool :=
  let word := String.ofList (Numeral.lowered word)
  if trueWords.contains word then .ok true
  else if falseWords.contains word then .ok false
  else .error .booleanText

/-- Whether a whole number fits into 64 bits with a sign. -/
def fitsWord (n : Int) : Bool := -(Nat.pow 2 63 : Int) ≤ n && n < Nat.pow 2 63

/-- The truth value that a whole number stands for. -/
def flagNumber (n : Int) : Except Problem Bool :=
  if n = 0 then .ok false else if n = 1 then .ok true else .error .booleanText

/-- Whether a whole number lies strictly between the two bounds of the doubles that are taken for
whole numbers. -/
def withinWord (n : Int) : Bool := -(Nat.pow 2 63 : Int) < n && n < Nat.pow 2 63

/-- The truth value that a double stands for. -/
def flagDouble (x : Double) : Except Problem Bool :=
  match x.integral? with
  | some n => if withinWord n then flagNumber n else .error .booleanType
  | none => .error .booleanType

/-- Reads a truth value. -/
def flag (value : Value) : Except Problem Bool :=
  match value, written? value with
  | .bool b, _ => .ok b
  | _, some (some word) => flagWord word
  | _, some none => .error .booleanText
  | .number ⟨.int n, _⟩, _ => if fitsWord n then flagNumber n else .error .booleanType
  | .number ⟨.double x, _⟩, _ => flagDouble x
  | .number ⟨.fraction q, _⟩, _ => flagDouble (.ofRat q)
  | .decimal d, _ =>
    match d.toDouble? with
    | some x => flagDouble x
    | none => .error .booleanType
  | _, _ => .error .booleanType

/-! ### Whole numbers -/

/-- Reads a whole number from a text. -/
def wholeText (digits : List Char) : Except Problem Int :=
  match Numeral.readWhole digits with
  | .ok n => .ok n
  | .error .malformed => .error .integerText
  | .error .tooLong => .error .integerTooLong

/-- Reads a whole number from a double. -/
def wholeDouble (x : Double) : Except Problem Int :=
  match x.extent, x.integral? with
  | .exactly _, some n => if withinWord n then .ok n else .error .integerTooLong
  | .exactly _, none => .error .integerFractional
  | _, _ => .error .notFinite

/-- Reads a whole number. -/
def whole (value : Value) : Except Problem Int :=
  match value, written? value with
  | .number ⟨.int n, _⟩, _ => .ok n
  | .bool b, _ => .ok (if b then 1 else 0)
  | _, some (some digits) => wholeText digits
  | _, some none => .error .integerText
  | .number ⟨.double x, _⟩, _ => wholeDouble x
  | .number ⟨.fraction q, _⟩, _ => if q.den = 1 then .ok q.num else .error .integerFractional
  | .decimal d, _ =>
    match d.extent with
    | .exactly q => if q.den = 1 then .ok q.num else .error .integerFractional
    | _ => .error .notFinite
  | _, _ => .error .integerType

/-! ### Bounds -/

/-- Reads a bound of an integer rule. A whole number is taken as it is, box and all; from anything
else a new one is made. -/
def bound (value : Value) : Except Problem Bound :=
  match value with
  | .number ⟨.int n, box⟩ => .ok ⟨n, box⟩
  | value => (whole value).map .alone

/-- Why a value is no bound: what is wrong with it as a whole number, and as a double. -/
structure LimitError where
  asWhole : Problem
  asDouble : Problem
deriving DecidableEq

/-- Reads a bound from a text: as a whole number, or else as a double. -/
def limitText (digits : List Char) : Except LimitError Limit :=
  match wholeText digits, Numeral.readLoosely? digits with
  | .ok n, _ => .ok (.int n)
  | .error _, some x => .ok (.double x)
  | .error problem, none => .error ⟨problem, .floatText⟩

/-- Reads a bound of a number rule. A whole number or a double is taken as it is, box and all; from
anything else a new one is made. -/
def limit (value : Value) : Except LimitError Limit :=
  match value, written? value with
  | .number ⟨.int n, box⟩, _ => .ok ⟨.int n, box⟩
  | .number ⟨.double x, box⟩, _ => .ok ⟨.double x, box⟩
  | .bool b, _ => .ok (.int (if b then 1 else 0))
  | _, some (some digits) => limitText digits
  | _, some none => .error ⟨.integerText, .floatText⟩
  | .number ⟨.fraction q, _⟩, _ =>
    match Double.ofRat q with
    | .infinite _ =>
      if q.den = 1 then .ok (.int q.num) else .error ⟨.integerFractional, .floatType⟩
    | x => .ok (.double x)
  | .decimal d, _ =>
    match d.toDouble? with
    | some x => .ok (.double x)
    | none => .error ⟨.notFinite, .floatType⟩
  | _, _ => .error ⟨.integerType, .floatType⟩

/-! ### Patterns -/

/-- Reads a pattern from its source. A number of rounds that is too large is a fault, not a problem
of the field, and so is too great a distance. -/
def patternSource (source : Pattern.Source) : Except Fault (Except Problem Pattern) :=
  match Pattern.compile source .empty with
  | .ok p => .ok (.ok p)
  | .error .malformed => .ok (.error .patternText)
  | .error (.conflictingLetters inLocale) => .ok (.error (.conflictingLetters inLocale))
  | .error (.tooManyDigits count) => .ok (.error (.digitCount count))
  | .error .tooManyRounds => .error .tooManyRounds
  | .error .tooFarBehind => .error .tooFarBehind

/-- Reads a pattern. -/
def pattern (value : Value) : Except Fault (Except Problem Pattern) :=
  match value, value.asText? with
  | .pattern p, _ => .ok (.ok p)
  | _, some s => patternSource (.text s)
  | .bytes data, _ => patternSource (.bytes data)
  | _, _ => .ok (.error .patternType)

@[simp] theorem flag_bool (b : Bool) : flag (.bool b) = .ok b := rfl

@[simp] theorem whole_int (n : Int) : whole (int n) = .ok n := rfl

@[simp] theorem bound_number (b : Bound) : bound (.number b.toNumber) = .ok b := rfl

@[simp] theorem limit_number (limit : Limit) :
    Reading.limit (.number limit.toNumber) = .ok limit := by
  obtain ⟨scalar, box⟩ := limit
  cases scalar <;> rfl

@[simp] theorem pattern_pattern (p : Pattern) : pattern (.pattern p) = .ok (.ok p) := rfl

end ArgRules.Reading
