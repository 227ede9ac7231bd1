import ArgRules.Check.Bounds

/-!
# The checks of the kinds

Each kind has a check of its own. It is given a value with its tag and says what the value is
replaced by, if it is, and why it does not pass. A value that does not have the tag of the kind is
examined no further. The tag is given, and it is the tag that is asked, not the value.

## The constraints contract

A check asks the rule for one constraint after the other, when it comes to need it. A rule of another
kind therefore serves as long as it has the constraints that it is asked for; the first one that it
lacks is a fault.

## Main definitions

* `Kind.check` — the check of a kind against the constraints of a rule, which may be one of any kind
* `Constraint.allowEmpty` and so on — what the rule says when it is asked
* `Tag.mismatch` — the reasons against a value without the tag that is expected
-/

namespace ArgRules

/-- What a check says about a value. -/
abbrev Finding := Adjustment Value

namespace Finding

/-- The value is left as it is. -/
def unchanged (reasons : List String) : Finding := ⟨none, reasons⟩

end Finding

/-- The reasons against a value without the tag that is expected. -/
def Tag.mismatch (actual expected : Tag) (reason : String) : List String :=
  if actual = expected then [] else [reason]

/-! ### Asking a rule -/

namespace Constraint

/-- The fault of a rule that is asked for a field it does not have. -/
def lacks (constraint : Constraint) (field : Field) : Fault :=
  .lacks constraint.recordName field.name

/-- Whether the rule allows what is empty. -/
def allowEmpty : Constraint → Except Fault Bool
  | array allowed _ _ | map allowed | string allowed _ _ _ => .ok allowed
  | other => .error (other.lacks .allowEmpty)

/-- The least length that the rule allows. -/
def minLength : Constraint → Except Fault (Option Int)
  | array _ low _ | string _ _ low _ => .ok low
  | other => .error (other.lacks .minLength)

/-- The greatest length that the rule allows. -/
def maxLength : Constraint → Except Fault (Option Int)
  | array _ _ high | string _ _ _ high => .ok high
  | other => .error (other.lacks .maxLength)

/-- The least whole number that the rule allows. -/
def minInt : Constraint → Except Fault (Option Bound)
  | integer low _ _ => .ok low
  | other => .error (other.lacks .minInt)

/-- The greatest whole number that the rule allows. -/
def maxInt : Constraint → Except Fault (Option Bound)
  | integer _ high _ => .ok high
  | other => .error (other.lacks .maxInt)

/-- The least number that the rule allows. -/
def minNum : Constraint → Except Fault (Option Limit)
  | number low _ _ => .ok low
  | other => .error (other.lacks .minNum)

/-- The greatest number that the rule allows. -/
def maxNum : Constraint → Except Fault (Option Limit)
  | number _ high _ => .ok high
  | other => .error (other.lacks .maxNum)

/-- Whether a number out of bounds is moved to the nearest bound. -/
def autobound : Constraint → Except Fault Bool
  | integer _ _ moved | number _ _ moved => .ok moved
  | other => .error (other.lacks .autobound)

/-- The pattern that a text has to match. -/
def filterPattern : Constraint → Except Fault (Option Pattern)
  | string _ filter _ _ => .ok filter
  | other => .error (other.lacks .filterPattern)

end Constraint

namespace Check

/-! ### Lengths -/

/-- Whether a limit of a length counts; zero is no limit. -/
def isSet : Option Int → Bool
  | some n => n ≠ 0
  | none => false

/-- The reason against a length above its limit, if it is. -/
def tooLong (count : Nat) (limit : Option Int) (reason : Int → Except Fault String) :
    Except Fault (List String) :=
  match limit with
  | some n => if n ≠ 0 ∧ n < count then return [← reason n] else return []
  | none => return []

/-- The reason against a length below its limit, if it is. -/
def tooShort (count : Nat) (limit : Option Int) (reason : Int → Except Fault String) :
    Except Fault (List String) :=
  match limit with
  | some n => if n ≠ 0 ∧ (count : Int) < n then return [← reason n] else return []
  | none => return []

/-! ### Containers -/

/-- The check of an array. -/
def array (rule : Constraint) (value : Value) (tag : Tag) : Except Fault Finding := do
  if tag ≠ .array then return .unchanged ["is not an array"]
  let count ← value.itemCount
  let countText ← Value.intText count
  let empty := if !(← rule.allowEmpty) ∧ count = 0 then ["is empty"] else []
  let long ← tooLong count (← rule.maxLength) fun n => do
    return "exceeds maximum length: " ++ countText ++ " > " ++ (← Value.intText n)
  let short ← tooShort count (← rule.minLength) fun n => do
    return "below minimum length: " ++ countText ++ " < " ++ (← Value.intText n)
  return .unchanged (empty ++ long ++ short)

/-- The check of a map. -/
def map (rule : Constraint) (value : Value) (tag : Tag) : Except Fault Finding := do
  if tag ≠ .object then return .unchanged ["is not a map"]
  if ← rule.allowEmpty then return .unchanged []
  return .unchanged (if (← value.itemCount) < 1 then ["is empty"] else [])

/-! ### Numbers -/

/-- The outcome of a check of numbers as one of values. -/
def ofNumbers (adjustment : Adjustment Number) : Finding :=
  ⟨adjustment.replacement.map .number, adjustment.reasons⟩

/-- The check of a whole number: its text has to be that of one. -/
def integer (rule : Constraint) (value : Value) (tag : Tag) : Except Fault Finding := do
  match tag, value with
  | .number, .number n =>
    if !(← value.isIntegerFormatted) then return .unchanged ["is not an integer"]
    let low ← rule.minInt
    let high ← rule.maxInt
    let autobound ← rule.autobound
    return ofNumbers
      (← Bounds.check .numbers (low.map (·.toNumber)) (high.map (·.toNumber)) autobound n)
  | _, _ => return .unchanged ["is not a number (" ++ tag.name ++ ")"]

/-- The check of a number. -/
def number (rule : Constraint) (value : Value) (tag : Tag) : Except Fault Finding := do
  match tag, value with
  | .number, .number n =>
    let low ← rule.minNum
    let high ← rule.maxNum
    let autobound ← rule.autobound
    return ofNumbers
      (← Bounds.check .numbers (low.map (·.toNumber)) (high.map (·.toNumber)) autobound n)
  | _, _ => return .unchanged ["is not a number"]

/-! ### Texts -/

/-- Whether a pattern matches in a text or a string of bytes, given as characters. -/
def search (p : Pattern) (text : List Char) : Except Fault Bool :=
  (p.search text).mapError fun .crossedGroup => .crossedGroup

/-- Whether a pattern matches in a text. -/
def searchText (p : Pattern) (s : String) : Except Fault Bool :=
  match p.source with
  | .text _ => search p s.toList
  | .bytes _ => .error .bytesPatternOnText

/-- The reasons against a text for what it is: a pattern decides alone, if there is one. -/
def contents (rule : Constraint) (s : String) : Except Fault (List String) := do
  match ← rule.filterPattern with
  | some p =>
    if ← searchText p s then return []
    return ["does not pass regex filter: /" ++ p.sourceText ++ "/"]
  | none => return if !(← rule.allowEmpty) ∧ s = "" then ["is empty"] else []

/-- The check of a text. -/
def string (rule : Constraint) (value : Value) (tag : Tag) : Except Fault Finding := do
  match tag, value.asText? with
  | .string, some s =>
    let unfit ← contents rule s
    let long ← tooLong s.length (← rule.maxLength) fun n => do
      return "is longer than max length " ++ (← Value.intText n)
    let short ← tooShort s.length (← rule.minLength) fun n => do
      return "is shorter than min length " ++ (← Value.intText n)
    return .unchanged (unfit ++ long ++ short)
  | _, _ => return .unchanged ["is not a string"]

end Check

/-! ### All kinds -/

/-- The check of a kind: a value, given with its tag, against the constraints of a rule. -/
def Kind.check (kind : Kind) (rule : Constraint) (value : Value) (tag : Tag) :
    Except Fault Finding :=
  match kind with
  | .any => .ok (.unchanged [])
  | .boolean => .ok (.unchanged (tag.mismatch .boolean "is not a boolean"))
  | .function => .ok (.unchanged (tag.mismatch .function "is not a function"))
  | .svgElement =>
    .ok (.unchanged (tag.mismatch .svgElement ("is not an SVG element (" ++ tag.name ++ ")")))
  | .array => Check.array rule value tag
  | .map => Check.map rule value tag
  | .integer => Check.integer rule value tag
  | .number => Check.number rule value tag
  | .string => Check.string rule value tag

end ArgRules
