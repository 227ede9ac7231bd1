import ArgRules.Tag
import ArgRules.Value.Order

/-!
# Bounds

A value is checked against an upper and a lower limit. Either the value is moved to a limit that it
passes, or the limit gives a reason against it.

## The two-limits contract

The upper limit is checked first and the lower one against what the upper limit has left, so that
when the lower limit is above the upper one, a value that is moved ends at the lower limit.

Being moved back to where it was is no move. That is a question of identity and not of equality: a
number that is equal to the limit it is moved to, and yet another one, is replaced by the limit. Two
numbers are one and the same only if they are in the same box (see `Number.identical`); of the other
values a few small ones exist only once.

## Main definitions

* `Scale` — how the values to be checked are compared and written
* `Bounds.check` — the check, with its `Adjustment`
* `Scale.numbers`, `Scale.values` — the scales of numbers and of all values
-/

namespace ArgRules

/-- How values are compared with limits, and how limits are written. -/
structure Scale (α : Type) where
  exceeds : α → α → Except Fault Bool
  fallsBelow : α → α → Except Fault Bool
  write : α → Except Fault String
  /-- Whether two values are one and the same. -/
  identical : α → α → Bool

/-- The outcome of a check: what the value is replaced by, if it is, and the reasons against it. -/
structure Adjustment (α : Type) where
  replacement : Option α
  reasons : List String

namespace Bounds

variable {α : Type}

/-- Checks a value against one limit. -/
def applyLimit (scale : Scale α) (outside : α → α → Except Fault Bool) (phrase : String)
    (autobound : Bool) (value : α) : Option α → Except Fault (Adjustment α)
  | none => return ⟨none, []⟩
  | some limit => do
    if !(← outside value limit) then return ⟨none, []⟩
    if autobound then return ⟨some limit, []⟩
    return ⟨none, [phrase ++ (← scale.write limit)]⟩

/-- The reason against a value above its upper limit, without the limit. -/
def abovePhrase : String := "exceeds allowed maximum of "

/-- The reason against a value below its lower limit, without the limit. -/
def belowPhrase : String := "below allowed minimum of "

/-- Checks a value against both limits. -/
def check (scale : Scale α) (minimum maximum : Option α) (autobound : Bool) (value : α) :
    Except Fault (Adjustment α) := do
  let upper ← applyLimit scale scale.exceeds abovePhrase autobound value maximum
  let kept := upper.replacement.getD value
  let lower ← applyLimit scale scale.fallsBelow belowPhrase autobound kept minimum
  let replacement := (lower.replacement <|> upper.replacement).filter fun final =>
    !scale.identical value final
  return ⟨replacement, upper.reasons ++ lower.reasons⟩

end Bounds

/-! ### Scales -/

/-- The scale of real numbers. -/
def Scale.numbers : Scale Number where
  exceeds value limit := .ok (value.exceeds limit)
  fallsBelow value limit := .ok (value.fallsBelow limit)
  write := Value.numberText
  identical := Number.identical

/-- Whether two values are one and the same, as far as that can be told. -/
def Value.identical : Value → Value → Bool
  | null, null => true
  | undefined, undefined => true
  | bool a, bool b => a = b
  | number a, number b => a.identical b
  | text s, text t => s = t && (s.toList = [] || (s.length = 1 && s.toList.all (·.toNat < 256)))
  | bytes x, bytes y => x = y && x.length ≤ 1
  | mode m, mode n => m = n
  | tuple [], tuple [] => true
  | _, _ => false

/-- The scale of all values that have an order. -/
def Scale.values : Scale Value where
  exceeds := Value.compare .greater
  fallsBelow := Value.compare .less
  write := Value.display
  identical := Value.identical

end ArgRules
