/-!
# Extents of numbers

Numbers of different types are compared by what they stand for: a rational number, one of the two
infinities, or nothing at all. That common ground is an `Extent`, and the comparison is exact, so a
large whole number is never rounded on its way to a comparison.

## The order contract

An undefined extent is neither below, nor equal to, nor above anything, itself included. All other
extents are ordered in the usual way.

## Main definitions

* `Extent` — a point of the extended rational line, or undefined
* `Extent.lt`, `Extent.same`, `Extent.isZero` — the comparisons
-/

namespace ArgRules

/-- What a number stands for. -/
inductive Extent
  | undefined
  | below
  | exactly (q : Rat)
  | above
deriving DecidableEq

namespace Extent

/-- Strictly less; false as soon as one side is undefined. -/
def lt : Extent → Extent → Bool
  | undefined, _ => false
  | _, undefined => false
  | below, below => false
  | below, _ => true
  | exactly a, exactly b => a < b
  | exactly _, above => true
  | _, _ => false

/-- Equal in extent; an undefined extent equals nothing. -/
def same : Extent → Extent → Bool
  | below, below => true
  | above, above => true
  | exactly a, exactly b => a = b
  | _, _ => false

/-- Whether the extent is the number zero. -/
def isZero : Extent → Bool
  | exactly q => q = 0
  | _ => false

@[simp] theorem lt_undefined_left (e : Extent) : lt undefined e = false := by cases e <;> rfl

@[simp] theorem lt_undefined_right (e : Extent) : lt e undefined = false := by cases e <;> rfl

@[simp] theorem lt_exactly (a b : Rat) : lt (exactly a) (exactly b) = decide (a < b) := rfl

@[simp] theorem lt_irrefl (e : Extent) : lt e e = false := by
  cases e <;> simp [lt]

@[simp] theorem same_exactly (a b : Rat) : same (exactly a) (exactly b) = decide (a = b) := rfl

end Extent

end ArgRules
