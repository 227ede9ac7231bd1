import ArgRules.Numeric.Decimal

/-!
# Real numbers

The real numbers that arguments and limits are made of: whole numbers of any size, numbers of double
precision, and fractions in lowest terms. They are compared by their exact values, whatever their
types.

## The box contract

Numbers are handed around in boxes, and two equal numbers need not be in the same box. Where a
number goes, its box goes with it. A number that is read or computed is in a box of its own, which
nothing else can refer to; such a box has no mark. Only two numbers that are equal can be one and the
same, and only if they are in one box that is marked, or if the number is one of those that exist
only once: the whole numbers from -5 to 256. Those are never given a mark.

## Main definitions

* `Boxed` — something in a box
* `Amount` — a real number of one of the three types
* `Number` — an amount in a box
* `Number.extent` — its exact value
* `Number.exceeds`, `Number.fallsBelow` — the comparisons with a limit
* `Number.isZero`, `Number.isNan`
* `Number.identical` — whether two numbers are one and the same
-/

namespace ArgRules

/-! ### Boxes -/

/-- Something in a box. The box has a mark if it can be met again. -/
structure Boxed (α : Type) where
  content : α
  box : Option Nat
deriving DecidableEq

/-- Something in a box of its own. -/
def Boxed.alone {α : Type} (content : α) : Boxed α := ⟨content, none⟩

/-! ### Numbers -/

/-- A real number as such. -/
inductive Amount
  | int (n : Int)
  | double (x : Double)
  | fraction (q : Rat)
deriving DecidableEq

namespace Amount

/-- The exact value of an amount. -/
def extent : Amount → Extent
  | int n => .exactly n
  | double x => x.extent
  | fraction q => .exactly q

/-- Whether an amount is not-a-number. -/
def isNan : Amount → Bool
  | double x => x.isNan
  | _ => false

/-- Whether an amount exists only once. -/
def isShared : Amount → Bool
  | int n => -5 ≤ n && n ≤ 256
  | _ => false

end Amount

/-- A real number. -/
abbrev Number := Boxed Amount

namespace Number

/-- A whole number in a box of its own. -/
abbrev int (n : Int) : Number := ⟨.int n, none⟩

/-- A number of double precision in a box of its own. -/
abbrev double (x : Double) : Number := ⟨.double x, none⟩

/-- A fraction in a box of its own. -/
abbrev fraction (q : Rat) : Number := ⟨.fraction q, none⟩

/-- The exact value of a number. -/
def extent (n : Number) : Extent := n.content.extent

/-- Whether a number is strictly greater than a limit. -/
def exceeds (value limit : Number) : Bool := limit.extent.lt value.extent

/-- Whether a number is strictly less than a limit. -/
def fallsBelow (value limit : Number) : Bool := value.extent.lt limit.extent

/-- Whether a number is zero, of either sign. -/
def isZero (n : Number) : Bool := n.extent.isZero

/-- Whether a number is not-a-number. -/
def isNan (n : Number) : Bool := n.content.isNan

/-- Whether two numbers are one and the same. -/
def identical (a b : Number) : Bool := a = b && (a.content.isShared || a.box.isSome)

@[simp] theorem exceeds_self (n : Number) : n.exceeds n = false := by simp [exceeds]

@[simp] theorem fallsBelow_self (n : Number) : n.fallsBelow n = false := by simp [fallsBelow]

theorem exceeds_eq_fallsBelow (a b : Number) : a.exceeds b = b.fallsBelow a := rfl

@[simp] theorem isZero_int (n : Int) : (int n).isZero = decide (n = 0) := by
  simp [isZero, extent, Amount.extent, Extent.isZero]

/-- **Only equal numbers are one and the same.** -/
theorem eq_of_identical {a b : Number} (h : a.identical b = true) : a = b := by
  rw [identical, Bool.and_eq_true, decide_eq_true_iff] at h
  exact h.1

end Number

end ArgRules
