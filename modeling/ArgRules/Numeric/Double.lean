import ArgRules.Numeric.Extent

/-!
# Double-precision numbers

A number of double precision is not-a-number, an infinity of either sign, or a signed multiple
`significand * 2 ^ exponent` with at most 53 significant bits. Zero keeps its sign.

## The canonical-form contract

A finite number is stored in the one form in which its significand has all 53 bits, or its exponent
is the least one. So two numbers with the same sign and the same value are the same number, and
equality of the type is identity of the number.

## Rounding

`Double.ofRatio` rounds a quotient to the nearest number, a tie going to the even significand. A
quotient beyond the largest number becomes an infinity, one below the least becomes a zero; the sign
is kept in both.

## Main definitions

* `Double`, `Double.Canonical` — the numbers and their form
* `Double.extent` — the exact value
* `Double.ofRatio`, `Double.ofRat`, `Double.ofDecimal` — the nearest number to a given one
* `Double.integral?` — the whole number that a number is, if it is one
-/

namespace ArgRules

/-- The form of a finite number: the exponent is in range, and the significand has 53 bits unless
the exponent is the least one. -/
def Double.Canonical (significand : Nat) (exponent : Int) : Prop :=
  significand < Nat.pow 2 53 ∧ -1074 ≤ exponent ∧ exponent ≤ 971 ∧
    (Nat.pow 2 52 ≤ significand ∨ exponent = -1074)

instance (significand : Nat) (exponent : Int) : Decidable (Double.Canonical significand exponent) :=
  inferInstanceAs (Decidable (_ ∧ _ ∧ _ ∧ _))

/-- A number of double precision. -/
inductive Double
  | nan
  | infinite (negative : Bool)
  | finite (negative : Bool) (significand : Nat) (exponent : Int)
      (canonical : Double.Canonical significand exponent)
deriving DecidableEq

namespace Double

/-- Zero of either sign. -/
def zero (negative : Bool) : Double := finite negative 0 (-1074) (by decide)

instance : Inhabited Double := ⟨zero false⟩

/-! ### The value of a number -/

/-- A natural number times a power of two. -/
def scaled (significand : Nat) (exponent : Int) : Rat :=
  if 0 ≤ exponent then ((significand * Nat.pow 2 exponent.toNat : Nat) : Rat)
  else mkRat significand (Nat.pow 2 (-exponent).toNat)

/-- The exact value of a number. -/
def extent : Double → Extent
  | nan => .undefined
  | infinite true => .below
  | infinite false => .above
  | finite true m e _ => .exactly (-scaled m e)
  | finite false m e _ => .exactly (scaled m e)

/-- Whether the number is not-a-number. -/
def isNan : Double → Bool
  | nan => true
  | _ => false

@[simp] theorem extent_nan : nan.extent = .undefined := rfl

theorem isNan_iff {x : Double} : x.isNan = true ↔ x = nan := by cases x <;> simp [isNan]

/-- The whole number that a finite number is, if it has no fractional part. -/
def integral? (x : Double) : Option Int :=
  match x.extent with
  | .exactly q => if q.den = 1 then some q.num else none
  | _ => none

/-! ### Rounding -/

/-- A quotient rounded to the nearest natural number, a tie going to the even one. -/
def roundQuotient (num den : Nat) : Nat :=
  let quotient := num / den
  let twice := 2 * (num % den)
  if twice < den then quotient
  else if den < twice then quotient + 1
  else quotient + quotient % 2

/-- The quotient `num / den` divided by `2 ^ exponent`, as a pair again. -/
def rescale (num den : Nat) (exponent : Int) : Nat × Nat :=
  if 0 ≤ exponent then (num, den * Nat.pow 2 exponent.toNat)
  else (num * Nat.pow 2 (-exponent).toNat, den)

/-- The exponent at which a positive quotient has 53 bits before the point, or the least one. -/
def targetExponent (num den : Nat) : Int :=
  let low : Int := (num.log2 : Int) - den.log2 - 53
  let (n, d) := rescale num den low
  max (if n / d < Nat.pow 2 53 then low else low + 1) (-1074)

/-- A significand and an exponent put together; what is too large becomes an infinity. -/
def assemble (negative : Bool) (significand : Nat) (exponent : Int) : Double :=
  let (m, e) :=
    if significand = Nat.pow 2 53 then (Nat.pow 2 52, exponent + 1) else (significand, exponent)
  if h : Canonical m e then finite negative m e h else infinite negative

/-- The number nearest to the signed quotient `num / den`. -/
def ofRatio (negative : Bool) (num den : Nat) : Double :=
  if num = 0 ∨ den = 0 then zero negative
  else
    let exponent := targetExponent num den
    let (n, d) := rescale num den exponent
    assemble negative (roundQuotient n d) exponent

/-- The number nearest to a rational number. -/
def ofRat (q : Rat) : Double := ofRatio (q.num < 0) q.num.natAbs q.den

/-- The number nearest to `digits * 10 ^ exponent`. An exponent far out of range is decided by the
size alone, without computing the power. -/
def ofDecimal (negative : Bool) (digits : Nat) (exponent : Int) : Double :=
  if digits = 0 then zero negative
  else
    let size : Int := (Nat.toDigits 10 digits).length + exponent
    if 310 < size then infinite negative
    else if size < -330 then zero negative
    else if 0 ≤ exponent then ofRatio negative (digits * Nat.pow 10 exponent.toNat) 1
    else ofRatio negative digits (Nat.pow 10 (-exponent).toNat)

end Double

end ArgRules
