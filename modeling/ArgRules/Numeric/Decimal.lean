import ArgRules.Numeric.Reading

/-!
# Decimal numbers

A decimal number keeps its digits as they were given: a sign, a coefficient and a power of ten, so
that `1.10` and `1.1` are equal and yet have different texts. It may also be an infinity or a
not-a-number, the latter quiet or signalling, with digits of its own.

## Main definitions

* `Decimal` — the numbers
* `Decimal.text` — the text of a number
* `Decimal.ofText?` — the number of a text
* `Decimal.extent`, `Decimal.toDouble` — the exact value and the nearest double
-/

namespace ArgRules

/-- A decimal number. -/
inductive Decimal
  | finite (negative : Bool) (coefficient : Nat) (exponent : Int)
  | infinite (negative : Bool)
  | nan (negative : Bool) (signalling : Bool) (payload : Nat)
deriving DecidableEq

namespace Decimal

/-! ### Text -/

/-- The coefficient and exponent of a finite number, laid out. An exponent is written when the power
of ten is positive or when more than five zeros would follow the point. -/
def magnitude (coefficient : Nat) (exponent : Int) : List Char :=
  let digits := Nat.toDigits 10 coefficient
  let leading : Int := exponent + digits.length
  let point : Int := if exponent ≤ 0 ∧ -6 < leading then leading else 1
  let body :=
    if point ≤ 0 then '0' :: '.' :: (List.replicate (-point).toNat '0' ++ digits)
    else if digits.length ≤ point then digits ++ List.replicate (point - digits.length).toNat '0'
    else digits.take point.toNat ++ '.' :: digits.drop point.toNat
  if leading = point then body
  else
    let scale := leading - point
    body ++ 'E' :: (if scale < 0 then '-' else '+') :: Nat.toDigits 10 scale.natAbs

/-- The digits of a not-a-number; none when they are zero. -/
def payloadText (payload : Nat) : List Char :=
  if payload = 0 then [] else Nat.toDigits 10 payload

/-- The text of a number. -/
def text (d : Decimal) : String :=
  let sign (negative : Bool) (body : List Char) : String :=
    String.ofList (if negative then '-' :: body else body)
  match d with
  | finite negative coefficient exponent => sign negative (magnitude coefficient exponent)
  | infinite negative => sign negative "Infinity".toList
  | nan negative signalling payload =>
    sign negative ((if signalling then "sNaN".toList else "NaN".toList) ++ payloadText payload)

/-! ### Reading -/

/-- The words that stand for a number that is not finite. -/
def ofWord? (negative : Bool) (word : List Char) : Option Decimal :=
  let lowered := Numeral.lowered word
  let payload? (digits : List Char) : Option Nat :=
    if digits.all Text.isAsciiDigit then some (Numeral.value digits) else none
  if lowered = "inf".toList ∨ lowered = "infinity".toList then some (infinite negative)
  else if lowered.take 3 = "nan".toList then (payload? (lowered.drop 3)).map (nan negative false)
  else if lowered.take 4 = "snan".toList then (payload? (lowered.drop 4)).map (nan negative true)
  else none

/-- The number of a text; white space around it and underscores in it are ignored. -/
def ofText? (text : List Char) : Option Decimal :=
  let (negative, body) := Numeral.splitSign ((Text.trim text).filter (· ≠ '_'))
  match Numeral.splitMantissa? body with
  | some (digits, power, rest) =>
    (Numeral.readExponent? rest).map fun exponent => finite negative digits (power + exponent)
  | none => ofWord? negative body

/-! ### Value -/

/-- The exact value of a number. -/
def extent : Decimal → Extent
  | finite negative coefficient exponent =>
    let size : Rat :=
      if 0 ≤ exponent then ((coefficient * Nat.pow 10 exponent.toNat : Nat) : Rat)
      else mkRat coefficient (Nat.pow 10 (-exponent).toNat)
    .exactly (if negative then -size else size)
  | infinite true => .below
  | infinite false => .above
  | nan .. => .undefined

/-- The double nearest to a number; a signalling not-a-number has none. -/
def toDouble? : Decimal → Option Double
  | finite negative coefficient exponent => some (.ofDecimal negative coefficient exponent)
  | infinite negative => some (.infinite negative)
  | nan _ false _ => some .nan
  | nan _ true _ => none

/-- Whether the number counts as true: everything but zero does. -/
def isNonzero : Decimal → Bool
  | finite _ 0 _ => false
  | _ => true

/-- Whether the number is a signalling not-a-number. -/
def isSignalling : Decimal → Bool
  | nan _ true _ => true
  | _ => false

end Decimal

end ArgRules
