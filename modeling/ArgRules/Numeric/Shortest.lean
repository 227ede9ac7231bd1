import ArgRules.Numeric.Double

/-!
# The shortest text of a number

A number of double precision is written with the fewest digits that read back as the same number,
and of those with the ones nearest to its value. The search is exact: for one digit, two digits and
so on it looks at the two neighbours of the value on the grid of that many digits.

Where the point goes and when an exponent is used is a `FloatLayout`, a small record, so that the
several texts of this library share one search.

## Main definitions

* `Double.shortestDigits` — the digits and the power of ten
* `FloatLayout`, `FloatLayout.write` — how digits are laid out
* `Double.text` — the text of a number on its own
-/

namespace ArgRules

namespace Double

/-! ### The digits -/

/-- The power of ten that bounds the positive quotient `num / den` from above most tightly. -/
def decimalSize (num den : Nat) : Int :=
  let estimate : Int := ((num.log2 : Int) - den.log2) * 30103 / 100000
  let bounds (size : Int) : Bool :=
    if 0 ≤ size then num < den * Nat.pow 10 size.toNat else num * Nat.pow 10 (-size).toNat < den
  (([estimate - 1, estimate, estimate + 1].find? bounds).getD (estimate + 2))

/-- Of the two neighbours of `num / den` on the grid of `10 ^ exponent`, the nearest one that reads
back as `x`; of two that are equally near, the even one. -/
def gridNeighbour? (x : Double) (num den : Nat) (exponent : Int) : Option Nat :=
  let (n, d) := if 0 ≤ exponent then (num, den * Nat.pow 10 exponent.toNat)
    else (num * Nat.pow 10 (-exponent).toNat, den)
  let low := n / d
  let twice := 2 * (n % d)
  let lowFirst := twice < d || (twice = d && low % 2 = 0)
  let candidates := if lowFirst then [low, low + 1] else [low + 1, low]
  candidates.find? fun digits => ofDecimal false digits exponent = x

/-- The first grid, starting with `count` digits, on which a neighbour reads back. -/
def searchGrids (x : Double) (num den : Nat) (size : Int) : Nat → Nat → Nat × Int
  | 0, count => ((gridNeighbour? x num den (size - count)).getD 0, size - count)
  | fuel + 1, count =>
    match gridNeighbour? x num den (size - count) with
    | some digits => (digits, size - count)
    | none => searchGrids x num den size fuel (count + 1)

/-- Moves the zeros at the end of a number into the power of ten. -/
def stripZeros : Nat → Nat → Int → Nat × Int
  | 0, digits, exponent => (digits, exponent)
  | fuel + 1, digits, exponent =>
    if digits ≠ 0 ∧ digits % 10 = 0 then stripZeros fuel (digits / 10) (exponent + 1)
    else (digits, exponent)

/-- The fewest digits, with their power of ten, that read back as the positive number
`significand * 2 ^ exponent`. Seventeen digits always suffice. -/
def shortestDigits (significand : Nat) (exponent : Int) : Nat × Int :=
  let (num, den) := if 0 ≤ exponent then (significand * Nat.pow 2 exponent.toNat, 1)
    else (significand, Nat.pow 2 (-exponent).toNat)
  let x := ofRatio false num den
  let (digits, power) := searchGrids x num den (decimalSize num den) 16 1
  stripZeros 20 digits power

end Double

/-! ### The layout -/

/-- How the digits of a number are laid out. -/
structure FloatLayout where
  /-- The least power of ten of the leading digit that is written without an exponent. -/
  positionalFrom : Int
  /-- The first power of ten of the leading digit that is written with an exponent. -/
  positionalBelow : Int
  /-- Whether a whole number that is written without an exponent ends in a point and a zero. -/
  wholeHasPoint : Bool

namespace FloatLayout

/-- The layout of a number on its own. -/
def standalone : FloatLayout := ⟨-4, 16, true⟩

/-- The layout of a part of a complex number. -/
def component : FloatLayout := ⟨-4, 16, false⟩

/-- The exponent with its sign and at least two digits. -/
def exponentText (exponent : Int) : List Char :=
  let digits := Nat.toDigits 10 exponent.natAbs
  'e' :: (if exponent < 0 then '-' else '+') ::
    (if digits.length < 2 then '0' :: digits else digits)

/-- The text of the positive number `digits * 10 ^ power`. -/
def write (layout : FloatLayout) (digits : Nat) (power : Int) : List Char :=
  let ds := Nat.toDigits 10 digits
  let leading : Int := ds.length + power - 1
  if layout.positionalFrom ≤ leading ∧ leading < layout.positionalBelow then
    if 0 ≤ power then
      ds ++ List.replicate power.toNat '0' ++ (if layout.wholeHasPoint then ['.', '0'] else [])
    else if 0 ≤ leading then
      ds.take (leading + 1).toNat ++ '.' :: ds.drop (leading + 1).toNat
    else
      '0' :: '.' :: (List.replicate (-leading - 1).toNat '0' ++ ds)
  else
    match ds with
    | [] => []
    | [d] => d :: exponentText leading
    | d :: rest => d :: '.' :: rest ++ exponentText leading

/-- The text of zero. -/
def zeroText (layout : FloatLayout) : List Char :=
  if layout.wholeHasPoint then ['0', '.', '0'] else ['0']

/-- The text of a number of double precision without its sign. -/
def magnitude (layout : FloatLayout) : Double → List Char
  | .nan => ['n', 'a', 'n']
  | .infinite _ => ['i', 'n', 'f']
  | .finite _ 0 _ _ => layout.zeroText
  | .finite _ significand exponent _ =>
    let (digits, power) := Double.shortestDigits significand exponent
    layout.write digits power

end FloatLayout

namespace Double

/-- Whether the number carries a minus sign; not-a-number never does. -/
def isNegative : Double → Bool
  | nan => false
  | infinite negative => negative
  | finite negative _ _ _ => negative

/-- The text of a number, as characters, in a given layout. -/
def layOut (layout : FloatLayout) (x : Double) : List Char :=
  if x.isNegative then '-' :: layout.magnitude x else layout.magnitude x

/-- The text of a number on its own. -/
def text (x : Double) : String := String.ofList (x.layOut .standalone)

end Double

end ArgRules
