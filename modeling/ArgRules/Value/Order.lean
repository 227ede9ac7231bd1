import ArgRules.Value.Equality

/-!
# The order of values

Numbers are ordered by their exact values, texts and bytes by their characters, containers of one
type by the first items that differ, and sets by inclusion. Other values have no order, and asking
for it is a fault.

## The read-only map contract

A read-only map is compared as the map that it shows. When it stands on the right, the comparison is
turned round first, and a fault tells of the comparison as it was made.

## Main definitions

* `Value.compare` — whether one value is less, or greater, than another
-/

namespace ArgRules.Value

/-- Whether a value is a decimal number. -/
def isDecimal : Value → Bool
  | decimal _ => true
  | _ => false

/-- The place of a value on the line of numbers; complex numbers have none. -/
def rank? : Value → Option Extent
  | complex .. => none
  | value => value.extent?

/-- A comparison of two extents. -/
def Comparison.ofExtents : Comparison → Extent → Extent → Bool
  | .less, a, b => a.lt b
  | .greater, a, b => b.lt a

/-- A comparison of two lengths. -/
def Comparison.ofLengths : Comparison → Nat → Nat → Bool
  | .less, m, n => m < n
  | .greater, m, n => n < m

/-- The name of the type that a value is compared as. -/
def comparedName : Value → String
  | frozenMap entries => (map entries).qualifiedName
  | value => value.qualifiedName

/-- The fault of comparing two values that have no order. -/
def incomparable (comparison : Comparison) (a b : Value) : Fault :=
  match b with
  | frozenMap _ => .unordered comparison.flip b.comparedName a.comparedName
  | _ => .unordered comparison a.comparedName b.comparedName

/-- The order of values that hold no others. -/
def compareAtoms (comparison : Comparison) (a b : Value) : Except Fault Bool :=
  match a.rank?, b.rank?, a.asText?, b.asText?, a.asBytes?, b.asBytes? with
  | some x, some y, _, _, _, _ =>
    if (a.isDecimal || b.isDecimal) && (x = .undefined || y = .undefined) then
      .error .unorderedDecimal
    else .ok (Comparison.ofExtents comparison x y)
  | _, _, some s, some t, _, _ =>
    .ok (match comparison with | .less => s < t | .greater => t < s)
  | _, _, _, _, some x, some y =>
    .ok (match comparison with | .less => x < y | .greater => y < x)
  | _, _, _, _, _, _ => .error (incomparable comparison a b)

/-- Whether every item of one set is an item of the other. -/
def isSubset (xs ys : List Value) : Bool := xs.all fun x => ys.any fun y => same x y

mutual

/-- Whether one value is less, or greater, than another. -/
def compare (comparison : Comparison) : Value → Value → Except Fault Bool
  | list xs, list ys => compareItems comparison xs ys
  | tuple xs, tuple ys => compareItems comparison xs ys
  | deque xs, deque ys => compareItems comparison xs ys
  | set xs, set ys =>
    .ok (match comparison with
      | .less => isSubset xs ys && !isSubset ys xs
      | .greater => isSubset ys xs && !isSubset xs ys)
  | a, b => compareAtoms comparison a b

/-- The order of items, decided by the first that differ, or else by their number. -/
def compareItems (comparison : Comparison) : List Value → List Value → Except Fault Bool
  | [], ys => .ok (Comparison.ofLengths comparison 0 ys.length)
  | _ :: xs, [] => .ok (Comparison.ofLengths comparison (xs.length + 1) 0)
  | x :: xs, y :: ys =>
    if same x y then compareItems comparison xs ys else compare comparison x y

end

end ArgRules.Value
