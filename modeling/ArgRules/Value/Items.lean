import ArgRules.Value.Equality

/-!
# Lengths, items and truth of values

What a value answers when it is asked for its length, for its items one by one, or whether it counts
as true. Objects answer by their features and may refuse.

## Main definitions

* `Value.length?` — the length of a value that has one
* `Value.itemCount` — its number of items, the fields of an object standing in
* `Value.listing`, `Value.items` — its items, with and without the end
* `Value.truth` — whether it counts as true
* `Value.ruleFields` — the fields of a rule as values
-/

namespace ArgRules.Value

/-! ### The fields of a rule -/

/-- A bound on a length as a value. -/
def ofLength : Option Int → Value
  | some n => int n
  | none => null

/-- A bound on a whole number as a value. -/
def ofBound : Option Bound → Value
  | some bound => number bound.toNumber
  | none => null

/-- A limit as a value. -/
def ofLimit : Option Limit → Value
  | some limit => number limit.toNumber
  | none => null

/-- The fields of a constraint as values. -/
def constraintFields : Constraint → List (Field × Value)
  | .array allowEmpty low high =>
    [(.allowEmpty, bool allowEmpty), (.minLength, ofLength low), (.maxLength, ofLength high)]
  | .map allowEmpty => [(.allowEmpty, bool allowEmpty)]
  | .integer low high autobound =>
    [(.minInt, ofBound low), (.maxInt, ofBound high), (.autobound, bool autobound)]
  | .number low high autobound =>
    [(.minNum, ofLimit low), (.maxNum, ofLimit high), (.autobound, bool autobound)]
  | .string allowEmpty filter low high =>
    [(.allowEmpty, bool allowEmpty), (.filterPattern, (filter.map pattern).getD null),
      (.minLength, ofLength low), (.maxLength, ofLength high)]
  | _ => []

/-- The fields of a rule as values, in order. -/
def ruleFields (frame : Rule.Frame) (default : Value) : List (Field × Value) :=
  let kind := match frame.constraint.kind? with
    | some kind => [(Field.kind, text kind.name)]
    | none => []
  [(Field.isOptional, bool frame.isOptional), (Field.default, default),
    (Field.allowFalsey, bool frame.allowFalsey)] ++ kind ++ constraintFields frame.constraint

/-! ### Lengths -/

/-- The greatest length. -/
def lengthLimit : Nat := Nat.pow 2 63 - 1

/-- The length that an object answers; none if it has no length. -/
def claimedLength? (facets : Facets) : Option (Except Fault Nat) :=
  match facets.length with
  | some (.claimed n) =>
    if n < 0 then some (.error .negativeLength)
    else if lengthLimit < n.toNat then some (.error .lengthTooLarge)
    else some (.ok n.toNat)
  | some (.refused asType) => some (.error (.lengthRefused asType))
  | none => none

/-- The length of a value; none if it has no length. -/
def length? : Value → Option (Except Fault Nat)
  | text s => some (.ok s.length)
  | mode m => some (.ok m.name.length)
  | bytes data => some (.ok data.length)
  | byteArray data => some (.ok data.length)
  | list items => some (.ok items.length)
  | tuple items => some (.ok items.length)
  | set items => some (.ok items.length)
  | deque items => some (.ok items.length)
  | range start stop step =>
    let length := rangeLength start stop step
    some (if lengthLimit < length then .error .rangeTooLong else .ok length)
  | map entries => some (.ok entries.length)
  | frozenMap entries => some (.ok entries.length)
  | element _ children => some (.ok children)
  | object facets _ => claimedLength? facets
  | _ => none

/-- The number of a value's own fields. -/
def fieldCount : Value → Nat
  | rule frame default => (ruleFields frame default).length
  | object facets _ => (facets.fields.getD []).length
  | _ => 0

/-- The number of items of a value. A value without a length, and one that says so itself, has as
many items as fields of its own. -/
def itemCount (value : Value) : Except Fault Nat :=
  match value.length? with
  | none | some (.error (.lengthRefused true)) => .ok value.fieldCount
  | some answer => answer

/-! ### Truth -/

/-- Whether a value counts as true. Zero of any type, null, the undefined mark and whatever is empty
count as false. -/
def truth : Value → Except Fault Bool
  | null | undefined => .ok false
  | bool b => .ok b
  | number n => .ok !n.isZero
  | decimal d => .ok d.isNonzero
  | complex re im => .ok !(re.extent.isZero && im.extent.isZero)
  | range start stop step => .ok (rangeLength start stop step ≠ 0)
  | value =>
    match value.length? with
    | none => .ok true
    | some answer => answer.map (· ≠ 0)

@[simp] theorem truth_text (s : String) : truth (text s) = .ok (decide (s.length ≠ 0)) := rfl

@[simp] theorem truth_bool (b : Bool) : truth (bool b) = .ok b := rfl

@[simp] theorem truth_null : truth null = .ok false := rfl

/-! ### Items -/

/-- What comes out when a value is gone through: the items one by one, and how they end. -/
structure Listing where
  items : List Value
  ending : Except Fault Unit

namespace Listing

/-- Items that come to an end. -/
def ended (items : List Value) : Listing := ⟨items, .ok ()⟩

/-- The items that an object hands out. -/
def ofObject (facets : Facets) (items : List Value) : Listing :=
  match facets.item with
  | some .ended => ⟨items, .ok ()⟩
  | some .refused => ⟨items, .error (.itemRefused items.length)⟩
  | some .endless => ⟨items, .error .endlessItems⟩
  | none => ⟨[], .error (.noItems (object facets items).qualifiedName)⟩

end Listing

/-- The items of a value one by one, and how they end. The items of a map are its keys, those of a
rule its fields as pairs. -/
def listing : Value → Listing
  | text s => .ended (s.toList.map fun c => text (String.singleton c))
  | mode m => .ended (m.name.toList.map fun c => text (String.singleton c))
  | bytes data => .ended (data.map fun b => int b.toNat)
  | byteArray data => .ended (data.map fun b => int b.toNat)
  | list items => .ended items
  | tuple items => .ended items
  | set items => .ended items
  | deque items => .ended items
  | range start stop step =>
    .ended ((List.range (rangeLength start stop step)).map fun (i : Nat) => int (start + step * i))
  | map entries => .ended (entries.map (·.1))
  | frozenMap entries => .ended (entries.map (·.1))
  | element name children => .ended (List.replicate children (element name 0))
  | rule frame default =>
    .ended ((ruleFields frame default).map fun (field, value) => tuple [text field.name, value])
  | object facets items => .ofObject facets items
  | value => ⟨[], .error (.noItems value.qualifiedName)⟩

/-- All items of a value, if they come to an end. -/
def items (value : Value) : Except Fault (List Value) := do
  value.listing.ending
  return value.listing.items

@[simp] theorem items_list (values : List Value) : items (list values) = .ok values := rfl

end ArgRules.Value
