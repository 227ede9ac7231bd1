import ArgRules.Value.Basic

/-!
# Equality of values

Two values are equal when they stand for the same thing: numbers of any types by their exact values,
the two truth values being the numbers zero and one; texts and the members of modes by their
characters; containers of one type by their items. Not-a-number equals nothing, and neither does an
object or an element of a drawing, each of which is only itself. Rules of one kind are equal when
their fields are, whether the fields were given or not.

The keys of a map are compared in this way. Some values cannot be keys at all, namely those that can
be changed.

## Main definitions

* `Value.same` — equality, also available as `==`
* `Value.checkKey` — whether a value can be a key
* `Value.extent?` — the number that a value stands for
-/

namespace ArgRules.Value

/-! ### Numbers among the values -/

/-- The number that a value stands for, if it stands for one. -/
def extent? : Value → Option Extent
  | bool b => some (.exactly (if b then 1 else 0))
  | number n => some n.extent
  | decimal d => some d.extent
  | complex re im => if im.extent.isZero then some re.extent else none
  | _ => none

/-- The bytes that a value consists of. -/
def asBytes? : Value → Option (List UInt8)
  | bytes data => some data
  | byteArray data => some data
  | _ => none

/-- The number of items of a range. -/
def rangeLength (start stop step : Int) : Nat :=
  if 0 < step then ((stop - start + step - 1) / step).toNat
  else if step < 0 then ((start - stop - step - 1) / (-step)).toNat
  else 0

/-- Equality of values that hold no others. -/
def sameAtom (a b : Value) : Bool :=
  match a, b with
  | null, null => true
  | undefined, undefined => true
  | pattern p, pattern q => p.source = q.source && p.flags = q.flags
  | function f, function g => f = g
  | type t, type u => t = u
  | complex re im, complex re' im' => re.extent.same re'.extent && im.extent.same im'.extent
  | range start stop step, range start' stop' step' =>
    let length := rangeLength start stop step
    length = rangeLength start' stop' step' &&
      (length = 0 || (start = start' && (length = 1 || step = step')))
  | a, b =>
    match a.asText?, b.asText? with
    | some s, some t => s = t
    | _, _ =>
      match a.extent?, b.extent? with
      | some x, some y => x.same y
      | _, _ =>
        match a.asBytes?, b.asBytes? with
        | some x, some y => x = y
        | _, _ => false

/-- Equality of bounds on whole numbers. -/
def sameBound : Option Bound → Option Bound → Bool
  | none, none => true
  | some a, some b => a.content = b.content
  | _, _ => false

/-- Equality of limits, by their exact values. -/
def sameLimit : Option Limit → Option Limit → Bool
  | none, none => true
  | some a, some b => a.toNumber.extent.same b.toNumber.extent
  | _, _ => false

/-- Equality of constraints. -/
def sameConstraint : Constraint → Constraint → Bool
  | .integer low high moved, .integer low' high' moved' =>
    sameBound low low' && sameBound high high' && moved = moved'
  | .number low high moved, .number low' high' moved' =>
    sameLimit low low' && sameLimit high high' && moved = moved'
  | a, b => a = b

/-- Equality of rules apart from their defaults. -/
def sameFrame (f g : Rule.Frame) : Bool :=
  f.isOptional = g.isOptional && f.allowFalsey = g.allowFalsey &&
    sameConstraint f.constraint g.constraint

/-! ### Equality -/

mutual

/-- Equality of values. -/
def same : Value → Value → Bool
  | list xs, list ys => sameItems xs ys
  | tuple xs, tuple ys => sameItems xs ys
  | set xs, set ys => sameItems xs ys
  | deque xs, deque ys => sameItems xs ys
  | map xs, other =>
    match other.asMap? with
    | some ys => xs.length = ys.length && sameEntries xs ys
    | none => false
  | frozenMap xs, other =>
    match other.asMap? with
    | some ys => xs.length = ys.length && sameEntries xs ys
    | none => false
  | rule f d, rule g e => sameFrame f g && same d e
  | a, b => sameAtom a b

/-- Equality of the items of two containers, one by one. -/
def sameItems : List Value → List Value → Bool
  | [], [] => true
  | x :: xs, y :: ys => same x y && sameItems xs ys
  | _, _ => false

/-- Whether every entry of one map is an entry of the other. -/
def sameEntries : List (Value × Value) → List (Value × Value) → Bool
  | [], _ => true
  | (k, v) :: rest, others =>
    (others.any fun entry => same k entry.1 && same v entry.2) && sameEntries rest others

end

instance : BEq Value := ⟨same⟩

@[simp] theorem same_text (s t : String) : same (text s) (text t) = decide (s = t) := by
  simp [same, sameAtom, asText?]

theorem beq_text (s t : String) : (text s == text t) = decide (s = t) := same_text s t

/-! ### Keys -/

mutual

/-- Whether a value can be a key. -/
def checkKey : Value → Except Fault Unit
  | tuple items => checkKeys items
  | decimal d => if d.isSignalling then .error .signallingKey else .ok ()
  | byteArray data => .error (.noKey (byteArray data).qualifiedName)
  | list items => .error (.noKey (list items).qualifiedName)
  | set items => .error (.noKey (set items).qualifiedName)
  | deque items => .error (.noKey (deque items).qualifiedName)
  | map entries => .error (.noKey (map entries).qualifiedName)
  | frozenMap entries => .error (.noKey (frozenMap entries).qualifiedName)
  | rule frame default => .error (.noKey (rule frame default).qualifiedName)
  | _ => .ok ()

/-- Whether all items can be keys. -/
def checkKeys : List Value → Except Fault Unit
  | [] => .ok ()
  | item :: rest => do
    checkKey item
    checkKeys rest

end

@[simp] theorem checkKey_text (s : String) : checkKey (text s) = .ok () := by simp [checkKey]

end ArgRules.Value
