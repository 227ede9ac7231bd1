import ArgRules.Value.Basic

/-!
# Marks on what is kept

A value that is kept can be met again, and so can the numbers in it. When a value is put where it is
kept, its numbers are given marks, no two of them the same one. Numbers that exist only once are told
apart from others without a mark, so they never get one.

## Main definitions

* `Marking` — the next mark that has not been given, carried along
* `Boxed.mark`, `Value.mark` — a number, and all numbers in a value, with marks
-/

namespace ArgRules

/-- A computation that gives marks. The state is the next mark that has not been given. -/
abbrev Marking := StateM Nat

/-- Marks a box. One that has a mark keeps it. -/
def Boxed.mark {α : Type} (isShared : α → Bool) (boxed : Boxed α) : Marking (Boxed α) := do
  if isShared boxed.content || boxed.box.isSome then return boxed
  let mark ← getModify (· + 1)
  return ⟨boxed.content, some mark⟩

/-- Marks the limits of a rule on numbers. -/
def Constraint.mark : Constraint → Marking Constraint
  | integer low high autobound => do
    let isShared (n : Int) := (Amount.int n).isShared
    return integer (← low.mapM (·.mark isShared)) (← high.mapM (·.mark isShared)) autobound
  | number low high autobound => do
    let isShared (scalar : Scalar) := scalar.amount.isShared
    return number (← low.mapM (·.mark isShared)) (← high.mapM (·.mark isShared)) autobound
  | constraint => return constraint

namespace Value

mutual

/-- Marks all numbers in a value. -/
def mark : Value → Marking Value
  | number n => do return number (← Boxed.mark Amount.isShared n)
  | list items => do return list (← markItems items)
  | tuple items => do return tuple (← markItems items)
  | set items => do return set (← markItems items)
  | deque items => do return deque (← markItems items)
  | map entries => do return map (← markEntries entries)
  | frozenMap entries => do return frozenMap (← markEntries entries)
  | rule frame default => do
    return rule { frame with constraint := ← frame.constraint.mark } (← mark default)
  | object facets items => do return object facets (← markItems items)
  | value => return value

/-- Marks all numbers in several values. -/
def markItems : List Value → Marking (List Value)
  | [] => return []
  | item :: rest => do return (← mark item) :: (← markItems rest)

/-- Marks all numbers in the keys and the values of a map. -/
def markEntries : List (Value × Value) → Marking (List (Value × Value))
  | [] => return []
  | (key, value) :: rest => do return (← mark key, ← mark value) :: (← markEntries rest)

end

end Value

end ArgRules
