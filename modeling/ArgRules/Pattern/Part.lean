import ArgRules.Pattern.Flags
import ArgRules.Pattern.Node

/-!
# Parts of patterns

A pattern is put together from parts. Along with the tree of a part goes its width, the least and
the greatest length of what it matches, because what is looked for behind a place must have one fixed
length.

## The width contract

Widths are capped, a least width one lower than a greatest width, so that two widths that are both
too great to be told apart never count as equal.

## The choice contract

Alternatives that start with the same test, of a character or a place, or with the same group once
more, share that start. If only tests of one character are left after that, and each of them says
which characters it admits, the choice is one set.

## Main definitions

* `Pattern.Scope` — what a part has to know about its surroundings
* `Pattern.Part` — a part with its width
* `Pattern.Part.row`, `Pattern.Part.choice`, `Pattern.Part.times` — parts of several parts
* `Pattern.Scope.set` — a set of characters as a part
-/

namespace ArgRules.Pattern

/-! ### Surroundings -/

/-- What a part has to know about its surroundings. -/
structure Scope where
  flags : Flags
  /-- Whether the pattern is one of bytes. -/
  bytes : Bool
  /-- Whether the part is a choice of the whole pattern rather than of a group. -/
  outermost : Bool

namespace Scope

/-- Whether named classes hold ASCII characters only. -/
def ascii (scope : Scope) : Bool := scope.bytes || scope.flags.ascii

/-- The case rule in force. -/
def caseRule (scope : Scope) : CaseRule :=
  if !scope.flags.ignoreCase then .exact
  else if scope.flags.locale then .locale
  else if scope.ascii then .ascii
  else .full

/-- The test of one character that is written in a scope. -/
def test (scope : Scope) (chars : Charset) : CharTest := ⟨chars, scope.caseRule, scope.ascii⟩

end Scope

/-! ### Widths -/

/-- The number of rounds that stands for no limit; it may not be written. -/
def roundLimit : Nat := Nat.pow 2 32 - 1

/-- A least width, or the greatest that is told apart. -/
def cappedLow (width : Nat) : Nat := min width (roundLimit - 1)

/-- A greatest width, or the greatest that is told apart. -/
def cappedHigh (width : Nat) : Nat := min width roundLimit

/-! ### Parts -/

/-- What a part is, as far as a repetition that follows it cares. -/
inductive Role
  | place
  | repetition
  | other
deriving DecidableEq

/-- A part that has been read. -/
structure Part where
  node : Node
  low : Nat
  high : Nat
  role : Role

/-- Whether a part is simple enough to be shared by alternatives. -/
def Node.isShareable : Node → Bool
  | char _ => true
  | anchor _ => true
  | again .. => true
  | _ => false

/-- What two or more rows have in common at their starts, and what is left of the rows. -/
def splitShared : List Node → List (List Node) → List Node × List (List Node)
  | [], others => ([], [] :: others)
  | node :: rest, others =>
    if node.isShareable && others.all (·.head? = some node) then
      let (shared, rows) := splitShared rest (others.map List.tail)
      (node :: shared, rows)
    else ([], (node :: rest) :: others)

/-- The members of the set that a row consists of, if it says which characters it admits. -/
def admitted? : List Node → Option (List Member)
  | [.char ⟨.only code, _, _⟩] => some [.one code]
  | [.char ⟨.set false members, _, _⟩] => some members
  | _ => none

/-- A choice between rows that are written in a scope. -/
def Scope.choiceNode (scope : Scope) (rows : List (List Node)) : Node :=
  match rows.mapM admitted? with
  | some members => .char (scope.test (.set false members.flatten.eraseDups))
  | none => .choice (rows.map .sequence)

namespace Part

/-- A part of a fixed width. -/
def fixed (node : Node) (width : Nat) : Part := ⟨node, width, width, .other⟩

/-- A test of a place. -/
def place (anchor : Anchor) : Part := ⟨.anchor anchor, 0, 0, .place⟩

/-- Several parts in a row. -/
def row (parts : List Part) : Part where
  node := .sequence (parts.flatMap (·.node.items))
  low := cappedLow (parts.foldr (fun part total => part.low + total) 0)
  high := cappedHigh (parts.foldr (fun part total => part.high + total) 0)
  role := .other

/-- A choice between parts that are written in a scope. -/
def choice (scope : Scope) (parts : List Part) : Part where
  node :=
    match parts.map (·.node.items) with
    | [] => .never
    | first :: others =>
      let (shared, rows) := splitShared first others
      .sequence (shared ++ [scope.choiceNode rows])
  low := (parts.map (·.low)).min?.getD 0
  high := (parts.map (·.high)).max?.getD 0
  role := .other

/-- A repetition of a part. -/
def times (part : Part) (low : Nat) (high : Option Nat) (greed : Greed) : Part where
  node := .times low high greed part.node
  low := cappedLow (part.low * low)
  high := cappedHigh (part.high * high.getD roundLimit)
  role := .repetition

end Part

namespace Scope

/-- A set of characters. A set of one character is that character. -/
def set (scope : Scope) (negated : Bool) (members : List Member) : Part :=
  let chars : Charset := match members.eraseDups, negated with
    | [.one code], false => .only code
    | [.one code], true => .allBut code
    | members, _ => .set negated members
  .fixed (.char (scope.test chars)) 1

/-- One character. -/
def one (scope : Scope) (code : Nat) : Part := scope.set false [.one code]

end Scope

end ArgRules.Pattern
