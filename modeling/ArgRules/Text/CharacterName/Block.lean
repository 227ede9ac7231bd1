/-!
# Blocks of character names

The names of consecutive code points share their beginnings, so a block of them is written down
compactly. A capital letter, a digit, a space or a hyphen is the next character of the name. A small
letter ends the name; the name of the next code point starts with the same characters but for some at
the end, none for `a`, one for `b`, and so on, and a plus sign takes away 26 more. A code point
without a name repeats the name before it.

## Main definitions

* `Text.CharacterName.Block` — the names of consecutive code points
* `Text.CharacterName.Block.find?` — the code point with a given name
-/

namespace ArgRules.Text.CharacterName

/-- The names of consecutive code points. -/
structure Block where
  /-- The first of the code points. -/
  first : Nat
  /-- The names, cut into pieces anywhere. -/
  pieces : List String

namespace Block

/-- Looks for a name, given from its end, in what is left of a block. The name that is being read is
given from its end as well. -/
def seek (target : List Char) (name : List Char) (code : Nat) : List Char → Option Nat
  | [] => if name = target then some code else none
  | c :: rest =>
    if 'a' ≤ c && c ≤ 'z' then
      if name = target then some code
      else seek target (name.drop (c.toNat - 'a'.toNat)) (code + 1) rest
    else if c = '+' then seek target (name.drop 26) code rest
    else seek target (c :: name) code rest

/-- The first code point with a given name. -/
def find? (block : Block) (name : List Char) : Option Nat :=
  seek name.reverse [] block.first (block.pieces.flatMap String.toList)

end Block

end ArgRules.Text.CharacterName
