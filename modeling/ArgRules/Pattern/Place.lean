import ArgRules.Pattern.Node

/-!
# Places in a text

A pattern is matched at a place between two characters of a text. A place knows what precedes it,
nearest first, and what follows, so that one step in either direction costs nothing.

## Main definitions

* `Pattern.Place` — a place in a text
* `Pattern.Place.step?`, `Pattern.Place.back?` — the places around it
* `Pattern.Place.pastRun` — the place behind a run of characters
* `Pattern.Anchor.holds` — whether an anchor holds at a place
-/

namespace ArgRules.Pattern

/-- A place in a text: what precedes it, nearest first, and what follows. -/
structure Place where
  before : List Char
  after : List Char
  /-- The number of characters before the place. -/
  position : Nat

namespace Place

/-- The start of a text. -/
def start (text : List Char) : Place := ⟨[], text, 0⟩

/-- One character further. -/
def step? (p : Place) : Option (Char × Place) :=
  match p.after with
  | [] => none
  | c :: rest => some (c, ⟨c :: p.before, rest, p.position + 1⟩)

/-- The place a number of characters back. -/
def back? : Nat → Place → Option Place
  | 0, p => some p
  | n + 1, p =>
    match p.before with
    | [] => none
    | c :: rest => back? n ⟨rest, c :: p.after, p.position - 1⟩

/-- Whether at least `n` characters follow. -/
def hasAhead (n : Nat) (p : Place) : Bool := (p.after.take n).length = n

/-- Whether the next character is one that a test accepts. -/
def sees (accepts : Char → Bool) (p : Place) : Bool := p.after.head?.any accepts

/-- The place behind the characters that follow, as many as are accepted and within the limit. -/
def pastRun (accepts : Char → Bool) (limit : Option Nat) (before : List Char) :
    List Char → Nat → Place
  | [], position => ⟨before, [], position⟩
  | c :: rest, position =>
    if limit ≠ some 0 && accepts c then
      pastRun accepts (limit.map (· - 1)) (c :: before) rest (position + 1)
    else ⟨before, c :: rest, position⟩

/-- Reads a given text off the front. -/
def expect? (rule : CaseRule) : List Char → Place → Option Place
  | [], p => some p
  | c :: rest, p =>
    match p.step? with
    | some (d, next) => if rule.matchesAgain c d then expect? rule rest next else none
    | none => none

/-- The text between a place and a later one. -/
def textUpTo (p later : Place) : List Char := p.after.take (later.position - p.position)

end Place

/-- Whether an anchor holds at a place. -/
def Anchor.holds (p : Place) : Anchor → Bool
  | textStart => p.before.isEmpty
  | lineStart => p.before.isEmpty || p.before.head? = some '\n'
  | textEnd => p.after.isEmpty
  | lastLineEnd => p.after.isEmpty || p.after = ['\n']
  | lineEnd => p.after.isEmpty || p.after.head? = some '\n'
  | boundary ascii => wordBefore ascii != wordAfter ascii
  | interior ascii =>
    !(p.before.isEmpty && p.after.isEmpty) && wordBefore ascii == wordAfter ascii
where
  wordBefore (ascii : Bool) : Bool := p.before.head?.any (Category.word.holds ascii)
  wordAfter (ascii : Bool) : Bool := p.after.head?.any (Category.word.holds ascii)

end ArgRules.Pattern
