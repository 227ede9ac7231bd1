import ArgRules.Pattern.Charset

/-!
# Patterns as trees

A pattern describes a set of texts. Its tree has one node per operator, with every option already
resolved: a character test knows whether case matters and which letters count, an anchor knows
whether lines count.

## Main definitions

* `Pattern.Anchor` — a test of a place between characters
* `Pattern.Node` — the tree
* `Pattern.Node.sequence`, `Pattern.Node.choice` — several parts in a row, or to choose from
* `Pattern.Node.lead` — what a part starts with
* `Pattern.Node.starts?` — the characters that a match can start with
-/

namespace ArgRules.Pattern

/-! ### Tests of a place -/

/-- A test of a place in the text. -/
inductive Anchor
  /-- The start of the text. -/
  | textStart
  /-- The start of the text or of a line. -/
  | lineStart
  /-- The end of the text. -/
  | textEnd
  /-- The end of the text, or the place before a line feed that ends it. -/
  | lastLineEnd
  /-- The end of the text or of a line. -/
  | lineEnd
  /-- A place with a word character on exactly one side; never in an empty text. -/
  | boundary (ascii : Bool)
  /-- A place with a word character on both sides or on none; never in an empty text. -/
  | interior (ascii : Bool)
deriving DecidableEq

/-! ### The tree -/

/-- How a repetition chooses its number of rounds. -/
inductive Greed
  /-- As many as possible, giving rounds back when the rest fails. -/
  | greedy
  /-- As few as possible, taking more when the rest fails. -/
  | reluctant
  /-- As many as possible, giving none back. -/
  | possessive
deriving DecidableEq

/-- A pattern as a tree. -/
inductive Node
  | empty
  /-- Nothing matches; the end of a list of alternatives. -/
  | never
  | char (test : CharTest)
  | anchor (place : Anchor)
  | seq (first second : Node)
  | alt (first second : Node)
  /-- A part whose matched text is remembered under a number, which is not zero. -/
  | group (index : Nat) (body : Node)
  /-- A part with options of its own. -/
  | scope (body : Node)
  /-- The text remembered under a number, once more. -/
  | again (index : Nat) (rule : CaseRule)
  /-- One of two parts, as a number has a text or not. -/
  | ifGroup (index : Nat) (yes no : Node)
  /-- What follows a place that is the given length back matches (or does not). -/
  | look (back : Nat) (negated : Bool) (body : Node)
  /-- A part that is not reconsidered once it has matched. -/
  | atomic (body : Node)
  | times (low : Nat) (high : Option Nat) (greed : Greed) (body : Node)
deriving DecidableEq

namespace Node

/-- Several parts in a row. -/
def sequence : List Node → Node
  | [] => empty
  | [node] => node
  | node :: rest => seq node (sequence rest)

/-- A choice between several parts. -/
def choice : List Node → Node
  | [] => never
  | node :: rest => alt node (choice rest)

/-- A fixed text. -/
def word (text : String) : Node := sequence (text.toList.map fun c => char (.single c))

/-- The parts that stand in a row. -/
def items : Node → List Node
  | empty => []
  | seq first second => first.items ++ second.items
  | node => [node]

/-! ### The start of a part -/

/-- What a part starts with. -/
inductive Lead
  /-- The part has nothing in it. -/
  | nothing
  | char (test : CharTest)
  | other
deriving DecidableEq

/-- What a part starts with. -/
def lead : Node → Lead
  | empty => .nothing
  | char test => .char test
  | seq first second =>
    match first.lead with
    | .nothing => second.lead
    | found => found
  | scope body => body.lead
  | _ => .other

/-- The test that a part consists of, if it is a test of one character. -/
def unit? : Node → Option CharTest
  | char test => some test
  | scope body => body.unit?
  | _ => none

/-- Whether a part starts with a character as it is, groups being looked into; `none` if it is not
known what follows, because there is nothing in the part. -/
def startsLiterally? : Node → Option Bool
  | empty => none
  | char test => some test.isLiteral
  | seq first second => first.startsLiterally? <|> second.startsLiterally?
  | group _ body => body.startsLiterally?
  | scope body => body.startsLiterally?
  | _ => some false

/-- The members that the alternatives of a choice start with, if each starts with a character as it
is. -/
def literalStarts? : Node → Option (List Member)
  | alt first rest =>
    match first.items.head? with
    | some (char ⟨.only code, rule, _⟩) =>
      if CharTest.isPlainCode rule code then (literalStarts? rest).map (.one code :: ·) else none
    | _ => none
  | _ => some []

/-- The characters that a match can start with, if the part starts with a set or a choice whose
letters have no other forms. Named classes are left as they are written. -/
def starts? : Node → Option Charset
  | char test =>
    match test.chars with
    | .set negated members =>
      if test.rule ≠ .locale && !members.any (·.isCased test.rule) then
        some (.set negated members)
      else none
    | _ => none
  | alt first rest => (alt first rest).literalStarts?.map (.set false ·)
  | seq first _ => first.starts?
  | group _ body => body.starts?
  | scope body => body.starts?
  | _ => none

end Node

end ArgRules.Pattern
