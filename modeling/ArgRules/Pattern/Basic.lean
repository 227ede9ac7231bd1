import ArgRules.Pattern.Matcher
import ArgRules.Pattern.Parser
import ArgRules.Text.Quoted

/-!
# Patterns

A pattern is a source, a text or a string of bytes, together with its options and the tree that was
read from it. A pattern of one kind is never applied to the other.

## The search contract

A search tries one place after the other. A text that is shorter than the least length of a match is
not searched at all. Otherwise a place is tried only if it can be told that a match may start there:
by the number of characters behind it, or, if the pattern starts with a set, by the next character.
A search that succeeds with a remembered text that ends before it starts is an error.

## Main definitions

* `Pattern`, `Pattern.Source` — the patterns
* `Pattern.compile` — the pattern of a source
* `Pattern.search` — whether a pattern matches anywhere in a text
* `Pattern.described` — the text that shows a pattern
-/

namespace ArgRules

/-- What a pattern was written as. -/
inductive Pattern.Source
  | text (chars : String)
  | bytes (data : List UInt8)
deriving DecidableEq

/-- A pattern that has been read. -/
structure Pattern where
  source : Pattern.Source
  flags : Pattern.Flags
  node : Pattern.Node
  /-- The least length of a match. -/
  least : Nat
deriving DecidableEq

namespace Pattern

/-- A string of bytes, each as the character of its code. -/
def characters (data : List UInt8) : List Char := data.map fun b => Char.ofNat b.toNat

/-- The characters that a source consists of. -/
def Source.characters : Source → List Char
  | text s => s.toList
  | bytes data => Pattern.characters data

/-- Whether a source is one of bytes. -/
def Source.isBytes : Source → Bool
  | text _ => false
  | bytes _ => true

/-- The pattern that a source stands for under the given options. -/
def compile (source : Source) (flags : Flags) : Except ParseError Pattern := do
  let (flags, part) ← parse source.isBytes source.characters flags
  return ⟨source, flags, part.node, part.low⟩

/-! ### Searching -/

/-- Why a search gives no answer. -/
inductive SearchError
  /-- A remembered text ends before it starts. -/
  | crossedGroup
deriving DecidableEq

/-- Whether a search looks at the start of the pattern before it tries a place. -/
def looksAhead (pattern : Pattern) : Bool :=
  !(pattern.flags.ignoreCase && pattern.flags.locale)

/-- The test that the next character has to pass for a place to be tried. Its named classes are those
of the whole pattern. -/
def firstTest? (pattern : Pattern) : Option CharTest :=
  if pattern.looksAhead && pattern.node.startsLiterally? ≠ some true then
    pattern.node.starts?.map (⟨·, .exact, pattern.source.isBytes || pattern.flags.ascii⟩)
  else none

/-- Whether a place may be tried. -/
def mayStart (pattern : Pattern) (p : Place) : Bool :=
  pattern.firstTest?.all fun test => p.sees test.accepts

/-- The last place that is tried in a text of the given length. -/
def lastStart (pattern : Pattern) (length : Nat) : Nat :=
  if pattern.firstTest?.isSome ||
      (pattern.looksAhead && pattern.node.startsLiterally? = some true) then length
  else length - (pattern.least - 1)

/-- The first match from a place on, of which a number of places are left to be tried. -/
def firstMatch? (pattern : Pattern) (length : Nat) : Nat → Place → Option Scan
  | 0, p => here? p
  | left + 1, p =>
    match here? p, p.step? with
    | some scan, _ => some scan
    | none, some (_, q) => firstMatch? pattern length left q
    | none, none => none
where
  here? (p : Place) : Option Scan :=
    if pattern.mayStart p then
      match pattern.node.attemptAt length p with
      | (true, scan) => some scan
      | (false, _) => none
    else none

/-- Whether the pattern matches anywhere in a text. -/
def search (pattern : Pattern) (text : List Char) : Except SearchError Bool :=
  let length := text.length
  if length < pattern.least then .ok false
  else
    match pattern.firstMatch? length (pattern.lastStart length) (.start text) with
    | some scan => if scan.hasCrossedGroup then .error .crossedGroup else .ok true
    | none => .ok false

/-- A possessive repetition goes on from where its failed round gave up, here behind the text. -/
example : ((compile (.text "^(?:(?!_x).)*+_x$") .empty).toOption.map
    fun p => (p.search "a_x".toList).toOption) = some (some false) := by
  decide +kernel

/-! ### Showing patterns -/

/-- The source as it stands in a message: a text as it is, bytes in quotes. -/
def sourceText (pattern : Pattern) : String :=
  match pattern.source with
  | .text s => s
  | .bytes data => String.ofList (Text.quoteBytes data)

/-- The names of the options that are set. -/
def Flags.names (flags : Flags) : List String :=
  [(flags.template, "TEMPLATE"), (flags.ignoreCase, "IGNORECASE"), (flags.locale, "LOCALE"),
    (flags.multiline, "MULTILINE"), (flags.dotAll, "DOTALL"), (flags.verbose, "VERBOSE"),
    (flags.ascii, "ASCII")].filterMap fun (isSet, name) => if isSet then some name else none

/-- The text that shows a pattern. No more than the first 200 characters of the source are shown. -/
def described (pattern : Pattern) : String :=
  let quoted := match pattern.source with
    | .text s => Text.quote s.toList
    | .bytes data => Text.quoteBytes data
  let options := pattern.flags.names.map ("re." ++ ·)
  "re.compile(" ++ String.ofList (quoted.take 200) ++
    (if options.isEmpty then "" else ", " ++ String.intercalate "|" options) ++ ")"

end Pattern

end ArgRules
