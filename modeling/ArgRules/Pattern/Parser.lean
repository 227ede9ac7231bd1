import ArgRules.Pattern.Escape
import ArgRules.Text.Identifier

/-!
# Reading patterns

The tokens of a pattern are read by recursive descent into a tree. Options that apply to the whole
pattern may stand at its very start; options of a part stand at the start of its group. A group
without a number and without options is nothing but its contents.

## The reading contract

Reading depends on the tokens alone, and every call consumes a token or descends into an operator of
which there are finitely many, so the recursion is bounded by the number of tokens. The bound is an
argument of the functions below and hidden by `Pattern.parse`.

## Main definitions

* `Pattern.Opening` — what an opening parenthesis begins
* `Pattern.choices`, `Pattern.row`, `Pattern.contents` — the descent
* `Pattern.parse` — the options and the tree of a pattern
-/

namespace ArgRules.Pattern

open ArgRules.Pattern.Parser

/-! ### Groups by name and number -/

/-- The number that no number of a group reaches. -/
def groupLimit : Nat := Nat.pow 2 30 - 1

/-- The number of a named group. -/
def groupNamed (name : List Char) : Parser Nat := do
  match (← get).names.lookup (String.ofList name) with
  | some index => return index
  | none => fail

/-- Opens a group, perhaps with a name of its own. -/
def openGroup (name : Option (List Char)) : Parser Nat := do
  let s ← get
  let index := s.nextGroup
  match name with
  | none => set { s with nextGroup := index + 1 }
  | some name =>
    let name := String.ofList name
    if (s.names.lookup name).isSome then fail
    set { s with nextGroup := index + 1, names := (name, index) :: s.names }
  return index

/-- The group that a condition speaks of, by name or by number. -/
def conditionGroup (text : List Char) : Parser Nat := do
  if Text.isIdentifier text then groupNamed text
  else
    match Numeral.readAnyScript? text with
    | some number =>
      if number ≤ 0 ∨ groupLimit ≤ number then fail
      let index := number.toNat
      modify fun s => { s with conditions := index :: s.conditions }
      return index
    | none => fail

/-- A name of a group, up to a closing character. -/
def groupName (close : Char) : Parser (List Char) := do
  let name ← takeName close
  if !Text.isIdentifier name then fail
  return name

/-! ### Options in the text -/

/-- The options that a group turns on, up to the character that ends them. -/
def addedFlags (fuel : Nat) (bytes : Bool) (c : Char) (sofar : Flags) : Parser (Flags × Char) := do
  match fuel with
  | 0 => fail
  | fuel + 1 =>
    match Flags.ofLetter? c with
    | none => fail
    | some flag =>
      if (flag.locale && !bytes) || (flag.unicode && bytes) then fail
      let flags := sofar.union flag
      if flag.choosesLetters && !flags.consistent then fail
      match ← next with
      | some (.plain d) =>
        if d = ')' ∨ d = '-' ∨ d = ':' then return (flags, d) else addedFlags fuel bytes d flags
      | _ => fail

/-- The options that a group turns off, up to the colon. -/
def removedFlags (fuel : Nat) (sofar : Flags) : Parser Flags := do
  match fuel with
  | 0 => fail
  | fuel + 1 =>
    match ← next with
    | some (.plain c) =>
      match Flags.ofLetter? c with
      | some flag =>
        if flag.choosesLetters then fail
        let flags := sofar.union flag
        if ← accept ':' then return flags else removedFlags fuel flags
      | none => fail
    | _ => fail

/-- What a group with options says: options for the whole pattern, or options for itself. -/
def readFlags (bytes : Bool) (c : Char) : Parser (Option (Flags × Flags)) := do
  let fuel ← remaining
  let (added, stop) ← if c = '-' then pure (Flags.empty, '-') else addedFlags fuel bytes c .empty
  if stop = ')' then
    modify fun s => { s with flags := s.flags.union added }
    return none
  if added.template then fail
  let removed ← if stop = '-' then removedFlags fuel .empty else pure Flags.empty
  if removed.template || added.without removed ≠ added then fail
  return some (added, removed)

/-! ### Repetitions -/

/-- A character that starts a repetition. -/
def isRepeat (c : Char) : Bool := c = '*' ∨ c = '+' ∨ c = '?' ∨ c = '\x7b'

/-- A number of rounds. -/
def roundCount (digits : List Char) : Parser Nat := do
  if Numeral.digitLimit < digits.length then throw (.tooManyDigits digits.length)
  let count := Numeral.value digits
  if roundLimit ≤ count then throw .tooManyRounds
  return count

/-- The bounds after an opening brace, or nothing if the brace is an ordinary character; then
nothing is taken. -/
def bracedBounds : Parser (Option (Nat × Option Nat)) := do
  let s ← get
  if (← peek) = some (.plain '\x7d') then return none
  let low ← takeWhile s.rest.length Text.isAsciiDigit
  let high ← if ← accept ',' then takeWhile s.rest.length Text.isAsciiDigit else pure low
  if !(← accept '\x7d') then
    set s
    return none
  let _ ← peek
  let least ← roundCount low
  if high.isEmpty then return some (least, none)
  let most ← roundCount high
  if most < least then fail
  return some (least, some most)

/-- The bounds of a repetition that starts with the given character. -/
def bounds (c : Char) : Parser (Option (Nat × Option Nat)) :=
  match c with
  | '?' => return some (0, some 1)
  | '*' => return some (0, none)
  | '+' => return some (1, none)
  | _ => bracedBounds

/-- How greedy a repetition is: the mark behind its bounds says so. There is one mark at most, so a
plus behind a question mark is left to be a repetition of its own, and there is nothing for it to
repeat. -/
def readGreed : Parser Greed := do
  if ← accept '?' then return .reluctant
  if ← accept '+' then return .possessive
  return .greedy

/-- Repeats the latest part. -/
def repeatLast (scope : Scope) (low : Nat) (high : Option Nat) (parts : List Part) :
    Parser (List Part) := do
  match parts with
  | [] => fail
  | last :: earlier =>
    if last.role ≠ .other then fail
    if scope.flags.template then note .malformed
    return last.times low high (← readGreed) :: earlier

/-- Skips a comment in a verbose pattern. -/
def skipLine (fuel : Nat) : Parser Unit := do
  match fuel with
  | 0 => return ()
  | fuel + 1 =>
    match ← next with
    | none => return ()
    | some token => if token = .plain '\n' then return () else skipLine fuel

/-- Skips a comment in parentheses. -/
def skipComment (fuel : Nat) : Parser Unit := do
  match fuel with
  | 0 => fail
  | fuel + 1 =>
    match ← next with
    | none => fail
    | some token => if token = .plain ')' then return () else skipComment fuel

/-! ### Openings -/

/-- What an opening parenthesis turns out to begin. -/
inductive Opening
  | capture (name : Option (List Char))
  | plain
  | options (added removed : Flags)
  | atomic
  | look (behind negated : Bool)
  | condition (index : Nat)
  | again (index : Nat)
  /-- A comment, of which nothing remains. -/
  | nothing
  /-- Options for the whole pattern. -/
  | settings

/-- Reads what follows an opening parenthesis, up to the contents of the group. -/
def readOpening (bytes : Bool) : Parser Opening := do
  if !(← accept '?') then return .capture none
  match ← next with
  | some (.plain c) =>
    match c with
    | 'P' =>
      if ← accept '<' then return .capture (some (← groupName '>'))
      else if ← accept '=' then return .again (← groupNamed (← groupName ')'))
      else fail
    | ':' => return .plain
    | '#' =>
      skipComment (← remaining)
      return .nothing
    | '=' => return .look false false
    | '!' => return .look false true
    | '<' =>
      if ← accept '=' then return .look true false
      else if ← accept '!' then return .look true true
      else fail
    | '(' => return .condition (← conditionGroup (← takeName ')'))
    | '>' => return .atomic
    | _ =>
      match ← readFlags bytes c with
      | none => return .settings
      | some (added, removed) => return .options added removed
  | _ => fail

/-- The greatest distance at which a part can be looked for behind a place. -/
def behindLimit : Nat := Nat.pow 2 31 - 1

/-- The part that looks for another, before or behind a place. What is looked for behind it must have
one width. -/
def lookPart (behind negated : Bool) (body : Part) : Parser Part := do
  if behind && body.low ≠ body.high then note .malformed
  if behind && behindLimit < body.low then note .tooFarBehind
  return .fixed (.look (if behind then body.low else 0) negated body.node) 0

/-- Marks the groups opened from here on as part of what is looked for behind a place. -/
def enterBehind (behind : Bool) : Parser (Option Nat) := do
  let s ← get
  if behind && s.behindFrom.isNone then set { s with behindFrom := some s.nextGroup }
  return s.behindFrom

/-! ### The descent -/

mutual

/-- A choice between rows of parts. -/
def choices : Nat → Scope → Bool → List Part → Parser Part
  | 0, _, _, _ => fail
  | fuel + 1, scope, first, sofar => do
    let s ← get
    let flags := if scope.outermost then s.flags else scope.flags
    let part ← row fuel { scope with flags } (first && sofar.isEmpty) []
    if ← accept '|' then choices fuel scope first (part :: sofar)
    else if sofar.isEmpty then return part
    else return .choice { scope with flags } (part :: sofar).reverse

/-- A row of parts, up to a bar, a closing parenthesis or the end. -/
def row : Nat → Scope → Bool → List Part → Parser Part
  | 0, _, _, _ => fail
  | fuel + 1, scope, first, sofar => do
    let continueWith (part : Part) := row fuel scope first (part :: sofar)
    match ← peek with
    | none => return .row sofar.reverse
    | some .dangling => fail
    | some (.escaped c) =>
      let _ ← next
      continueWith (← escapePart scope c)
    | some (.plain c) =>
      if c = '|' ∨ c = ')' then return .row sofar.reverse
      let _ ← next
      if scope.flags.verbose && Text.isAsciiSpace c then row fuel scope first sofar
      else if scope.flags.verbose && c = '#' then
        skipLine (← remaining)
        row fuel scope first sofar
      else if c = '[' then
        let negated ← accept '^'
        continueWith (scope.set negated (← setMembers (← remaining) scope.bytes []))
      else if isRepeat c then
        match ← bounds c with
        | none => continueWith (scope.one c.toNat)
        | some (low, high) =>
          row fuel scope first (← repeatLast scope low high sofar)
      else if c = '.' then
        let chars := if scope.flags.dotAll then Charset.all else .inLine
        continueWith (.fixed (.char ⟨chars, .exact, false⟩) 1)
      else if c = '^' then
        continueWith (.place (if scope.flags.multiline then .lineStart else .textStart))
      else if c = '$' then
        continueWith (.place (if scope.flags.multiline then .lineEnd else .lastLineEnd))
      else if c = '(' then
        match ← readOpening scope.bytes with
        | .nothing => row fuel scope first sofar
        | .settings =>
          if !first || !sofar.isEmpty then fail
          row fuel { scope with flags := (← get).flags } first sofar
        | opening => continueWith (← contents fuel scope opening)
      else continueWith (scope.one c.toNat)

/-- The contents of a group, with the closing parenthesis. -/
def contents : Nat → Scope → Opening → Parser Part
  | 0, _, _ => fail
  | fuel + 1, scope, opening => do
    let inner := { scope with outermost := false }
    match opening with
    | .nothing => fail
    | .settings => fail
    | .again index => againPart scope index
    | .look behind negated =>
      let outer ← enterBehind behind
      let body ← choices fuel inner false []
      modify fun s => { s with behindFrom := outer }
      require ')'
      lookPart behind negated body
    | .condition index =>
      checkBehind index
      let yes ← row fuel inner false []
      let no ← if ← accept '|' then row fuel inner false [] else pure (.row [])
      require ')'
      return ⟨.ifGroup index yes.node no.node, min yes.low no.low, max yes.high no.high, .other⟩
    | .atomic =>
      let body ← choices fuel inner false []
      require ')'
      return { body with node := .atomic body.node, role := .other }
    | .plain =>
      let body ← choices fuel inner false []
      require ')'
      return { body with role := .other }
    | .options added removed =>
      let body ← choices fuel { inner with flags := scope.flags.within added removed } false []
      require ')'
      return { body with node := .scope body.node, role := .other }
    | .capture name =>
      let index ← openGroup name
      let body ← choices fuel inner false []
      require ')'
      modify fun s => { s with widths := (index, body.low, body.high) :: s.widths }
      return { body with node := .group index body.node, role := .other }

end

/-- The options and the tree of a pattern, as a part. -/
def parse (bytes : Bool) (text : List Char) (flags : Flags) :
    Except ParseError (Flags × Part) := do
  let fuel := 3 * (tokens text).length + 3
  let (part, final) ← (choices fuel ⟨flags, bytes, true⟩ true []).run (.start text flags)
  if !final.flags.consistent then throw (.conflictingLetters bytes)
  if !final.rest.isEmpty then throw .malformed
  if final.conditions.any (final.nextGroup ≤ ·) then throw .malformed
  match final.noted with
  | some fault => throw fault
  | none => return (final.flags, part)

end ArgRules.Pattern
