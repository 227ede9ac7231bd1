import ArgRules.Pattern.Flags
import ArgRules.Text.Quoted

/-!
# Tokens of patterns

The text of a pattern is split into tokens, a token being one character or a backslash with the
character after it. Tokens are taken one by one from the front, while the groups that have been
opened and the options for the whole pattern are kept in mind.

## The order-of-errors contract

An error of the grammar counts as soon as it is met, and a backslash that ends the text as soon as it
comes next. Some faults are noted only: they count once the whole pattern has been read without
another error.

## Main definitions

* `Pattern.ParseError` — why a text is not a pattern
* `Pattern.Token`, `Pattern.tokens` — the tokens of a text
* `Pattern.ParseState` — what is known while a pattern is read
* `Pattern.Parser` — a step of reading
-/

namespace ArgRules.Pattern

/-! ### Errors -/

/-- Why a text is not a pattern. -/
inductive ParseError
  | malformed
  /-- A number of rounds is too large to be represented. -/
  | tooManyRounds
  /-- A number of rounds has too many digits to be read. -/
  | tooManyDigits (count : Nat)
  /-- The pattern asks for ASCII letters and for those of the locale, or of all scripts, at once. -/
  | conflictingLetters (inLocale : Bool)
  /-- What is looked for behind a place is too long. -/
  | tooFarBehind
deriving DecidableEq

/-! ### Tokens -/

/-- A character, or a backslash with the character after it. -/
inductive Token
  | plain (c : Char)
  | escaped (c : Char)
  /-- A backslash that ends the text. -/
  | dangling
deriving DecidableEq

/-- The tokens of a text. -/
def tokens : List Char → List Token
  | [] => []
  | [c] => if c = Text.backslash then [.dangling] else [.plain c]
  | c :: d :: rest =>
    if c = Text.backslash then .escaped d :: tokens rest else .plain c :: tokens (d :: rest)

/-- The characters that a token was made of. -/
def Token.text : Token → List Char
  | plain c => [c]
  | escaped c => [Text.backslash, c]
  | dangling => [Text.backslash]

/-! ### The state of reading -/

/-- What is known while a pattern is read. -/
structure ParseState where
  rest : List Token
  /-- The options of the whole pattern. -/
  flags : Flags
  /-- The number of the next group. -/
  nextGroup : Nat
  names : List (String × Nat)
  /-- The least and the greatest widths of the groups that are complete. -/
  widths : List (Nat × Nat × Nat)
  /-- Inside what is looked for behind a place, the first group that it opened itself. -/
  behindFrom : Option Nat
  /-- The groups that conditions speak of. -/
  conditions : List Nat
  /-- The fault that counts once the whole pattern has been read. -/
  noted : Option ParseError

/-- The state at the start of a text. -/
def ParseState.start (text : List Char) (flags : Flags) : ParseState :=
  ⟨tokens text, flags, 1, [], [], none, [], none⟩

/-- A step of reading. -/
abbrev Parser := StateT ParseState (Except ParseError)

namespace Parser

/-- Gives up. -/
def fail {α : Type} : Parser α := throw .malformed

/-- Notes a fault that counts once the whole pattern has been read. A fault of the grammar counts
before any other. -/
def note (fault : ParseError) : Parser Unit :=
  modify fun s => if s.noted = some .malformed then s else { s with noted := some fault }

/-- The next token, left in place. -/
def peek : Parser (Option Token) := do
  match (← get).rest with
  | [] => return none
  | .dangling :: _ => fail
  | token :: _ => return some token

/-- Takes the next token. -/
def next : Parser (Option Token) := do
  let token ← peek
  modify fun s => { s with rest := s.rest.tail }
  return token

/-- Takes the next token if it is the given character. -/
def accept (c : Char) : Parser Bool := do
  if (← peek) = some (.plain c) then
    modify fun s => { s with rest := s.rest.tail }
    return true
  else
    return false

/-- Insists on a character. -/
def require (c : Char) : Parser Unit := do
  if !(← accept c) then fail

/-- The number of tokens that are left, and one more. -/
def remaining : Parser Nat := return (← get).rest.length + 1

/-- The characters of a class at the front, at most `limit` of them. -/
def takeWhile (limit : Nat) (isWanted : Char → Bool) : Parser (List Char) := do
  match limit with
  | 0 => return []
  | limit + 1 =>
    match ← peek with
    | some (.plain c) =>
      if isWanted c then
        let _ ← next
        return c :: (← takeWhile limit isWanted)
      else return []
    | _ => return []

/-- The text up to a closing character, which is taken too. -/
def takeUntil (fuel : Nat) (close : Char) : Parser (List Char) := do
  match fuel with
  | 0 => fail
  | fuel + 1 =>
    match ← next with
    | none => fail
    | some token =>
      if token = .plain close then return []
      else return token.text ++ (← takeUntil fuel close)

/-- A name: the text up to a closing character, not empty. -/
def takeName (close : Char) : Parser (List Char) := do
  let name ← takeUntil (← remaining) close
  if name.isEmpty then fail
  return name

end Parser

end ArgRules.Pattern
