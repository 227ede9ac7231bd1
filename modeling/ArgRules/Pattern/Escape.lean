import ArgRules.Numeric.Reading
import ArgRules.Pattern.Part
import ArgRules.Pattern.Token
import ArgRules.Text.CharacterName

/-!
# Escapes and sets

A backslash gives the character after it a meaning, or takes its meaning away. Letters stand for
named classes, controls and tests of a place, or announce the number or the name of a character;
digits stand for the number of a group or of a character. Any other letter or digit is an error.

A set of characters in brackets has escapes of its own: there is no test of a place in it, and no
group.

## Main definitions

* `Pattern.escapePart` — an escape as a part
* `Pattern.setMembers` — the members of a set in brackets
-/

namespace ArgRules.Pattern

open ArgRules.Pattern.Parser

/-! ### Letters -/

/-- The named class that an escaped letter stands for. -/
def classEscape? : Char → Option Member
  | 'd' => some (.category .digit false)
  | 'D' => some (.category .digit true)
  | 's' => some (.category .space false)
  | 'S' => some (.category .space true)
  | 'w' => some (.category .word false)
  | 'W' => some (.category .word true)
  | _ => none

/-- The control character that an escaped letter stands for. -/
def controlEscape? : Char → Option Nat
  | 'a' => some 7
  | 'b' => some 8
  | 'f' => some 12
  | 'n' => some 10
  | 'r' => some 13
  | 't' => some 9
  | 'v' => some 11
  | _ => none

/-! ### Numbers and names of characters -/

/-- An octal digit. -/
def isOctal (c : Char) : Bool := '0' ≤ c && c ≤ '7'

/-- A hexadecimal digit. -/
def isHexadecimal (c : Char) : Bool :=
  Text.isAsciiDigit c || ('a' ≤ c && c ≤ 'f') || ('A' ≤ c && c ≤ 'F')

/-- The value of a hexadecimal digit. -/
def hexadecimalValue (c : Char) : Nat :=
  if Text.isAsciiDigit c then c.toNat - 48
  else if 'a' ≤ c then c.toNat - 87
  else c.toNat - 55

/-- The value of digits in a base. -/
def valueInBase (base : Nat) (digits : List Char) : Nat :=
  digits.foldl (fun n c => base * n + hexadecimalValue c) 0

/-- The code that exactly `width` hexadecimal digits give. -/
def hexadecimalCode (width : Nat) : Parser Nat := do
  let digits ← takeWhile width isHexadecimal
  let code := valueInBase 16 digits
  if digits.length ≠ width ∨ 0x10FFFF < code then fail
  return code

/-- The code of the character whose name comes next, in braces. -/
def namedCode : Parser Nat := do
  require '\x7b'
  match Text.characterNamed? (← takeName '\x7d') with
  | some c => return c.toNat
  | none => fail

/-- The code of an escaped character that is no class, no anchor and no number of a group. -/
def escapedCode (bytes : Bool) (c : Char) : Parser Nat := do
  if c = 'x' then hexadecimalCode 2
  else if c = 'u' && !bytes then hexadecimalCode 4
  else if c = 'U' && !bytes then hexadecimalCode 8
  else if c = 'N' && !bytes then namedCode
  else if Text.isAsciiLetter c || Text.isAsciiDigit c then fail
  else return c.toNat

/-- The code that octal digits give; it has to be a byte. -/
def octalCode (digits : List Char) : Parser Nat := do
  let code := valueInBase 8 digits
  if 0xFF < code then fail
  return code

/-! ### Sets in brackets -/

/-- An escape inside a set: one character, or a named class. -/
def memberEscape (bytes : Bool) (c : Char) : Parser Member := do
  match controlEscape? c, classEscape? c with
  | some code, _ => return .one code
  | none, some member => return member
  | none, none =>
    if isOctal c then
      return .one (← octalCode (c :: (← takeWhile 2 isOctal)))
    else
      return .one (← escapedCode bytes c)

/-- One end of a possible range. -/
def rangeEnd (bytes : Bool) : Token → Parser Member
  | .plain c => return .one c.toNat
  | .escaped c => memberEscape bytes c
  | .dangling => fail

/-- The members of a set up to its closing bracket. A bracket that would close an empty set is a
member. -/
def setMembers (fuel : Nat) (bytes : Bool) (sofar : List Member) : Parser (List Member) := do
  match fuel with
  | 0 => fail
  | fuel + 1 =>
    match ← next with
    | none => fail
    | some token =>
      if token = .plain ']' && !sofar.isEmpty then return sofar.reverse
      let first ← rangeEnd bytes token
      if !(← accept '-') then setMembers fuel bytes (first :: sofar)
      else
        match ← next with
        | none => fail
        | some (.plain ']') => return (.one '-'.toNat :: first :: sofar).reverse
        | some token =>
          match first, ← rangeEnd bytes token with
          | .one low, .one high =>
            if high < low then fail
            setMembers fuel bytes (.range low high :: sofar)
          | _, _ => fail

/-! ### Groups by number -/

/-- Inside what is looked for behind a place, only groups that were complete before it may be
spoken of. -/
def checkBehind (index : Nat) : Parser Unit := do
  let s ← get
  match s.behindFrom with
  | some first =>
    if (s.widths.lookup index).isNone || first ≤ index then fail
  | none => return ()

/-- The text of a complete group once more. -/
def againPart (scope : Scope) (index : Nat) : Parser Part := do
  match (← get).widths.lookup index with
  | none => fail
  | some (low, high) =>
    checkBehind index
    return ⟨.again index scope.caseRule, low, high, .other⟩

/-- An escape that starts with a digit other than zero: a character by its octal code if there are
three octal digits, and else a group by its number. -/
def numberEscape (scope : Scope) (c : Char) : Parser Part := do
  match ← peek with
  | some (.plain d) =>
    if Text.isAsciiDigit d then
      let _ ← next
      match ← peek with
      | some (.plain e) =>
        if isOctal c && isOctal d && isOctal e then
          let _ ← next
          return scope.one (← octalCode [c, d, e])
        else againPart scope (valueInBase 10 [c, d])
      | _ => againPart scope (valueInBase 10 [c, d])
    else againPart scope (valueInBase 10 [c])
  | _ => againPart scope (valueInBase 10 [c])

/-! ### Escapes outside of sets -/

/-- An escape outside of a set. -/
def escapePart (scope : Scope) (c : Char) : Parser Part := do
  match c with
  | 'A' => return .place .textStart
  | 'Z' => return .place .textEnd
  | 'b' => return .place (.boundary scope.ascii)
  | 'B' => return .place (.interior scope.ascii)
  | _ =>
    match classEscape? c, controlEscape? c with
    | some member, _ => return scope.set false [member]
    | none, some code => return scope.one code
    | none, none =>
      if c = '0' then return scope.one (valueInBase 8 (← takeWhile 2 isOctal))
      else if Text.isAsciiDigit c then numberEscape scope c
      else return scope.one (← escapedCode scope.bytes c)

end ArgRules.Pattern
