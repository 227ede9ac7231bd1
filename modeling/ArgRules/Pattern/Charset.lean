import ArgRules.Text.LetterCase

/-!
# Tests of one character

The smallest part of a pattern is a test of one character. What it is written as, a `Charset`, comes
with a rule about letter case and with the choice of letters that is in force.

## The letter-case contract

A single character that is written in a pattern stands for its letter in all forms. A set is taken
as it is written, as long as no member has another form. Otherwise a character is looked up in
lower case, and the members are in lower case as well, with two exceptions beyond the first 65536
code points: a single character there is compared as it was written, and a range that reaches there
admits a character also when it lies in the range itself, or when its upper-case form does.

## Main definitions

* `Pattern.Charset` — the characters that a test admits, as they are written
* `Pattern.CaseRule` — which letters count as the same
* `Pattern.CharTest`, `Pattern.CharTest.accepts` — the tests
-/

namespace ArgRules.Pattern

/-! ### Members of sets -/

/-- A named class of characters. -/
inductive Category
  | digit
  | space
  | word
deriving DecidableEq

/-- Whether a character belongs to a named class. -/
def Category.holds (ascii : Bool) : Category → Char → Bool
  | digit, c => if ascii then Text.isAsciiDigit c else Text.isDigit c
  | space, c => if ascii then Text.isAsciiSpace c else Text.isSpace c
  | word, c => if ascii then Text.isAsciiWord c else Text.isWord c

/-- A member of a set of characters. -/
inductive Member
  | one (code : Nat)
  | range (low high : Nat)
  | category (name : Category) (negated : Bool)
deriving DecidableEq

/-- Which letters count as the same: no others, those of the ASCII alphabet, those of any alphabet,
or those of the locale, which are the letters of the ASCII alphabet as well. -/
inductive CaseRule
  | exact
  | ascii
  | full
  | locale
deriving DecidableEq

/-- The last code point that sets know all letter forms of. -/
def formsLimit : Nat := 0xFFFF

namespace Member

/-- Whether a member admits a character as it is. -/
def holds (ascii : Bool) (c : Char) : Member → Bool
  | one code => c.toNat = code
  | range low high => low ≤ c.toNat && c.toNat ≤ high
  | category name negated => name.holds ascii c != negated

/-- Whether a range that reaches far admits a character, in one form or the other. -/
def reaches (low high code : Nat) : Bool :=
  formsLimit < high && ((low ≤ code && code ≤ high) ||
    (low ≤ Text.upper code && Text.upper code ≤ high))

/-- Whether a member admits a character in lower case. -/
def holdsLowered (ascii : Bool) (c : Char) : Member → Bool
  | one code =>
    if code ≤ formsLimit then (Text.family (Text.lower code)).contains c.toNat
    else c.toNat = code
  | range low high =>
    ((Text.caseVariants c.toNat).any fun v => v ≤ formsLimit && low ≤ v && v ≤ high) ||
      reaches low high c.toNat
  | member => member.holds ascii c

/-- Whether a member admits a character in lower case, as far as the ASCII alphabet goes. -/
def holdsAsciiLowered (ascii : Bool) (c : Char) : Member → Bool
  | one code => c.toNat = Text.asciiLower code
  | range low high =>
    ((Text.asciiVariants c.toNat).any fun v => v ≤ formsLimit && low ≤ v && v ≤ high) ||
      reaches low high c.toNat
  | member => member.holds ascii c

/-- Whether a member has a character with another form. -/
def isCased : CaseRule → Member → Bool
  | .full, one code => Text.isCased code
  | .full, range low high => formsLimit < high || Text.hasCasedIn low high
  | .ascii, one code => Text.hasAsciiCasedIn code code
  | .ascii, range low high => formsLimit < high || Text.hasAsciiCasedIn low high
  | _, _ => false

/-- Whether a set with such a member has to be looked up in lower case. -/
def needsLowering (rule : CaseRule) (member : Member) : Bool :=
  member.isCased rule ||
    match rule, member with
    | .full, one code | .ascii, one code => formsLimit < code
    | _, _ => false

end Member

/-! ### Characters as they are written -/

/-- The characters that a test admits, as they are written. -/
inductive Charset
  /-- Every character. -/
  | all
  /-- Every character but the one that ends a line. -/
  | inLine
  | only (code : Nat)
  | allBut (code : Nat)
  | set (negated : Bool) (members : List Member)
deriving DecidableEq

/-- A test of one character. -/
structure CharTest where
  chars : Charset
  rule : CaseRule
  /-- Whether the named classes hold ASCII characters only. -/
  ascii : Bool
deriving DecidableEq

/-- Whether a character is the letter of a code point. -/
def CaseRule.sameLetter (rule : CaseRule) (code : Nat) (c : Char) : Bool :=
  match rule with
  | exact => c.toNat = code
  | ascii => Text.asciiLower c.toNat = Text.asciiLower code
  | full =>
    if Text.isCased code then (Text.family (Text.lower code)).contains (Text.lower c.toNat)
    else c.toNat = code
  | locale =>
    c.toNat = code || Text.asciiLower c.toNat = code || Text.asciiUpper c.toNat = code

/-- Whether a case rule takes two characters of a repeated text for the same one. -/
def CaseRule.matchesAgain : CaseRule → Char → Char → Bool
  | exact, a, b => a = b
  | full, a, b => Text.lower a.toNat = Text.lower b.toNat
  | _, a, b => Text.asciiLower a.toNat = Text.asciiLower b.toNat

namespace CharTest

/-- The test that admits one character only. -/
def single (c : Char) : CharTest := ⟨.only c.toNat, .exact, false⟩

/-- Whether the members of a set admit a character under a case rule. -/
def membersHold (rule : CaseRule) (ascii : Bool) (members : List Member) (c : Char) : Bool :=
  if !members.any (·.needsLowering rule) then members.any (·.holds ascii c)
  else if rule = .full then members.any (·.holdsLowered ascii (.ofNat (Text.lower c.toNat)))
  else members.any (·.holdsAsciiLowered ascii (.ofNat (Text.asciiLower c.toNat)))

/-- Whether a set admits a character. In the locale, either form of a letter will do. -/
def setHolds (rule : CaseRule) (ascii negated : Bool) (members : List Member) (c : Char) : Bool :=
  if rule = .locale then
    let low := Text.asciiLower c.toNat
    let high := Text.asciiUpper c.toNat
    (members.any (·.holds ascii (.ofNat low)) != negated) ||
      (high ≠ low && (members.any (·.holds ascii (.ofNat high)) != negated))
  else membersHold rule ascii members c != negated

/-- Whether a test admits a character. -/
def accepts (test : CharTest) (c : Char) : Bool :=
  match test.chars with
  | .all => true
  | .inLine => c ≠ '\n'
  | .only code => test.rule.sameLetter code c
  | .allBut code => !test.rule.sameLetter code c
  | .set negated members => setHolds test.rule test.ascii negated members c

@[simp] theorem accepts_single (c d : Char) :
    (single c).accepts d = decide (d.toNat = c.toNat) := rfl

/-! ### Letter case in a test -/

/-- Whether a code point has no other form under a case rule. -/
def isPlainCode (rule : CaseRule) (code : Nat) : Bool :=
  rule ≠ .locale && !(Member.one code).isCased rule

/-- Whether a test asks for one character as it is. -/
def isLiteral (test : CharTest) : Bool :=
  match test.chars with
  | .only code => isPlainCode test.rule code
  | _ => false

/-- Whether a test is one of a set whose members are taken as they are written. -/
def isPlainSet (test : CharTest) : Bool :=
  match test.chars with
  | .set _ members => test.rule ≠ .locale && !members.any (·.needsLowering test.rule)
  | _ => false

/-- Whether a test looks a character up in another form. -/
def looksUp (test : CharTest) : Bool :=
  match test.chars with
  | .only code | .allBut code =>
    test.rule = .full && Text.isCased code && (Text.family (Text.lower code)).length ≠ 1
  | .set .. => !test.isPlainSet
  | _ => false

end CharTest

end ArgRules.Pattern
