import ArgRules.Numeric.Double
import ArgRules.Text.Word

/-!
# Reading numbers from text

Grammars of numbers in text. All work on lists of characters.

A *whole number* is read leniently: what surrounds its digits is cleaned away first, and what is left
has to be a minus sign, if there is one, and ASCII digits without a zero in front of others.

A *floating number* is an optional sign, digits with or without a point, and perhaps an exponent; or
one of the words for infinity and not-a-number in any letter case. White space around it is ignored,
or else single underscores inside it are.

## The cleaning contract

White space around the text goes first, and after it one plus sign and the minus sign, which is put
back in the end. Then a point goes that has nothing but zeros after it, and at least one. Then the
zeros in front go, together with underscores that follow them, up to a digit that is no zero or up to
another minus sign; if there is neither, the last character stays. The underscores that are left go
if each of them stands alone inside the text. A number of more than 4300 characters, sign and digits,
is refused as too long, whatever stands behind it.

## Main definitions

* `Numeral.readWhole` — a whole number, or why the text is none
* `Numeral.clean?` — the text that a whole number is read from
* `Numeral.readAnyScript?` — a whole number in digits of any script
* `Numeral.readFloating?` — a floating number, strictly
* `Numeral.readLoosely?` — a floating number with white space or underscores
-/

namespace ArgRules.Numeral

open Text

/-! ### Digits -/

/-- The value of a run of ASCII digits. -/
def value (digits : List Char) : Nat :=
  digits.foldl (fun n c => 10 * n + (c.toNat - '0'.toNat)) 0

/-- Splits a sign off the front; `true` stands for a minus sign. -/
def splitSign : List Char → Bool × List Char
  | '-' :: rest => (true, rest)
  | '+' :: rest => (false, rest)
  | rest => (false, rest)

/-- The digits at the front of a text, single underscores between them left out, and the rest. -/
def splitDigits (isDigit : Char → Bool) : List Char → List Char × List Char
  | [] => ([], [])
  | [c] => if isDigit c then ([c], []) else ([], [c])
  | c :: d :: rest =>
    if !isDigit c then ([], c :: d :: rest)
    else if d ≠ '_' then
      let (digits, others) := splitDigits isDigit (d :: rest)
      (c :: digits, others)
    else if (rest.head?.map isDigit).getD false then
      let (digits, others) := splitDigits isDigit rest
      (c :: digits, others)
    else ([c], d :: rest)

/-! ### Underscores -/

/-- Whether two underscores stand side by side. -/
def hasDoubleUnderscore : List Char → Bool
  | '_' :: '_' :: _ => true
  | _ :: rest => hasDoubleUnderscore rest
  | [] => false

/-- A text without its underscores, if each of them stands alone inside it. -/
def withoutUnderscores? (text : List Char) : Option (List Char) :=
  if text.head? = some '_' || text.getLast? = some '_' || hasDoubleUnderscore text then none
  else some (text.filter (· ≠ '_'))

/-! ### Whole numbers -/

/-- Why a text is not read as a whole number. -/
inductive WholeError
  | malformed
  | tooLong
deriving DecidableEq

/-- The greatest number of characters that is read, and of digits that is written, as one whole
number. -/
def digitLimit : Nat := 4300

/-- A text without a point that only zeros, at least one, stand behind. -/
def dropZeroFraction (text : List Char) : List Char :=
  match text.dropWhile (· ≠ '.') with
  | '.' :: '0' :: zeros => if zeros.all (· = '0') then text.takeWhile (· ≠ '.') else text
  | _ => text

/-- What is left of a text behind zeros and underscores, the last of which is given. It begins with a
digit or a minus sign, or the last zero or underscore is all that is left. -/
def skipZeros? (last : Char) : List Char → Option (List Char)
  | [] => some [last]
  | c :: rest =>
    if c = '0' ∨ c = '_' then skipZeros? c rest
    else if isAsciiDigit c ∨ c = '-' then some (c :: rest)
    else none

/-- A number without the zeros in front of it; it has to begin with a digit. -/
def dropZeros? : List Char → Option (List Char)
  | [] => none
  | c :: rest =>
    if c = '0' then skipZeros? c rest else if isAsciiDigit c then some (c :: rest) else none

/-- The text that a number without a sign is read from. -/
def cleanUnsigned? (text : List Char) : Option (List Char) :=
  (dropZeros? (dropZeroFraction text)).map fun kept => (withoutUnderscores? kept).getD kept

/-- The text that a whole number is read from. -/
def clean? (text : List Char) : Option (List Char) :=
  match trim text with
  | '-' :: rest => (cleanUnsigned? rest).map ('-' :: ·)
  | '+' :: rest => cleanUnsigned? rest
  | rest => cleanUnsigned? rest

/-- The whole number that digits stand for, with the sign in front of them and the text behind
them. -/
def ofDigits (negative : Bool) (digits rest : List Char) : Except WholeError Int :=
  if digits.isEmpty || (digits.head? = some '0' && digits.length ≠ 1) then .error .malformed
  else if digitLimit < (if negative then 1 else 0) + digits.length then .error .tooLong
  else if !rest.isEmpty then .error .malformed
  else .ok (if negative then -(value digits : Int) else value digits)

/-- The whole number that a cleaned text stands for. -/
def readCleaned : List Char → Except WholeError Int
  | '-' :: body => ofDigits true (body.takeWhile isAsciiDigit) (body.dropWhile isAsciiDigit)
  | body => ofDigits false (body.takeWhile isAsciiDigit) (body.dropWhile isAsciiDigit)

/-- The whole number that a text stands for. -/
def readWhole (text : List Char) : Except WholeError Int :=
  match clean? text with
  | some cleaned => readCleaned cleaned
  | none => .error .malformed

/-- The whole number that a text stands for, its digits being of any script. -/
def readAnyScript? (text : List Char) : Option Int :=
  let (negative, body) := splitSign (trim text)
  let (digits, rest) := splitDigits isDigit body
  if digits.isEmpty || !rest.isEmpty || digitLimit < digits.length then none
  else
    let size := digits.foldl (fun n c => 10 * n + digitValue c) 0
    some (if negative then -(size : Int) else size)

/-! ### Floating numbers -/

/-- A text with its ASCII letters in lower case. -/
def lowered (text : List Char) : List Char :=
  text.map fun c => if 'A' ≤ c && c ≤ 'Z' then Char.ofNat (c.toNat + 32) else c

/-- The exponent that ends a number: nothing, or the letter `e`, a sign and digits. -/
def readExponent? : List Char → Option Int
  | [] => some 0
  | c :: rest =>
    if c = 'e' ∨ c = 'E' then
      let (negative, digits) := splitSign rest
      if digits.isEmpty || !digits.all isAsciiDigit then none
      else some (if negative then -(value digits : Int) else value digits)
    else none

/-- Digits around an optional point, as one number and a power of ten, and the rest. -/
def splitMantissa? (text : List Char) : Option (Nat × Int × List Char) :=
  let whole := text.takeWhile isAsciiDigit
  match text.dropWhile isAsciiDigit with
  | '.' :: rest =>
    let fraction := rest.takeWhile isAsciiDigit
    if whole.isEmpty && fraction.isEmpty then none
    else some (value (whole ++ fraction), -fraction.length, rest.dropWhile isAsciiDigit)
  | rest => if whole.isEmpty then none else some (value whole, 0, rest)

/-- The words that stand for the numbers that are not finite. -/
def readWord? (negative : Bool) (word : List Char) : Option Double :=
  let word := String.ofList (lowered word)
  if word = "inf" ∨ word = "infinity" then some (.infinite negative)
  else if word = "nan" then some .nan
  else none

/-- The floating number that a text stands for, with nothing around it. -/
def readFloating? (text : List Char) : Option Double :=
  let (negative, body) := splitSign text
  match splitMantissa? body with
  | some (digits, power, rest) =>
    (readExponent? rest).map fun exponent => .ofDecimal negative digits (power + exponent)
  | none => readWord? negative body

/-- The floating number that a text stands for, white space around it or else underscores inside it
being ignored. -/
def readLoosely? (text : List Char) : Option Double :=
  readFloating? (trim text) <|> (withoutUnderscores? text).bind readFloating?

end ArgRules.Numeral
