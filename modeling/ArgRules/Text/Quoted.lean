import ArgRules.Text.Printable

/-!
# Quoted text

A text inside a larger one is shown in quotes: in apostrophes, or in quotation marks when it holds
an apostrophe and no quotation mark. A backslash and the chosen quote are escaped by a backslash,
the three common controls by a letter, and every other unprintable character by its code in
hexadecimal digits, of which there are two, four or eight.

A string of bytes follows the same rule, except that only the printable ASCII bytes stand for
themselves.

## Main definitions

* `Text.quote` — a quoted text
* `Text.quoteBytes` — a quoted string of bytes
-/

namespace ArgRules.Text

/-- The apostrophe. -/
def apostrophe : Char := Char.ofNat 39

/-- The quotation mark. -/
def quotationMark : Char := Char.ofNat 34

/-- The backslash. -/
def backslash : Char := Char.ofNat 92

/-- The quote that a text is put in. -/
def quoteFor (cs : List Char) : Char :=
  if cs.contains apostrophe && !cs.contains quotationMark then quotationMark else apostrophe

/-- A number in lower-case hexadecimal digits, filled up with zeros to the given width. -/
def hexadecimal (width n : Nat) : List Char :=
  let digits := Nat.toDigits 16 n
  List.replicate (width - digits.length) '0' ++ digits

/-- The escape that shows an unprintable character by its code. -/
def escapeCode (code : Nat) : List Char :=
  if code < 0x100 then backslash :: 'x' :: hexadecimal 2 code
  else if code < 0x10000 then backslash :: 'u' :: hexadecimal 4 code
  else backslash :: 'U' :: hexadecimal 8 code

/-- How a character is shown inside the given quote. -/
def escape (quote : Char) (c : Char) : List Char :=
  if c = quote ∨ c = backslash then [backslash, c]
  else if c = '\n' then [backslash, 'n']
  else if c = '\r' then [backslash, 'r']
  else if c = '\t' then [backslash, 't']
  else if isPrintable c then [c]
  else escapeCode c.toNat

/-- A text in quotes. -/
def quote (cs : List Char) : List Char :=
  let mark := quoteFor cs
  mark :: cs.flatMap (escape mark) ++ [mark]

/-- A string of bytes in quotes, with the letter that tells it from a text. -/
def quoteBytes (bytes : List UInt8) : List Char :=
  let cs := bytes.map fun b => Char.ofNat b.toNat
  let mark := quoteFor cs
  let show1 (c : Char) : List Char :=
    if c.toNat < 128 then escape mark c else escapeCode c.toNat
  'b' :: mark :: cs.flatMap show1 ++ [mark]

end ArgRules.Text
