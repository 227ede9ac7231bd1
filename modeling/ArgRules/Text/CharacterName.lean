import ArgRules.Text.CharacterName.Aliases
import ArgRules.Text.CharacterName.Ancient
import ArgRules.Text.CharacterName.Cuneiform
import ArgRules.Text.CharacterName.EastAsian
import ArgRules.Text.CharacterName.European
import ArgRules.Text.CharacterName.Notations
import ArgRules.Text.CharacterName.Pictographs
import ArgRules.Text.CharacterName.PresentationForms
import ArgRules.Text.CharacterName.SouthAsian
import ArgRules.Text.CharacterName.SoutheastAsian
import ArgRules.Text.CharacterName.Syllabaries
import ArgRules.Text.CharacterName.Symbols
import ArgRules.Text.Quoted
import ArgRules.Text.Ranges

/-!
# Names of characters

Every character of Unicode 14.0 but the Tangut ideographs can be looked up by its name. Most names
are listed in blocks; those of ideographs and of Hangul syllables follow a rule.

## The letter-case contract

A name can be written in letters of either case. The names of the unified ideographs and of the
Hangul syllables are an exception: they have to be in capitals.

## Main definitions

* `Text.characterNamed?` — the character with a given name
-/

namespace ArgRules.Text

namespace CharacterName

/-! ### Names that are listed -/

/-- All blocks of names. -/
def blocks : List Block :=
  european ++ southAsian ++ southeastAsian ++ symbols ++ eastAsian ++ presentationForms ++
    ancient ++ cuneiform ++ syllabaries ++ notations ++ pictographs

/-- The code point that a list holds under a name. -/
def listed? (name : List Char) : Option Nat :=
  match blocks.findSome? (·.find? name) with
  | some code => some code
  | none => (aliases.find? fun entry => entry.2.toList = name).map (·.1)

/-! ### Names that end in a number -/

/-- What stands behind a stem. -/
def behind? (stem : String) (name : List Char) : Option (List Char) :=
  if stem.toList.isPrefixOf name then some (name.drop stem.length) else none

/-- The value of capital hexadecimal digits. -/
def hexadecimalValue? (digits : List Char) : Option Nat :=
  digits.foldl
    (fun value? c => value?.bind fun value =>
      if '0' ≤ c && c ≤ '9' then some (16 * value + (c.toNat - 48))
      else if 'A' ≤ c && c ≤ 'F' then some (16 * value + (c.toNat - 55))
      else none)
    (some 0)

/-- The code points whose names consist of a stem and the code point, in at least four digits. -/
def numbered : List (String × Ranges) := [
  ("CJK COMPATIBILITY IDEOGRAPH-", [(0xF900, 0xFA6D), (0xFA70, 0xFAD9), (0x2F800, 0x2FA1D)]),
  ("KHITAN SMALL SCRIPT CHARACTER-", [(0x18B00, 0x18CD5)]),
  ("NUSHU CHARACTER-", [(0x1B170, 0x1B2FB)])]

/-- The code point whose name ends in itself. -/
def numbered? (name : List Char) : Option Nat :=
  numbered.findSome? fun (stem, ranges) => do
    let digits ← behind? stem name
    let code ← hexadecimalValue? digits
    guard (ranges.contains code && digits.length = if code < 0x10000 then 4 else 5)
    return code

/-- The code point of a variation selector, which is known by its number. -/
def selector? (name : List Char) : Option Nat :=
  (List.range 256).findSome? fun n =>
    if name = 'V' :: 'S' :: Nat.toDigits 10 (n + 1) then
      some (if n < 16 then 0xFE00 + n else 0xE0100 + (n - 16))
    else none

/-! ### Unified ideographs -/

/-- The unified ideographs. -/
def ideographs : Ranges := [
  (0x3400, 0x4DBF), (0x4E00, 0x9FFF), (0x20000, 0x2A6DF), (0x2A700, 0x2B738), (0x2B740, 0x2B81D),
  (0x2B820, 0x2CEA1), (0x2CEB0, 0x2EBE0), (0x30000, 0x3134A)]

/-- The unified ideograph with a number of four or five digits. -/
def ideograph? (digits : List Char) : Option Nat := do
  guard (digits.length = 4 || digits.length = 5)
  let code ← hexadecimalValue? digits
  guard (ideographs.contains code)
  return code

/-! ### Hangul syllables -/

/-- The first sounds of syllables. -/
def initials : List String := [
  "G", "GG", "N", "D", "DD", "R", "M", "B", "BB", "S", "SS", "", "J", "JJ", "C", "K", "T", "P", "H"]

/-- The vowels of syllables. -/
def vowels : List String := [
  "A", "AE", "YA", "YAE", "EO", "E", "YEO", "YE", "O", "WA", "WAE", "OE", "YO", "U", "WEO", "WE",
  "WI", "YU", "EU", "YI", "I"]

/-- The last sounds of syllables. -/
def finals : List String := [
  "", "G", "GG", "GS", "N", "NJ", "NH", "D", "L", "LG", "LM", "LB", "LS", "LT", "LP", "LH", "M",
  "B", "BS", "S", "SS", "NG", "J", "C", "K", "T", "P", "H"]

/-- The longest of the sounds that a text starts with, by its number, and the rest of the text. -/
def splitSound? (sounds : List String) (text : List Char) : Option (Nat × List Char) :=
  let fitting := sounds.zipIdx.filter fun (sound, _) => sound.toList.isPrefixOf text
  let longest := (fitting.map fun (sound, _) => sound.length).max?.getD 0
  (fitting.find? fun (sound, _) => sound.length = longest).map fun (_, n) => (n, text.drop longest)

/-- The Hangul syllable that consists of sounds. -/
def syllable? (sounds : List Char) : Option Nat := do
  let (first, rest) ← splitSound? initials sounds
  let (vowel, rest) ← splitSound? vowels rest
  let (last, rest) ← splitSound? finals rest
  guard rest.isEmpty
  return 0xAC00 + (first * vowels.length + vowel) * finals.length + last

end CharacterName

open CharacterName in
/-- The character with a given name. -/
def characterNamed? (name : List Char) : Option Char :=
  let code? :=
    match behind? "HANGUL SYLLABLE " name, behind? "CJK UNIFIED IDEOGRAPH-" name with
    | some sounds, _ => syllable? sounds
    | none, some digits => ideograph? digits
    | none, none =>
      let name := name.map fun c => if 'a' ≤ c && c ≤ 'z' then Char.ofNat (c.toNat - 32) else c
      (numbered? name <|> selector? name <|> listed? name)
  code?.map Char.ofNat

end ArgRules.Text
