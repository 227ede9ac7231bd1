/-!
# The options of patterns

A pattern is read under options: whether the case of letters matters, whether the anchors know of
lines, and so on. They can be given for a whole pattern and changed for a part of it.

## The letters contract

Three of the options say which letters count: those of the ASCII alphabet, those of the locale, or
those of all scripts. To turn one of them on for a part turns the other two off.

## Main definitions

* `Pattern.Flags` — the options
* `Pattern.Flags.ofLetter?` — the option that a letter stands for
* `Pattern.Flags.within` — the options of a part that turns some on and some off
-/

namespace ArgRules.Pattern

/-- The options of a pattern. -/
structure Flags where
  ignoreCase : Bool
  multiline : Bool
  dotAll : Bool
  verbose : Bool
  ascii : Bool
  locale : Bool
  /-- Named classes and letters are to be taken from all scripts; said outright. -/
  unicode : Bool
  /-- No repetitions are allowed. -/
  template : Bool
deriving DecidableEq

namespace Flags

/-- No options. -/
def empty : Flags := ⟨false, false, false, false, false, false, false, false⟩

/-- The option that a letter stands for. -/
def ofLetter? : Char → Option Flags
  | 'i' => some { empty with ignoreCase := true }
  | 'm' => some { empty with multiline := true }
  | 's' => some { empty with dotAll := true }
  | 'x' => some { empty with verbose := true }
  | 'a' => some { empty with ascii := true }
  | 'L' => some { empty with locale := true }
  | 'u' => some { empty with unicode := true }
  | 't' => some { empty with template := true }
  | _ => none

/-- The options of either of two sets. -/
def union (a b : Flags) : Flags where
  ignoreCase := a.ignoreCase || b.ignoreCase
  multiline := a.multiline || b.multiline
  dotAll := a.dotAll || b.dotAll
  verbose := a.verbose || b.verbose
  ascii := a.ascii || b.ascii
  locale := a.locale || b.locale
  unicode := a.unicode || b.unicode
  template := a.template || b.template

/-- The options of the first set that are not in the second. -/
def without (a b : Flags) : Flags where
  ignoreCase := a.ignoreCase && !b.ignoreCase
  multiline := a.multiline && !b.multiline
  dotAll := a.dotAll && !b.dotAll
  verbose := a.verbose && !b.verbose
  ascii := a.ascii && !b.ascii
  locale := a.locale && !b.locale
  unicode := a.unicode && !b.unicode
  template := a.template && !b.template

/-- Whether a set holds an option about the choice of letters. -/
def choosesLetters (flags : Flags) : Bool := flags.ascii || flags.locale || flags.unicode

/-- Whether a set holds at most one option about the choice of letters. -/
def consistent (flags : Flags) : Bool :=
  [flags.ascii, flags.locale, flags.unicode].count true ≤ 1

/-- The options inside a part that turns some on and some off. -/
def within (flags added removed : Flags) : Flags :=
  let base := if added.choosesLetters
    then { flags with ascii := false, locale := false, unicode := false } else flags
  (base.union added).without removed

end Flags

end ArgRules.Pattern
