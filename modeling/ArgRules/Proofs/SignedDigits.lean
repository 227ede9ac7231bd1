import ArgRules.Proofs.Grammar

/-!
# The texts of whole numbers

A text is taken for that of a whole number if it is an optional sign and digits. `Value.isIntegerText`
reads it from left to right. The rule can also be written as a pattern, and here it is proved that
the two agree on every text, and which texts these are.

## The end of the text

The pattern ends in an anchor that also holds before a line feed that ends the text. So next to the
texts of the grammar there are these texts with a line feed behind them, and no others. Nothing can
follow the line feed, and one that stands anywhere else is refused.

## Main definitions

* `IsSignedDigits` — the grammar: an optional sign and digits
* `Numeral.wholePattern` — the rule as a pattern

## Main results

* `Numeral.attemptAt_wholePattern` — the pattern matches at the start of a text exactly if the text
  is taken for that of a whole number
* `Value.isIntegerFormatted_text` — which texts are taken
-/

namespace ArgRules

/-! ### The grammar -/

/-- A text is an optional sign and digits, at least one of them. -/
def IsSignedDigits (text : String) : Prop :=
  ∃ sign digits : String, text = sign ++ digits ∧ sign ∈ ["", "+", "-"] ∧ digits ≠ "" ∧
    ∀ c ∈ digits.toList, '0' ≤ c ∧ c ≤ '9'

/-- The characters of an optional sign. -/
def IsSign (chars : List Char) : Prop := chars = [] ∨ chars = ['+'] ∨ chars = ['-']

/-- At least one character, and digits only. -/
def IsDigits (chars : List Char) : Prop :=
  chars ≠ [] ∧ ∀ c ∈ chars, Text.isAsciiDigit c = true

theorem Text.isAsciiDigit_iff {c : Char} : isAsciiDigit c = true ↔ '0' ≤ c ∧ c ≤ '9' := by
  rw [isAsciiDigit, Bool.and_eq_true, decide_eq_true_iff, decide_eq_true_iff]

theorem isSignedDigits_iff {text : String} :
    IsSignedDigits text ↔ ∃ sign digits, IsSign sign ∧ IsDigits digits ∧
      text.toList = sign ++ digits := by
  simp only [IsSignedDigits, IsDigits, Text.isAsciiDigit_iff]
  constructor
  · rintro ⟨sign, digits, rfl, hsign, hne, hdigits⟩
    refine ⟨sign.toList, digits.toList, ?_, ⟨by simpa using hne, hdigits⟩, by simp⟩
    simp only [List.mem_cons, List.not_mem_nil, or_false] at hsign
    rcases hsign with rfl | rfl | rfl
    · exact Or.inl rfl
    · exact Or.inr (Or.inl rfl)
    · exact Or.inr (Or.inr rfl)
  · rintro ⟨sign, digits, hsign, ⟨hne, hdigits⟩, htext⟩
    refine ⟨.ofList sign, .ofList digits, String.toList_inj.mp (by simp [htext]), ?_, ?_, ?_⟩
    · rcases hsign with rfl | rfl | rfl <;> simp
    · simpa [← String.toList_inj] using hne
    · simpa using hdigits

/-- The numerals are the signed digits, with at most a line feed behind them. -/
theorem isIntegerNumeral_iff {chars : List Char} :
    IsIntegerNumeral chars ↔ ∃ sign digits last, IsSign sign ∧ IsDigits digits ∧
      Naming.MayBreak last ∧ chars = sign ++ (digits ++ last) := by
  constructor
  · rintro ⟨sign, digits, last, rfl, hsign, hne, hdigits, hlast⟩
    exact ⟨sign, digits, last, hsign, ⟨hne, hdigits⟩, hlast, List.append_assoc ..⟩
  · rintro ⟨sign, digits, last, hsign, ⟨hne, hdigits⟩, hlast, rfl⟩
    exact ⟨sign, digits, last, (List.append_assoc ..).symm, hsign, hne, hdigits, hlast⟩

theorem isIntegerNumeral_toList_iff {text : String} :
    IsIntegerNumeral text.toList ↔
      IsSignedDigits text ∨ ∃ stem, text = stem ++ "\n" ∧ IsSignedDigits stem := by
  rw [Naming.breaks_iff, isIntegerNumeral_iff]
  simp only [isSignedDigits_iff]
  constructor
  · rintro ⟨sign, digits, last, hsign, hdigits, hlast, htext⟩
    refine ⟨.ofList (sign ++ digits), last, hlast, ?_, sign, digits, hsign, hdigits, ?_⟩
    · rw [htext, String.toList_ofList, List.append_assoc]
    · exact String.toList_ofList
  · rintro ⟨stem, last, hlast, htext, sign, digits, hsign, hdigits, hstem⟩
    exact ⟨sign, digits, last, hsign, hdigits, hlast, by rw [htext, hstem, List.append_assoc]⟩

/-! ### The pattern -/

namespace Numeral

open Pattern (Node Place CharTest Member)

/-- The test for a sign. -/
def signTest : CharTest := ⟨.set false [.one '+'.toNat, .one '-'.toNat], .exact, false⟩

/-- The test for a digit. -/
def digitTest : CharTest := ⟨.set false [.range '0'.toNat '9'.toNat], .exact, false⟩

/-- The pattern of an optional sign and digits. -/
def wholePattern : Pattern :=
  Naming.written "^[+\\-]?[0-9]+$" 1
    [.anchor .textStart, .times 0 (some 1) .greedy (.char signTest),
      .times 1 none .greedy (.char digitTest), .anchor .lastLineEnd]

/-- The tree of the pattern is that of its source. -/
theorem compile_wholePattern :
    (Pattern.compile wholePattern.source .empty).toOption = some wholePattern := by
  decide +kernel

theorem accepts_signTest {c : Char} : signTest.accepts c = true ↔ c = '+' ∨ c = '-' := by
  have hmembers : signTest.accepts c =
      (decide (c.toNat = '+'.toNat) || decide (c.toNat = '-'.toNat)) := by
    simp [signTest, CharTest.accepts, CharTest.setHolds, CharTest.membersHold,
      Member.needsLowering, Member.isCased, Member.holds]
  rw [hmembers, Bool.or_eq_true, decide_eq_true_iff, decide_eq_true_iff, Char.toNat_inj,
    Char.toNat_inj]

theorem accepts_digitTest (c : Char) : digitTest.accepts c = Text.isAsciiDigit c := by
  have hmembers : digitTest.accepts c =
      (decide ('0'.toNat ≤ c.toNat) && decide (c.toNat ≤ '9'.toNat)) := by
    simp [digitTest, CharTest.accepts, CharTest.setHolds, CharTest.membersHold,
      Member.needsLowering, Member.isCased, Member.holds]
  rw [hmembers, Text.isAsciiDigit]
  rfl

theorem describes_sign : (Node.times 0 (some 1) .greedy (.char signTest)).Describes IsSign := by
  intro p q
  rw [Node.describes_optional rfl p q]
  simp [accepts_signTest, IsSign, or_and_right, exists_or]

theorem describes_digits :
    (Node.times 1 none .greedy (.char digitTest)).Describes IsDigits := by
  intro p q
  rw [Node.describes_some rfl p q]
  simp only [accepts_digitTest, IsDigits]

/-- **The pattern leads through the numerals,** from the start of a text to its end or to a line feed
that ends it. -/
theorem leads_wholePattern_iff {text : List Char} :
    (∃ q, wholePattern.node.Leads (.start text) q) ↔ IsIntegerNumeral text := by
  have hstart : Pattern.Anchor.textStart.holds (.start text) = true := rfl
  simp only [wholePattern, Naming.written, Node.sequence, Node.leads_seq_iff, Node.leads_anchor_iff,
    describes_sign _ _, describes_digits _ _, Node.holds_lastLineEnd_iff, isIntegerNumeral_iff]
  constructor
  · rintro ⟨q, _, ⟨-, rfl⟩, r, ⟨sign, hsign, hr⟩, t, ⟨digits, hdigits, ht⟩, hbreak, rfl⟩
    refine ⟨sign, digits, q.after, hsign, hdigits, hbreak, ?_⟩
    have htext : text = sign ++ r.after := hr.after
    rw [htext, ht.after]
  · rintro ⟨sign, digits, last, hsign, hdigits, hbreak, htext⟩
    -- the place behind each part is where its characters have been read
    obtain ⟨r, hr, hrest⟩ := Place.exists_reads (show (Place.start text).after = _ from htext)
    obtain ⟨q, hq, rfl⟩ := Place.exists_reads hrest
    exact ⟨q, _, ⟨hstart, rfl⟩, r, ⟨sign, hsign, hr⟩, q, ⟨digits, hdigits, hq⟩, hbreak, rfl⟩

/-- **The pattern matches at the start of a text** exactly if the text is taken for that of a whole
number. -/
theorem attemptAt_wholePattern (text : List Char) :
    (wholePattern.node.attemptAt text.length (.start text)).1 = Value.isIntegerText text := by
  rw [Bool.eq_iff_iff, Node.attemptAt_iff (by decide), leads_wholePattern_iff,
    Value.isIntegerText_iff]

end Numeral

namespace Value

/-- **Which texts are taken for those of whole numbers:** the ones that the pattern matches at their
start, which are an optional sign and digits, with or without a line feed behind them. -/
theorem isIntegerFormatted_text (s : String) :
    ∃ pattern answer,
      (Pattern.compile (.text "^[+\\-]?[0-9]+$") .empty).toOption = some pattern ∧
      isIntegerFormatted (.text s) = .ok answer ∧
      (pattern.node.attemptAt s.length (.start s.toList)).1 = answer ∧
      (answer = true ↔
        IsSignedDigits s ∨ ∃ stem, s = stem ++ "\n" ∧ IsSignedDigits stem) := by
  refine ⟨Numeral.wholePattern, isIntegerText s.toList, Numeral.compile_wholePattern, rfl,
    Numeral.attemptAt_wholePattern s.toList, ?_⟩
  rw [isIntegerText_iff, isIntegerNumeral_toList_iff]

/-- A line feed behind the digits is overlooked, though the grammar has none. -/
theorem isIntegerFormatted_overlooks_sample :
    isIntegerFormatted (.text "5\n") = .ok true ∧ ¬ IsSignedDigits "5\n" := by
  refine ⟨rfl, fun hsigned => ?_⟩
  obtain ⟨sign, digits, hsign, ⟨-, hdigits⟩, htext⟩ := isSignedDigits_iff.mp hsigned
  -- a line feed is neither a sign nor a digit
  have hmem : '\n' ∈ sign ++ digits := htext ▸ (by simp)
  rcases List.mem_append.mp hmem with hfeed | hfeed
  · rcases hsign with rfl | rfl | rfl <;> simp at hfeed
  · exact absurd (hdigits '\n' hfeed) (by decide)

end Value

end ArgRules
