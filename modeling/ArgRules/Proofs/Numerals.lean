import ArgRules.Proofs.Answers
import ArgRules.Proofs.Clamping

/-!
# Whole numbers by their texts

The check of a whole number does not look at the number but at its text, which has to be a sign, if
any, and digits. Here it is proved that this sorts the numbers by their types, and not by what they
stand for: a whole number of any size is taken, a fraction exactly if its denominator is one, and a
number of double precision never, not even if it stands for a whole number.

## The texts that are refused

A text is refused because of one character in it that no numeral has. The text of a number of double
precision has a point or an exponent, or it is one of two words with an `n` in them; where it has
which of them is decided by its layout. The text of a fraction with another denominator than one has
a bar.

## What is left to the limits

A number that is refused is not compared with anything. The others stand for a whole number, and the
reasons against them are told by comparing that one with the limits.

## Main definitions

* `Number.whole?` — the whole number that a number is written as
* `Check.integerReasons` — the reasons that comparisons with limits give
* `Check.IntegerByText` — what the check of a whole number does

## Main results

* `Double.exists_mark` — the text of a number of double precision has a mark
* `Value.isIntegerFormatted_eq_isSome` — which numbers have the text of a whole number
* `Check.integer_byText` — the check of a whole number
-/

namespace ArgRules

/-! ### The characters of numerals -/

/-- Whether a character can stand in the text of a whole number. -/
def Text.isNumeralChar (c : Char) : Bool := isAsciiDigit c || c ∈ ['+', '-', '\n']

theorem IsIntegerNumeral.characters {cs : List Char} (h : IsIntegerNumeral cs) :
    ∀ c ∈ cs, Text.isNumeralChar c = true := by
  obtain ⟨sign, digits, ending, rfl, hsign, -, hdigits, hending⟩ := h
  rw [List.forall_mem_append, List.forall_mem_append]
  refine ⟨⟨?_, fun c hc => ?_⟩, ?_⟩
  · rcases hsign with rfl | rfl | rfl <;> simp [Text.isNumeralChar]
  · rw [Text.isNumeralChar, hdigits c hc, Bool.true_or]
  · rcases hending with rfl | rfl <;> simp [Text.isNumeralChar]

/-- One character that cannot stand in a numeral is enough. -/
theorem Value.isIntegerText_of_mem {cs : List Char} {c : Char} (hmem : c ∈ cs)
    (hc : Text.isNumeralChar c = false) : isIntegerText cs = false := by
  refine Bool.eq_false_iff.mpr fun h => ?_
  rw [((isIntegerText_iff cs).mp h).characters c hmem] at hc
  contradiction

/-! ### The marks of double precision -/

namespace FloatLayout

/-- What tells the text of a number of double precision from that of a whole number: the point, the
letter of the exponent, and a letter of the words. -/
def marks : List Char := ['.', 'e', 'n']

/-- A positive number is written with a point or an exponent. -/
theorem exists_mark_write (digits : Nat) (power : Int) :
    ∃ c ∈ standalone.write digits power, c ∈ marks := by
  have hdigits : Nat.toDigits 10 digits ≠ [] := Nat.toDigits_ne_nil
  dsimp only [write]
  split
  · refine ⟨'.', ?_, by decide⟩
    split
    · simp [standalone]
    · split <;> simp
  · split
    · contradiction
    · exact ⟨'e', by simp [exponentText], by decide⟩
    · exact ⟨'.', by simp, by decide⟩

theorem exists_mark_magnitude (x : Double) : ∃ c ∈ standalone.magnitude x, c ∈ marks := by
  unfold magnitude
  split
  · exact ⟨'n', by decide, by decide⟩
  · exact ⟨'n', by decide, by decide⟩
  · exact ⟨'.', by decide, by decide⟩
  · exact exists_mark_write _ _

end FloatLayout

/-- **The text of a number of double precision has a mark.** -/
theorem Double.exists_mark (x : Double) : ∃ c ∈ x.text.toList, c ∈ FloatLayout.marks := by
  obtain ⟨c, hmem, hmark⟩ := FloatLayout.exists_mark_magnitude x
  refine ⟨c, ?_, hmark⟩
  rw [text, String.toList_ofList, layOut]
  split
  · exact List.mem_cons_of_mem _ hmem
  · exact hmem

/-! ### Which numbers are written as whole ones -/

namespace Number

/-- The whole number that a number is written as, if it is written as one. A number of double
precision is not, whatever it stands for. -/
def whole? : Number → Option Int
  | ⟨.int n, _⟩ => some n
  | ⟨.double _, _⟩ => none
  | ⟨.fraction q, _⟩ => if q.den = 1 then some q.num else none

variable {n : Number} {k : Int}

/-- A number that is written as a whole one stands for it. -/
theorem extent_of_whole? (h : n.whole? = some k) : n.extent = .exactly k := by
  obtain ⟨amount, box⟩ := n
  cases amount with
  | int m => exact congrArg (fun k : Int => Extent.exactly k) (Option.some.inj h)
  | double x => contradiction
  | fraction q =>
    rw [whole?] at h
    split at h
    · next hden =>
      obtain rfl := Option.some.inj h
      exact congrArg Extent.exactly (Rat.ext rfl hden)
    · contradiction

theorem exceeds_of_whole? (h : n.whole? = some k) (limit : Bound) :
    n.exceeds limit.toNumber = decide (limit.content < k) := by
  rw [exceeds, extent_of_whole? h, extent, Bound.toNumber, Amount.extent, Extent.lt_exactly,
    decide_eq_decide]
  exact Rat.intCast_lt_intCast

theorem fallsBelow_of_whole? (h : n.whole? = some k) (limit : Bound) :
    n.fallsBelow limit.toNumber = decide (k < limit.content) := by
  rw [fallsBelow, extent_of_whole? h, extent, Bound.toNumber, Amount.extent, Extent.lt_exactly,
    decide_eq_decide]
  exact Rat.intCast_lt_intCast

end Number

namespace Value

variable {n : Number}

theorem isIntegerFormatted_double (x : Double) (box : Option Nat) :
    isIntegerFormatted (.number ⟨.double x, box⟩) = .ok false := by
  obtain ⟨c, hmem, hmark⟩ := x.exists_mark
  have hall : FloatLayout.marks.all (fun mark => !Text.isNumeralChar mark) = true := by decide
  have hc : Text.isNumeralChar c = false := by simpa using List.all_eq_true.mp hall c hmark
  exact congrArg Except.ok (isIntegerText_of_mem hmem hc)

theorem isWritable_of_intText {k : Int} {text : String} (h : intText k = .ok text) :
    Numeral.isWritable k = true := by
  by_contra hlong
  rw [intText, if_neg hlong] at h
  contradiction

/-- A fraction is written as a whole number if its denominator is one, and else with a bar. -/
theorem isIntegerFormatted_fraction {q : Rat} {box : Option Nat} {text : String}
    (h : display (.number ⟨.fraction q, box⟩) = .ok text) :
    isIntegerFormatted (.number ⟨.fraction q, box⟩) = .ok (decide (q.den = 1)) := by
  have hshown := h
  obtain ⟨numerator, hnumerator, h⟩ := bind_eq_ok.mp h
  split at h
  · next hden =>
    obtain rfl := pure_eq_ok.mp h
    have hwhole : isIntegerFormatted (.int q.num) = .ok true :=
      isIntegerFormatted_of_isWritable (isWritable_of_intText hnumerator)
    rw [isIntegerFormatted, display_int, hnumerator] at hwhole
    rw [isIntegerFormatted, hshown, decide_eq_true hden]
    exact hwhole
  · next hden =>
    obtain ⟨denominator, -, h⟩ := bind_eq_ok.mp h
    obtain rfl := pure_eq_ok.mp h
    rw [isIntegerFormatted, hshown, decide_eq_false hden]
    exact congrArg Except.ok (isIntegerText_of_mem (c := '/') (by simp) (by decide))

/-- **Which numbers have the text of a whole number,** of those that have a text. -/
theorem isIntegerFormatted_eq_isSome (h : Answered (display (.number n))) :
    isIntegerFormatted (.number n) = .ok n.whole?.isSome := by
  obtain ⟨text, htext⟩ := h
  obtain ⟨amount, box⟩ := n
  cases amount with
  | int m => exact isIntegerFormatted_of_isWritable (isWritable_of_intText htext)
  | double x => exact isIntegerFormatted_double x box
  | fraction q =>
    rw [isIntegerFormatted_fraction htext, Number.whole?]
    split <;> simp_all

end Value

/-! ### The check of a whole number -/

namespace Bounds

/-- A limit that does not move a number gives the reason against it, if there is one. -/
theorem applyLimit_standing {outside : Number → Number → Except Fault Bool}
    (isOutside : Number → Number → Bool) (ho : ∀ a b, outside a b = .ok (isOutside a b))
    (phrase : String) (n : Number) {limit? : Option Bound}
    (hwritable : ∀ limit ∈ limit?, Numeral.isWritable limit.content = true) :
    applyLimit .numbers outside phrase false n (limit?.map (·.toNumber)) =
      .ok ⟨none, (limit?.toList.filter fun limit => isOutside n limit.toNumber).map
        fun limit => phrase ++ toString limit.content⟩ := by
  cases limit? with
  | none => rfl
  | some limit =>
    have htext : Scale.numbers.write limit.toNumber = .ok (toString limit.content) := by
      simp only [Scale.numbers, Value.numberText, Bound.toNumber, Value.intText,
        if_pos (hwritable limit rfl)]
    rw [Option.map_some, applyLimit, ho]
    cases h : isOutside n limit.toNumber with
    | false => simp [h, bind, Except.bind, pure, Except.pure]
    | true => simp [h, htext, bind, Except.bind, pure, Except.pure]

end Bounds

namespace Check

/-- The reason against a number that is not written as a whole one. -/
def notWhole : String := "is not an integer"

/-- The reasons that the comparisons of a whole number with its limits give: one for each limit that
it passes, unless it may be moved. -/
def integerReasons (low high : Option Bound) (autobound : Bool) (k : Int) : List String :=
  if autobound then []
  else
    ((high.toList.filter fun limit => decide (limit.content < k)).map
        fun limit => Bounds.abovePhrase ++ toString limit.content) ++
      (low.toList.filter fun limit => decide (k < limit.content)).map
        fun limit => Bounds.belowPhrase ++ toString limit.content

/-- What the check of a whole number does with a number, for given limits. -/
structure IntegerByText (n : Number) (low high : Option Bound) (autobound : Bool) : Prop where
  /-- The text is that of a whole number exactly if the number is written as one. -/
  formatted : Value.isIntegerFormatted (.number n) = .ok n.whole?.isSome
  /-- The check comes to an end. -/
  returns : ∀ tag, Answered (integer (.integer low high autobound) (.number n) tag)
  /-- That the number is not whole is the reason against the others, and against them alone. -/
  refused : ∀ finding, integer (.integer low high autobound) (.number n) .number = .ok finding →
    (finding.reasons = [notWhole] ↔ n.whole? = none)
  /-- What is refused is left as it is, and the rule is not looked at. -/
  unexamined : n.whole? = none →
    ∀ rule, integer rule (.number n) .number = .ok (.unchanged [notWhole])
  /-- What is not refused is compared with the limits, as the whole number that it is written
  as. -/
  compared : ∀ k ∈ n.whole?, ∃ finding,
    integer (.integer low high autobound) (.number n) .number = .ok finding ∧
      finding.reasons = integerReasons low high autobound k ∧
      finding.replacement.getD (.number n) = .number
        (if autobound then n.clamped (low.map (·.toNumber)) (high.map (·.toNumber)) else n)

variable {n : Number} {low high : Option Bound} {autobound : Bool} {k : Int}

/-- No comparison gives the reason against what is not whole. -/
theorem integerReasons_ne : integerReasons low high autobound k ≠ [notWhole] := by
  intro h
  have hmem : notWhole ∈ integerReasons low high autobound k := h ▸ List.mem_singleton_self _
  rw [integerReasons] at hmem
  split at hmem
  · simp at hmem
  · rcases List.mem_append.mp hmem with hmem | hmem
    · obtain ⟨limit, -, heq⟩ := List.mem_map.mp hmem
      exact Text.append_ne (by decide) (by decide) _ heq
    · obtain ⟨limit, -, heq⟩ := List.mem_map.mp hmem
      exact Text.append_ne (by decide) (by decide) _ heq

theorem integer_of_not_whole (hformatted : Value.isIntegerFormatted (.number n) = .ok false)
    (rule : Constraint) : integer rule (.number n) .number = .ok (.unchanged [notWhole]) :=
  bind_eq_ok.mpr ⟨false, hformatted, rfl⟩

/-- Limits that can be written compare a number with the whole number that it is written as. -/
theorem check_of_whole (hk : n.whole? = some k)
    (hwritable : (Constraint.integer low high autobound).Writable) :
    ∃ replacement, Bounds.check .numbers (low.map (·.toNumber)) (high.map (·.toNumber)) autobound
        n = .ok ⟨replacement, integerReasons low high autobound k⟩ ∧
      replacement.getD n = if autobound then
        n.clamped (low.map (·.toNumber)) (high.map (·.toNumber)) else n := by
  cases autobound with
  | true => exact Bounds.check_moving _ _ n
  | false =>
    have hlow : ∀ limit ∈ low, Numeral.isWritable limit.content = true := fun limit hlimit =>
      hwritable _ (List.mem_map_of_mem (List.mem_append_left _ (Option.mem_toList.mpr hlimit)))
    have hhigh : ∀ limit ∈ high, Numeral.isWritable limit.content = true := fun limit hlimit =>
      hwritable _ (List.mem_map_of_mem (List.mem_append_right _ (Option.mem_toList.mpr hlimit)))
    have habove : Bounds.applyLimit .numbers Scale.numbers.exceeds Bounds.abovePhrase false n
        (high.map (·.toNumber)) = _ :=
      Bounds.applyLimit_standing Number.exceeds (fun _ _ => rfl) _ n hhigh
    have hbelow : Bounds.applyLimit .numbers Scale.numbers.fallsBelow Bounds.belowPhrase false n
        (low.map (·.toNumber)) = _ :=
      Bounds.applyLimit_standing Number.fallsBelow (fun _ _ => rfl) _ n hlow
    simp only [Number.exceeds_of_whole? hk] at habove
    simp only [Number.fallsBelow_of_whole? hk] at hbelow
    exact ⟨none, bind_eq_ok.mpr ⟨_, habove, bind_eq_ok.mpr ⟨_, hbelow, rfl⟩⟩, rfl⟩

/-- A check of a number that comes to an end for its own tag does so for every tag. -/
theorem answered_integer {rule : Constraint} (h : Answered (integer rule (.number n) .number))
    (tag : Tag) : Answered (integer rule (.number n) tag) := by
  cases tag with
  | number => exact h
  | _ => exact answered_pure _

/-- **The check of a whole number takes exactly what is written as one,** of the numbers that have a
text, and it compares that with its limits. -/
theorem integer_byText (hshown : Answered (Value.display (.number n)))
    (hwritable : (Constraint.integer low high autobound).Writable) :
    IntegerByText n low high autobound := by
  have hformatted := Value.isIntegerFormatted_eq_isSome hshown
  cases hk : n.whole? with
  | none =>
    rw [hk] at hformatted
    have hrefused := integer_of_not_whole hformatted
    refine ⟨hk ▸ hformatted, answered_integer ⟨_, hrefused _⟩, fun finding h => ?_,
      fun _ => hrefused, fun k hsome => ?_⟩
    · rw [hrefused] at h
      simp [hk, ← Except.ok.inj h, Finding.unchanged]
    · rw [hk] at hsome
      contradiction
  | some k =>
    rw [hk] at hformatted
    obtain ⟨replacement, hcheck, hleft⟩ := check_of_whole hk hwritable
    have htaken := integer_of_bounds hformatted hcheck
    refine ⟨hk ▸ hformatted, answered_integer ⟨_, htaken⟩, fun finding h => ?_,
      fun hnone => ?_, fun other hother => ?_⟩
    · rw [htaken] at h
      simp [hk, ← Except.ok.inj h, ofNumbers, integerReasons_ne]
    · rw [hk] at hnone
      contradiction
    · obtain rfl := Option.some.inj (hk.symm.trans hother)
      refine ⟨_, htaken, rfl, ?_⟩
      rw [← hleft, ofNumbers, Option.getD_map]

/-- The fraction seven is compared with its limits, and the negative zero of double precision is
refused. -/
theorem integer_byText_seven :
    (∃ finding, integer (.integer (some (.alone 0)) (some (.alone 5)) false) (.number (.fraction 7)) .number =
      .ok finding ∧ finding.reasons = ["exceeds allowed maximum of 5"]) ∧
    integer (.integer (some (.alone 0)) (some (.alone 5)) false) (.number (.double (.zero true))) .number =
      .ok (.unchanged [notWhole]) := by
  have hshort : ∀ k ∈ [0, 5, 7], Numeral.isWritable k = true := by decide +kernel
  have hwritable : (Constraint.integer (some (.alone 0)) (some (.alone 5)) false).Writable := fun k hk =>
    hshort k (List.mem_append_left [7] hk)
  have hseven : Answered (Value.display (.number (.fraction 7))) :=
    (Value.answered_intText (hshort 7 (by simp))).bind fun _ _ => answered_pure _
  have htaken : IntegerByText (.fraction 7) (some (.alone 0)) (some (.alone 5)) false :=
    integer_byText hseven hwritable
  have hrefused : IntegerByText (.double (.zero true)) (some (.alone 0)) (some (.alone 5)) false :=
    integer_byText (answered_ok _) hwritable
  obtain ⟨finding, hfinding, hreasons, -⟩ := htaken.compared 7 rfl
  exact ⟨⟨finding, hfinding, hreasons⟩, hrefused.unexamined rfl _⟩

end Check

end ArgRules
