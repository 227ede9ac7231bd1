import ArgRules.Value.Items
import ArgRules.Rule.Reading
import Mathlib.Data.Rat.Defs

/-!
# What a flag counts as

A flag can be written in many ways, and there are two ways to take what is written. It can be read,
as the fields of rules are; or it can be asked whether it counts as true, as is done with the
entries of maps that are no rules. The two agree on truth values and on plain numbers. They do not
agree on words: no word is empty, so each counts as true, `"false"` and `"off"` among them. Nor do
they agree on a fraction or a decimal that is too small for a double: it is read as zero, and it is
not zero.

## The one-sided contract

Only one of the two mistakes is possible. What is read as true counts as true; what is read as false
may count as true, and then it is belied.

## Main definitions

* `Reading.Belied` — a value is read as false and counts as true

## Main results

* `Reading.Belied.flag_eq_false` — a value that is belied is read as false
* `Reading.exists_truth_of_flag` — what a value that is read as a flag counts as
-/

namespace ArgRules

namespace Reading

/-! ### Flags and what they count as -/

/-- The values that are read as false and count as true: the words for false, none of which is
empty, and what is zero only as a double. -/
inductive Belied : Value → Prop
  | word {value : Value} {word : List Char} (written : written? value = some (some word))
      (isFalse : String.ofList (Numeral.lowered word) ∈ falseWords) : Belied value
  | fraction {q : Rat} {box : Option Nat} (nonzero : q ≠ 0)
      (rounds : (Double.ofRat q).integral? = some 0) : Belied (.number ⟨.fraction q, box⟩)
  | decimal {d : Decimal} {x : Double} (nonzero : d.isNonzero = true)
      (near : d.toDouble? = some x) (rounds : x.integral? = some 0) : Belied (.decimal d)

variable {value : Value} {word : List Char} {box : Option Nat} {b : Bool}

/-- A word is read as false exactly if it is one of the words for false. -/
theorem flagWord_eq_false_iff : flagWord word = .ok false ↔
    String.ofList (Numeral.lowered word) ∈ falseWords := by
  have hapart : ∀ text ∈ trueWords, text ∉ falseWords := by decide
  rw [flagWord]
  by_cases htrue : String.ofList (Numeral.lowered word) ∈ trueWords
  · simp [htrue, hapart _ htrue]
  · by_cases hfalse : String.ofList (Numeral.lowered word) ∈ falseWords <;> simp [htrue, hfalse]

/-- The empty text is no word. -/
theorem ne_nil_of_flagWord (h : flagWord word = .ok b) : word ≠ [] := by
  rintro rfl
  cases h

theorem flagNumber_eq_ok {n : Int} (h : flagNumber n = .ok b) :
    b = decide (n ≠ 0) := by
  rw [flagNumber] at h
  split at h
  · next hn => simp [← Except.ok.inj h, hn]
  · split at h
    · next hn => simp [← Except.ok.inj h, hn]
    · contradiction

/-- A double that is read is a whole number, and zero is read as false. -/
theorem flagDouble_eq_ok {x : Double} (h : flagDouble x = .ok b) :
    ∃ n, x.integral? = some n ∧ b = decide (n ≠ 0) := by
  rw [flagDouble] at h
  split at h
  · next n hn =>
    split at h
    · exact ⟨n, hn, flagNumber_eq_ok h⟩
    · contradiction
  · contradiction

/-- A value that is written as a word is read as that word. -/
theorem flag_of_written (h : written? value = some (some word)) : flag value = flagWord word := by
  cases value <;> simp only [written?, Value.asText?, Option.map_some, Option.map_none,
    Option.some.injEq, reduceCtorEq] at h <;> simp [flag, written?, Value.asText?, h]

/-- And it counts as true, since no word is empty. -/
theorem truth_of_written (h : written? value = some (some word)) (hne : word ≠ []) :
    value.truth = .ok true := by
  cases value with
  | text s =>
    obtain rfl : s.toList = word := by simpa [written?, Value.asText?] using h
    simpa using hne
  | mode m => cases m <;> rfl
  | bytes data =>
    have hdata : data ≠ [] := by
      rintro rfl
      have hempty : written? (.bytes []) = some (some []) := by decide
      exact hne (Option.some.inj (Option.some.inj (h.symm.trans hempty)))
    simpa [Value.truth, Value.length?, Except.map] using hdata
  | _ => simp [written?, Value.asText?] at h

theorem extent_of_integral? {x : Double} {n : Int} (h : x.integral? = some n) :
    x.extent = .exactly n := by
  rw [Double.integral?] at h
  split at h
  · next q hq =>
    rw [hq]
    obtain ⟨hden, hnum⟩ := Option.ite_none_right_eq_some.mp h
    obtain rfl := Option.some.inj hnum
    rw [(Rat.den_eq_one_iff q).mp hden]
  · contradiction

theorem flagDouble_of_integral?_zero {x : Double} (h : x.integral? = some 0) :
    flagDouble x = .ok false := by
  rw [flagDouble, h]
  decide

theorem integral?_zero (negative : Bool) : (Double.zero negative).integral? = some 0 := by
  have hscaled (exponent : Int) : Double.scaled 0 exponent = 0 := by simp [Double.scaled]
  cases negative <;> simp only [Double.zero, Double.integral?, Double.extent, hscaled] <;> rfl

/-- A double that comes from zero is read as false. -/
theorem eq_false_of_flagDouble_zero {negative : Bool} (h : flagDouble (.zero negative) = .ok b) :
    b = false := by
  rw [flagDouble_of_integral?_zero (integral?_zero negative)] at h
  exact (Except.ok.inj h).symm

/-! ### Numbers -/

/-- To compare what a value counts as with what it is read as, it is enough to look at the values
that are read as false. -/
theorem counts_iff {p : Prop} (hzero : ¬ p → b = false) (hbelied : Belied value → p)
    (hfalse : p → b = false → Belied value) : p ↔ b = true ∨ Belied value := by
  constructor
  · intro hp
    cases b with
    | true => exact Or.inl rfl
    | false => exact Or.inr (hfalse hp rfl)
  · rintro (htrue | hvalue)
    · by_contra hp
      exact Bool.false_ne_true ((hzero hp).symm.trans htrue)
    · exact hbelied hvalue

theorem flag_int {n : Int} (h : flag (.number ⟨.int n, box⟩) = .ok b) :
    n ≠ 0 ↔ b = true ∨ Belied (.number ⟨.int n, box⟩) := by
  have hbelied : ¬ Belied (.number ⟨.int n, box⟩) := by
    rintro ⟨written, -⟩
    contradiction
  have hread : flagNumber n = .ok b := by
    by_cases hfits : fitsWord n = true
    · simpa [flag, written?, Value.asText?, hfits] using h
    · simp [flag, written?, Value.asText?, hfits] at h
  rw [or_iff_left hbelied, flagNumber_eq_ok hread, decide_eq_true_iff]

theorem flag_double {x : Double} (h : flagDouble x = .ok b) :
    x.extent ≠ .exactly 0 ↔ b = true ∨ Belied (.number ⟨.double x, box⟩) := by
  have hbelied : ¬ Belied (.number ⟨.double x, box⟩) := by
    rintro ⟨written, -⟩
    contradiction
  obtain ⟨n, hn, rfl⟩ := flagDouble_eq_ok h
  rw [or_iff_left hbelied, extent_of_integral? hn, decide_eq_true_iff]
  simp

theorem flag_fraction {q : Rat} (h : flagDouble (.ofRat q) = .ok b) :
    q ≠ 0 ↔ b = true ∨ Belied (.number ⟨.fraction q, box⟩) := by
  refine counts_iff (fun hq => ?_) (fun hbelied => ?_) fun hq hb => ?_
  · rw [not_ne_iff.mp hq, Double.ofRat, Double.ofRatio, if_pos (Or.inl (by rfl))] at h
    exact eq_false_of_flagDouble_zero h
  · cases hbelied with
    | word written => contradiction
    | fraction nonzero => exact nonzero
  · obtain ⟨n, hn, hread⟩ := flagDouble_eq_ok h
    obtain rfl : n = 0 := by simpa [hb] using hread
    exact .fraction hq hn

/-- A number that is read counts as its flag says, unless it is belied. -/
theorem flag_number {n : Number} (h : flag (.number n) = .ok b) :
    (!n.isZero) = true ↔ b = true ∨ Belied (.number n) := by
  obtain ⟨amount, box⟩ := n
  cases amount with
  | int n =>
    rw [← flag_int h]
    simp [Number.isZero, Number.extent, Amount.extent, Extent.isZero]
  | double x =>
    rw [← flag_double h, Number.isZero, Number.extent, Amount.extent]
    cases x.extent <;> simp [Extent.isZero]
  | fraction q =>
    rw [← flag_fraction h, Number.isZero, Number.extent, Amount.extent]
    simp [Extent.isZero]

/-- A decimal is read by way of the nearest double. -/
theorem flag_decimal_iff {d : Decimal} :
    flag (.decimal d) = .ok b ↔ ∃ x, d.toDouble? = some x ∧ flagDouble x = .ok b := by
  cases hnear : d.toDouble? <;> simp [flag, written?, Value.asText?, hnear]

theorem flag_decimal {d : Decimal} (h : flag (.decimal d) = .ok b) :
    d.isNonzero = true ↔ b = true ∨ Belied (.decimal d) := by
  obtain ⟨x, hnear, h⟩ := flag_decimal_iff.mp h
  refine counts_iff (fun hd => ?_) (fun hbelied => ?_) fun hd hb => ?_
  · rw [Decimal.isNonzero.eq_def] at hd
    split at hd
    · obtain rfl := Option.some.inj hnear
      rw [Double.ofDecimal, if_pos rfl] at h
      exact eq_false_of_flagDouble_zero h
    · contradiction
  · cases hbelied with
    | word written => contradiction
    | decimal nonzero => exact nonzero
  · obtain ⟨n, hn, hread⟩ := flagDouble_eq_ok h
    obtain rfl : n = 0 := by simpa [hb] using hread
    exact .decimal hd hnear hn

/-! ### Flags -/

/-- **What a flag counts as.** A value that is read as true counts as true, and one that is read as
false counts as true exactly if it is belied. -/
theorem exists_truth_of_flag (h : flag value = .ok b) :
    ∃ counts, value.truth = .ok counts ∧ (counts = true ↔ b = true ∨ Belied value) := by
  cases hwritten : written? value with
  | some written =>
    cases written with
    | some word =>
      rw [flag_of_written hwritten] at h
      refine ⟨true, truth_of_written hwritten (ne_nil_of_flagWord h), iff_of_true rfl ?_⟩
      cases b with
      | true => exact Or.inl rfl
      | false => exact Or.inr (.word hwritten (flagWord_eq_false_iff.mp h))
    | none =>
      -- the bytes that encode no text
      cases value with
      | bytes data =>
        simp only [flag, hwritten] at h
        contradiction
      | _ => simp [written?, Value.asText?] at hwritten
  | none =>
    cases value with
    | bool b' =>
      obtain rfl := Except.ok.inj h
      refine ⟨b', rfl, (or_iff_left ?_).symm⟩
      rintro ⟨written, -⟩
      contradiction
    | number n => exact ⟨!n.isZero, rfl, flag_number h⟩
    | decimal d => exact ⟨d.isNonzero, rfl, flag_decimal h⟩
    | text | mode | bytes => contradiction
    | _ => simp [flag, written?, Value.asText?] at h

/-- A value that is belied is read as false. -/
theorem Belied.flag_eq_false (h : Belied value) : flag value = .ok false := by
  cases h with
  | word written isFalse => rw [flag_of_written written, flagWord_eq_false_iff.mpr isFalse]
  | fraction nonzero rounds => exact flagDouble_of_integral?_zero rounds
  | decimal nonzero near rounds =>
    exact flag_decimal_iff.mpr ⟨_, near, flagDouble_of_integral?_zero rounds⟩

end Reading

end ArgRules
