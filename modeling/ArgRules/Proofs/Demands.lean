import ArgRules.Verdict
import Mathlib.Data.List.TakeWhile
import Mathlib.Tactic.Common

/-!
# What a rule demands of a value

A check says whether a value passes by computing reasons against it, and it may stop at a fault on
the way. Here the same demands are stated outright, as propositions about the rule and the value:
when a value is exempt, when it is examined, and what the constraints of each kind admit. The
theorems of this module say that a check that does not stop has no reasons exactly if the value is
admitted.

## Blank values

A blank value is a falsey value other than zero: null, the undefined mark, the false truth value,
the empty text and not-a-number. Blank values are what a rule can exempt, and what is not examined
unless it is a text where a text is expected. Zero of any type is neither.

## Bounds

Where a rule moves values to its bounds, no number is outside of them as far as reasons go. What is
moved was outside, and it is moved to a bound.

## Main definitions

* `Value.IsBlank` — the falsey values other than zero
* `Rule.Exempts`, `Rule.Examines` — whether a value is exempt, and whether it is examined
* `Constraint.Admits` — what the constraints of a kind admit

## Main results

* `Rule.exempts_iff`, `Rule.examines_iff` — the two questions as propositions
* `Kind.check_spec` — a check has no reasons exactly if the constraints admit the value, and only a
  number outside its bounds is moved, and to a bound
-/

namespace ArgRules

/-! ### Computations that may stop -/

section Stopping

variable {ε α β : Type}

theorem bind_eq_ok {x : Except ε α} {f : α → Except ε β} {b : β} :
    x >>= f = .ok b ↔ ∃ a, x = .ok a ∧ f a = .ok b := by
  cases x <;> simp [bind, Except.bind]

theorem pure_eq_ok {a b : α} : (pure a : Except ε α) = .ok b ↔ a = b := by
  simp [pure, Except.pure]

theorem map_eq_ok {x : Except ε α} {f : α → β} {b : β} :
    f <$> x = .ok b ↔ ∃ a, x = .ok a ∧ f a = b := by
  cases x <;> simp [Functor.map, Except.map]

/-- What is seen of a result is seen of one that there is. -/
theorem exists_of_toOption_map {x : Except ε α} {f : α → β} {b : β}
    (h : x.toOption.map f = some b) : ∃ a, x = .ok a ∧ f a = b := by
  cases x with
  | error e => simp [Except.toOption] at h
  | ok a => exact ⟨a, rfl, Option.some.inj h⟩

end Stopping

/-- A text differs from every text that begins with another character. -/
theorem Text.append_ne {start text : String} (hne : start.toList ≠ [])
    (hhead : start.toList.head? ≠ text.toList.head?) (rest : String) : start ++ rest ≠ text := by
  obtain ⟨c, cs, hstart⟩ := List.exists_cons_of_ne_nil hne
  rintro rfl
  rw [String.toList_append, hstart] at hhead
  exact hhead rfl

/-! ### Blank values -/

namespace Value

/-- The falsey values other than zero. -/
def IsBlank : Value → Prop
  | null | undefined => True
  | bool b => b = false
  | text s => s = ""
  | number n => n.isNan = true
  | _ => False

/-- The number zero, of any type and sign. -/
def IsZero : Value → Prop
  | number n => n.isZero = true
  | _ => False

theorem not_isBlank_of_isZero (value : Value) (h : value.IsZero) : ¬ value.IsBlank := by
  cases value with
  | number n =>
    obtain ⟨amount, box⟩ := n
    cases amount with
    | double x => cases x <;> simp_all [IsZero, IsBlank, Number.isZero, Number.isNan,
        Number.extent, Amount.extent, Amount.isNan, Double.isNan, Extent.isZero]
    | _ => simp [IsBlank, Number.isNan, Amount.isNan]
  | _ => exact h.elim

theorem isZero_iff {value : Value} {answer : Bool} (h : value.isZero = .ok answer) :
    answer = true ↔ value.IsZero := by
  cases value <;> simp_all [isZero, tag, IsZero, bind_eq_ok, pure_eq_ok, map_eq_ok]

theorem isFalsey_iff {value : Value} {answer : Bool} (h : value.isFalsey = .ok answer) :
    answer = true ↔ value.IsBlank ∨ value.IsZero := by
  cases value <;>
    simp [isFalsey, tag, IsBlank, IsZero, bind_eq_ok, pure_eq_ok, map_eq_ok] at h ⊢
  case number n => rw [← h, Bool.or_eq_true, or_comm]
  case bool b => simp [h]
  case text s => simp [← h]
  all_goals simp [h]

end Value

/-! ### Exempt and examined values -/

namespace Rule

/-- A rule exempts a value: it says so, and the value is blank. -/
def Exempts (rule : Rule) (value : Value) : Prop :=
  rule.frame.allowFalsey = true ∧ value.IsBlank

/-- A rule has the value of its argument examined: the value was given, the argument is required,
and the value is not blank or is a text where a text is expected. -/
def Examines (rule : Rule) (value : Value) : Prop :=
  value ≠ .undefined ∧ rule.frame.isOptional = false ∧
    (¬ value.IsBlank ∨ rule.frame.constraint.kind? = some .string ∧ value.asText?.isSome)

theorem exempts_iff {rule : Rule} {value : Value} {answer : Bool}
    (h : rule.exempts value = .ok answer) : answer = true ↔ rule.Exempts value := by
  rw [Rule.exempts] at h
  split at h
  · next hstrict =>
    obtain rfl := pure_eq_ok.mp h
    simpa [Exempts] using fun hallow => absurd hallow (by simpa using hstrict)
  · next hallow =>
    obtain ⟨falsey, hfalsey, h⟩ := bind_eq_ok.mp h
    have hblank := Value.isFalsey_iff hfalsey
    have hallow : rule.frame.allowFalsey = true := by simpa using hallow
    split at h
    · next hf =>
      obtain rfl := pure_eq_ok.mp h
      have hf : falsey = false := by simpa using hf
      simp only [hf, Bool.false_eq_true, false_iff, not_or] at hblank
      simp [Exempts, hblank.1]
    · next hf =>
      obtain ⟨zero, hzero, h⟩ := bind_eq_ok.mp h
      obtain rfl := pure_eq_ok.mp h
      have hf : falsey = true := by simpa using hf
      have hz := Value.isZero_iff hzero
      have hexclusive := Value.not_isBlank_of_isZero value
      rw [Bool.not_eq_true', ← Bool.not_eq_true, hz, Exempts]
      have := hblank.mp hf
      tauto

theorem isExamined_iff {kind : Kind} {value : Value} {answer : Bool}
    (h : isExamined kind value = .ok answer) :
    answer = true ↔ ¬ value.IsBlank ∨ kind = .string ∧ value.asText?.isSome := by
  rw [isExamined] at h
  split at h
  · next htext =>
    obtain rfl := pure_eq_ok.mp h
    simp [htext]
  · next htext =>
    obtain ⟨falsey, hfalsey, h⟩ := bind_eq_ok.mp h
    have hblank := Value.isFalsey_iff hfalsey
    split at h
    · next hf =>
      obtain rfl := pure_eq_ok.mp h
      have hf : falsey = false := by simpa using hf
      simp only [hf, Bool.false_eq_true, false_iff, not_or] at hblank
      simp [hblank.1]
    · next hf =>
      have hf : falsey = true := by simpa using hf
      have hexclusive := Value.not_isBlank_of_isZero value
      rw [Value.isZero_iff h]
      have := hblank.mp hf
      tauto

theorem kind_eq_ok {rule : Rule} {kind : Kind} :
    rule.kind = .ok kind ↔ rule.frame.constraint.kind? = some kind := by
  rw [Rule.kind]
  split <;> simp_all

theorem examines_iff {rule : Rule} {value : Value} {answer : Bool}
    (h : rule.examines value = .ok answer) : answer = true ↔ rule.Examines value := by
  rw [examines] at h
  split at h
  · next hskip =>
    obtain rfl := pure_eq_ok.mp h
    have : value = .undefined ∨ rule.frame.isOptional = true := by
      cases value <;> simp_all [Value.isAbsent]
    simp only [Examines, Bool.false_eq_true, false_iff]
    rintro ⟨hgiven, hrequired, -⟩
    rcases this with habsent | hoptional
    · exact hgiven habsent
    · simp [hoptional] at hrequired
  · next hskip =>
    obtain ⟨kind, hkind, h⟩ := bind_eq_ok.mp h
    have hgiven : value ≠ .undefined := by rintro rfl; simp [Value.isAbsent] at hskip
    have hrequired : rule.frame.isOptional = false := by simp_all
    rw [isExamined_iff h, Examines, kind_eq_ok.mp hkind]
    simp [hgiven, hrequired]

end Rule

/-! ### Numbers and their bounds -/

/-- A number is not above the upper limit and not below the lower one, if there are limits. -/
def Number.Within (n : Number) (lower upper : Option Number) : Prop :=
  (∀ limit ∈ upper, n.exceeds limit = false) ∧ ∀ limit ∈ lower, n.fallsBelow limit = false

namespace Bounds

/-- What one limit can do: nothing, or move the value to itself, or give a reason. -/
theorem applyLimit_cases {α : Type} {scale : Scale α} {outside : α → α → Except Fault Bool}
    (isOutside : α → α → Bool) (ho : ∀ a b, outside a b = .ok (isOutside a b)) {phrase : String}
    {autobound : Bool} {value : α} {limit? : Option α} {adjustment : Adjustment α}
    (h : applyLimit scale outside phrase autobound value limit? = .ok adjustment) :
    ((∀ limit ∈ limit?, isOutside value limit = false) ∧ adjustment = ⟨none, []⟩) ∨
      ∃ limit, limit? = some limit ∧ isOutside value limit = true ∧
        (autobound = true ∧ adjustment = ⟨some limit, []⟩ ∨
          autobound = false ∧ ∃ reason, adjustment = ⟨none, [reason]⟩) := by
  cases limit? with
  | none => exact Or.inl ⟨by simp, (pure_eq_ok.mp h).symm⟩
  | some limit =>
    rw [applyLimit, ho] at h
    obtain ⟨b, hb, h⟩ := bind_eq_ok.mp h
    obtain rfl := Except.ok.inj hb
    split at h
    · next hin =>
      exact Or.inl ⟨by simpa using hin, (pure_eq_ok.mp h).symm⟩
    · next hout =>
      refine Or.inr ⟨limit, rfl, by simpa using hout, ?_⟩
      split at h
      · next hauto => exact Or.inl ⟨hauto, (pure_eq_ok.mp h).symm⟩
      · next hauto =>
        obtain ⟨text, -, h⟩ := bind_eq_ok.mp h
        exact Or.inr ⟨by simpa using hauto, _, (pure_eq_ok.mp h).symm⟩

/-- A check against two limits moves only what is outside of them, and to one of them, and it has
no reasons exactly if it may move the value or the value is inside. -/
theorem check_numbers {lower upper : Option Number} {autobound : Bool} {n : Number}
    {adjustment : Adjustment Number}
    (h : check .numbers lower upper autobound n = .ok adjustment) :
    (adjustment.reasons = [] ↔ (autobound = false → n.Within lower upper)) ∧
      ∀ m ∈ adjustment.replacement,
        autobound = true ∧ ¬ n.Within lower upper ∧ (lower = some m ∨ upper = some m) := by
  rw [check] at h
  obtain ⟨above, habove, h⟩ := bind_eq_ok.mp h
  obtain ⟨below, hbelow, h⟩ := bind_eq_ok.mp h
  obtain rfl := pure_eq_ok.mp h
  have hupper := applyLimit_cases Number.exceeds (fun _ _ => rfl) habove
  have hlower := applyLimit_cases Number.fallsBelow (fun _ _ => rfl) hbelow
  rcases hupper with ⟨hin, rfl⟩ | ⟨top, rfl, hout, ⟨rfl, rfl⟩ | ⟨rfl, reason, rfl⟩⟩
  · rcases hlower with ⟨hin', rfl⟩ | ⟨bottom, rfl, hout', ⟨rfl, rfl⟩ | ⟨rfl, reason, rfl⟩⟩
    · have hwithin : n.Within lower upper := ⟨hin, hin'⟩
      simp [hwithin]
    · have hout' : n.fallsBelow bottom = true := hout'
      simp [Number.Within, hout', Option.filter_eq_some_iff]
    · have hout' : n.fallsBelow bottom = true := hout'
      simp [Number.Within, hout']
  · rcases hlower with ⟨hin', rfl⟩ | ⟨bottom, rfl, hout', ⟨-, rfl⟩ | ⟨hauto, -⟩⟩
    · simp [Number.Within, hout, Option.filter_eq_some_iff]
    · simp [Number.Within, hout, Option.filter_eq_some_iff]
    · simp at hauto
  · rcases hlower with ⟨hin', rfl⟩ | ⟨bottom, rfl, hout', ⟨hauto, -⟩ | ⟨-, reason', rfl⟩⟩
    · simp [Number.Within, hout]
    · simp at hauto
    · simp [Number.Within, hout]

end Bounds

/-! ### What constraints admit -/

/-- A length is within its limits, of which zero is none. -/
def LengthFits (shortest longest : Option Int) (count : Nat) : Prop :=
  (∀ n ∈ shortest, n ≠ 0 → n ≤ count) ∧ ∀ n ∈ longest, n ≠ 0 → (count : Int) ≤ n

/-- The characters are those of a whole number: a sign, if any, and digits, with at most a line feed
behind them. -/
def IsIntegerNumeral (cs : List Char) : Prop :=
  ∃ sign digits ending, cs = sign ++ digits ++ ending ∧
    (sign = [] ∨ sign = ['+'] ∨ sign = ['-']) ∧
    digits ≠ [] ∧ (∀ c ∈ digits, Text.isAsciiDigit c = true) ∧ (ending = [] ∨ ending = ['\n'])

/-- Digits with at most a line feed behind them, found by taking all digits that come first. -/
theorem digits_iff {cs : List Char} :
    (cs.takeWhile Text.isAsciiDigit ≠ [] ∧
        (cs.dropWhile Text.isAsciiDigit = [] ∨ cs.dropWhile Text.isAsciiDigit = ['\n'])) ↔
      ∃ digits ending, cs = digits ++ ending ∧ digits ≠ [] ∧
        (∀ c ∈ digits, Text.isAsciiDigit c = true) ∧ (ending = [] ∨ ending = ['\n']) := by
  constructor
  · rintro ⟨hdigits, hending⟩
    exact ⟨_, _, List.takeWhile_append_dropWhile.symm, hdigits,
      fun c hc => List.mem_takeWhile_imp hc, hending⟩
  · rintro ⟨digits, ending, rfl, hdigits, hall, hending⟩
    have hstop : ending.takeWhile Text.isAsciiDigit = [] ∧
        ending.dropWhile Text.isAsciiDigit = ending := by
      rcases hending with rfl | rfl <;> decide
    rw [List.takeWhile_append_of_pos hall, List.dropWhile_append_of_pos hall, hstop.1, hstop.2]
    exact ⟨by simpa using hdigits, hending⟩

theorem Value.isIntegerText_iff (cs : List Char) :
    isIntegerText cs = true ↔ IsIntegerNumeral cs := by
  simp only [isIntegerText, Bool.and_eq_true, Bool.not_eq_true', List.isEmpty_eq_false_iff,
    Bool.or_eq_true, List.isEmpty_iff, decide_eq_true_eq, digits_iff]
  constructor
  · rintro ⟨digits, ending, hbody, hrest⟩
    split at hbody
    · exact ⟨['+'], digits, ending, by simp [hbody], by simp, hrest⟩
    · exact ⟨['-'], digits, ending, by simp [hbody], by simp, hrest⟩
    · exact ⟨[], digits, ending, by simp [hbody], by simp, hrest⟩
  · rintro ⟨sign, digits, ending, rfl, rfl | rfl | rfl, hne, hall, hending⟩
    · refine ⟨digits, ending, ?_, hne, hall, hending⟩
      obtain ⟨c, rest, rfl⟩ := List.exists_cons_of_ne_nil hne
      have hc := hall c (by simp)
      split
      · next heq => simp_all; exact absurd hc (by decide)
      · next heq => simp_all; exact absurd hc (by decide)
      · rfl
    · exact ⟨digits, ending, rfl, hne, hall, hending⟩
    · exact ⟨digits, ending, rfl, hne, hall, hending⟩

/-- A text has what a pattern looks for, or, without a pattern, is not empty unless it may be. -/
def ContentsFit (filter : Option Pattern) (allowEmpty : Bool) (s : String) : Prop :=
  match filter with
  | some p => Check.searchText p s = .ok true
  | none => allowEmpty = false → s ≠ ""

namespace Constraint

/-- The lower limit of numbers. -/
def lower : Constraint → Option Number
  | integer low _ _ => low.map (·.toNumber)
  | number low _ _ => low.map (·.toNumber)
  | _ => none

/-- The upper limit of numbers. -/
def upper : Constraint → Option Number
  | integer _ high _ => high.map (·.toNumber)
  | number _ high _ => high.map (·.toNumber)
  | _ => none

/-- Whether numbers out of bounds are moved. -/
def moves : Constraint → Bool
  | integer _ _ moved | number _ _ moved => moved
  | _ => false

/-- A number is inside its bounds, or it may be moved there. -/
def InBounds (constraint : Constraint) (n : Number) : Prop :=
  constraint.moves = false → n.Within constraint.lower constraint.upper

/-- A value is a number outside of bounds that it may be moved to, and another one is such a
bound. -/
def MovesTo (constraint : Constraint) (value after : Value) : Prop :=
  ∃ n m, value = .number n ∧ after = .number m ∧ constraint.moves = true ∧
    ¬ n.Within constraint.lower constraint.upper ∧
    (constraint.lower = some m ∨ constraint.upper = some m)

/-- What the constraints of a kind admit. -/
def Admits (constraint : Constraint) (value : Value) : Prop :=
  match constraint with
  | bare | any => True
  | boolean => value.tag = .ok .boolean
  | function => value.tag = .ok .function
  | svgElement => value.tag = .ok .svgElement
  | array allowEmpty shortest longest =>
    value.tag = .ok .array ∧ ∃ count, value.itemCount = .ok count ∧
      (allowEmpty = false → count ≠ 0) ∧ LengthFits shortest longest count
  | map allowEmpty =>
    value.tag = .ok .object ∧
      (allowEmpty = false → ∃ count, value.itemCount = .ok count ∧ count ≠ 0)
  | integer .. =>
    ∃ n text, value = .number n ∧ value.display = .ok text ∧ IsIntegerNumeral text.toList ∧
      constraint.InBounds n
  | number .. => ∃ n, value = .number n ∧ constraint.InBounds n
  | string allowEmpty filter shortest longest =>
    ∃ s, value.asText? = some s ∧ ContentsFit filter allowEmpty s ∧
      LengthFits shortest longest s.length

end Constraint

/-! ### The checks of the kinds -/

namespace Check

theorem tooLong_eq_nil_iff {count : Nat} {limit : Option Int} {reason : Int → Except Fault String}
    {reasons : List String} (h : tooLong count limit reason = .ok reasons) :
    reasons = [] ↔ ∀ n ∈ limit, n ≠ 0 → (count : Int) ≤ n := by
  cases limit with
  | none => simp [← pure_eq_ok.mp h]
  | some n =>
    rw [tooLong] at h
    split at h
    · next hlong =>
      obtain ⟨text, -, h⟩ := bind_eq_ok.mp h
      simp only [← pure_eq_ok.mp h, Option.mem_some_iff, forall_eq', reduceCtorEq, false_iff]
      omega
    · next hlong =>
      simp only [← pure_eq_ok.mp h, Option.mem_some_iff, forall_eq', true_iff]
      omega

theorem tooShort_eq_nil_iff {count : Nat} {limit : Option Int} {reason : Int → Except Fault String}
    {reasons : List String} (h : tooShort count limit reason = .ok reasons) :
    reasons = [] ↔ ∀ n ∈ limit, n ≠ 0 → n ≤ (count : Int) := by
  cases limit with
  | none => simp [← pure_eq_ok.mp h]
  | some n =>
    rw [tooShort] at h
    split at h
    · next hshort =>
      obtain ⟨text, -, h⟩ := bind_eq_ok.mp h
      simp only [← pure_eq_ok.mp h, Option.mem_some_iff, forall_eq', reduceCtorEq, false_iff]
      omega
    · next hshort =>
      simp only [← pure_eq_ok.mp h, Option.mem_some_iff, forall_eq', true_iff]
      omega

theorem array_iff {allowEmpty : Bool} {shortest longest : Option Int} {value : Value} {tag : Tag}
    {finding : Finding} (ht : value.tag = .ok tag)
    (h : array (.array allowEmpty shortest longest) value tag = .ok finding) :
    (finding.reasons = [] ↔ (Constraint.array allowEmpty shortest longest).Admits value) ∧
      finding.replacement = none := by
  rw [array] at h
  split at h
  · next htag => simp [← pure_eq_ok.mp h, Finding.unchanged, Constraint.Admits, ht, htag]
  · next htag =>
    have htag : tag = .array := by simpa using htag
    obtain ⟨count, hcount, h⟩ := bind_eq_ok.mp h
    obtain ⟨countText, -, h⟩ := bind_eq_ok.mp h
    simp only [Constraint.allowEmpty, Constraint.minLength, Constraint.maxLength, bind_eq_ok,
      Except.ok.injEq, pure_eq_ok] at h
    obtain ⟨_, rfl, _, rfl, long, hlong, _, rfl, short, hshort, rfl⟩ := h
    have hempty : (if !allowEmpty ∧ count = 0 then ["is empty"] else []) = [] ↔
        (allowEmpty = false → count ≠ 0) := by
      cases allowEmpty <;> simp
    refine ⟨?_, rfl⟩
    simp only [Finding.unchanged, List.append_eq_nil_iff, hempty, tooLong_eq_nil_iff hlong,
      tooShort_eq_nil_iff hshort, Constraint.Admits, LengthFits, ht, htag, hcount, true_and,
      Except.ok.injEq, exists_eq_left']
    exact ⟨fun ⟨⟨he, hl⟩, hs⟩ => ⟨he, hs, hl⟩, fun ⟨he, hs, hl⟩ => ⟨⟨he, hl⟩, hs⟩⟩

theorem map_iff {allowEmpty : Bool} {value : Value} {tag : Tag} {finding : Finding}
    (ht : value.tag = .ok tag) (h : map (.map allowEmpty) value tag = .ok finding) :
    (finding.reasons = [] ↔ (Constraint.map allowEmpty).Admits value) ∧
      finding.replacement = none := by
  rw [map] at h
  split at h
  · next htag => simp [← pure_eq_ok.mp h, Finding.unchanged, Constraint.Admits, ht, htag]
  · next htag =>
    have htag : tag = .object := by simpa using htag
    simp only [Constraint.allowEmpty] at h
    obtain ⟨_, hallow, h⟩ := bind_eq_ok.mp h
    obtain rfl := Except.ok.inj hallow
    cases allowEmpty with
    | true => simp [← pure_eq_ok.mp h, Finding.unchanged, Constraint.Admits, ht, htag]
    | false =>
      obtain ⟨count, hcount, h⟩ := bind_eq_ok.mp h
      simp [← pure_eq_ok.mp h, Finding.unchanged, Constraint.Admits, ht, htag, hcount]

theorem contents_iff {allowEmpty : Bool} {filter : Option Pattern} {shortest longest : Option Int}
    {s : String} {reasons : List String}
    (h : contents (.string allowEmpty filter shortest longest) s = .ok reasons) :
    reasons = [] ↔ ContentsFit filter allowEmpty s := by
  rw [contents] at h
  simp only [Constraint.filterPattern, Constraint.allowEmpty] at h
  obtain ⟨_, hfilter, h⟩ := bind_eq_ok.mp h
  obtain rfl := Except.ok.inj hfilter
  cases filter with
  | some p =>
    obtain ⟨found, hfound, h⟩ := bind_eq_ok.mp h
    cases found <;> simp [← pure_eq_ok.mp h, ContentsFit, hfound]
  | none =>
    obtain ⟨_, hallow, h⟩ := bind_eq_ok.mp h
    obtain rfl := Except.ok.inj hallow
    cases allowEmpty <;> simp [← pure_eq_ok.mp h, ContentsFit]

theorem string_iff {allowEmpty : Bool} {filter : Option Pattern} {shortest longest : Option Int}
    {value : Value} {tag : Tag} {finding : Finding} (ht : value.tag = .ok tag)
    (h : string (.string allowEmpty filter shortest longest) value tag = .ok finding) :
    (finding.reasons = [] ↔ (Constraint.string allowEmpty filter shortest longest).Admits value) ∧
      finding.replacement = none := by
  unfold string at h
  split at h
  · next s hs =>
    obtain ⟨unfit, hunfit, h⟩ := bind_eq_ok.mp h
    simp only [Constraint.minLength, Constraint.maxLength, bind_eq_ok, Except.ok.injEq,
      pure_eq_ok] at h
    obtain ⟨_, rfl, long, hlong, _, rfl, short, hshort, rfl⟩ := h
    refine ⟨?_, rfl⟩
    simp only [Finding.unchanged, List.append_eq_nil_iff, contents_iff hunfit,
      tooLong_eq_nil_iff hlong, tooShort_eq_nil_iff hshort, Constraint.Admits, LengthFits, hs,
      Option.some.injEq, exists_eq_left']
    exact ⟨fun ⟨⟨hc, hl⟩, hs⟩ => ⟨hc, hs, hl⟩, fun ⟨hc, hs, hl⟩ => ⟨⟨hc, hl⟩, hs⟩⟩
  · next hother =>
    have hnot : ¬ (Constraint.string allowEmpty filter shortest longest).Admits value := by
      rintro ⟨s, hs, -⟩
      obtain rfl := Except.ok.inj (ht.symm.trans (Value.tag_of_asText? hs))
      exact hother s rfl hs
    simp [← pure_eq_ok.mp h, Finding.unchanged, hnot]

/-- The check of a whole number and what it moves. -/
theorem integer_iff {low high : Option Bound} {moved : Bool} {value : Value} {tag : Tag}
    {finding : Finding} (ht : value.tag = .ok tag)
    (h : integer (.integer low high moved) value tag = .ok finding) :
    (finding.reasons = [] ↔ (Constraint.integer low high moved).Admits value) ∧
      ∀ after ∈ finding.replacement, (Constraint.integer low high moved).MovesTo value after := by
  unfold integer at h
  split at h
  · next n =>
    obtain ⟨isWhole, hwhole, h⟩ := bind_eq_ok.mp h
    obtain ⟨text, htext, hwhole⟩ := bind_eq_ok.mp hwhole
    have hnumeral := Value.isIntegerText_iff text.toList
    rw [pure_eq_ok.mp hwhole] at hnumeral
    have hadmits : (Constraint.integer low high moved).Admits (.number n) ↔
        isWhole = true ∧ (Constraint.integer low high moved).InBounds n := by
      simp [Constraint.Admits, htext, hnumeral]
    split at h
    · next hnot =>
      have hnot : isWhole = false := by simpa using hnot
      simp [← pure_eq_ok.mp h, Finding.unchanged, hadmits, hnot]
    · next hwhole =>
      simp only [Constraint.minInt, Constraint.maxInt, Constraint.autobound, bind_eq_ok,
        Except.ok.injEq, pure_eq_ok] at h
      obtain ⟨_, rfl, _, rfl, _, rfl, adjustment, hcheck, rfl⟩ := h
      obtain ⟨hreasons, hmoved⟩ := Bounds.check_numbers hcheck
      have hwhole : isWhole = true := by simpa using hwhole
      refine ⟨by rw [hadmits, ofNumbers, hreasons]; simp [hwhole, Constraint.InBounds,
        Constraint.moves, Constraint.lower, Constraint.upper], fun after hafter => ?_⟩
      obtain ⟨m, hm, rfl⟩ := Option.map_eq_some_iff.mp hafter
      exact ⟨n, m, rfl, rfl, hmoved m hm⟩
  · next hother =>
    have hnot : ¬ (Constraint.integer low high moved).Admits value := by
      rintro ⟨n, -, rfl, -⟩
      exact hother n (Except.ok.inj ht).symm rfl
    simp [← pure_eq_ok.mp h, Finding.unchanged, hnot]

/-- The check of a number and what it moves. -/
theorem number_iff {low high : Option Limit} {moved : Bool} {value : Value} {tag : Tag}
    {finding : Finding} (ht : value.tag = .ok tag)
    (h : number (.number low high moved) value tag = .ok finding) :
    (finding.reasons = [] ↔ (Constraint.number low high moved).Admits value) ∧
      ∀ after ∈ finding.replacement, (Constraint.number low high moved).MovesTo value after := by
  unfold number at h
  split at h
  · next n =>
    simp only [Constraint.minNum, Constraint.maxNum, Constraint.autobound, bind_eq_ok,
      Except.ok.injEq, pure_eq_ok] at h
    obtain ⟨_, rfl, _, rfl, _, rfl, adjustment, hcheck, rfl⟩ := h
    obtain ⟨hreasons, hmoved⟩ := Bounds.check_numbers hcheck
    refine ⟨by rw [ofNumbers, hreasons]; simp [Constraint.Admits, Constraint.InBounds,
      Constraint.moves, Constraint.lower, Constraint.upper], fun after hafter => ?_⟩
    obtain ⟨m, hm, rfl⟩ := Option.map_eq_some_iff.mp hafter
    exact ⟨n, m, rfl, rfl, hmoved m hm⟩
  · next hother =>
    have hnot : ¬ (Constraint.number low high moved).Admits value := by
      rintro ⟨n, rfl, -⟩
      exact hother n (Except.ok.inj ht).symm rfl
    simp [← pure_eq_ok.mp h, Finding.unchanged, hnot]

end Check

/-- **The checks of the kinds.** A check has no reasons exactly if the constraints admit the value,
and it moves only numbers outside of bounds that it may move them to. -/
theorem Kind.check_spec {kind : Kind} {constraint : Constraint} (hk : constraint.kind? = some kind)
    {value : Value} {tag : Tag} {finding : Finding} (ht : value.tag = .ok tag)
    (h : kind.check constraint value tag = .ok finding) :
    (finding.reasons = [] ↔ constraint.Admits value) ∧
      ∀ after ∈ finding.replacement, constraint.MovesTo value after := by
  cases constraint with
  | bare => simp [Constraint.kind?] at hk
  | any =>
    obtain rfl := Option.some.inj hk
    obtain rfl := Except.ok.inj h
    simp [Finding.unchanged, Constraint.Admits]
  | boolean =>
    obtain rfl := Option.some.inj hk
    obtain rfl := Except.ok.inj h
    simp [Finding.unchanged, Tag.mismatch, Constraint.Admits, ht]
  | function =>
    obtain rfl := Option.some.inj hk
    obtain rfl := Except.ok.inj h
    simp [Finding.unchanged, Tag.mismatch, Constraint.Admits, ht]
  | svgElement =>
    obtain rfl := Option.some.inj hk
    obtain rfl := Except.ok.inj h
    simp [Finding.unchanged, Tag.mismatch, Constraint.Admits, ht]
  | array allowEmpty shortest longest =>
    obtain rfl := Option.some.inj hk
    obtain ⟨hreasons, hnone⟩ := Check.array_iff ht h
    exact ⟨hreasons, by simp [hnone]⟩
  | map allowEmpty =>
    obtain rfl := Option.some.inj hk
    obtain ⟨hreasons, hnone⟩ := Check.map_iff ht h
    exact ⟨hreasons, by simp [hnone]⟩
  | integer low high moved =>
    obtain rfl := Option.some.inj hk
    exact Check.integer_iff ht h
  | number low high moved =>
    obtain rfl := Option.some.inj hk
    exact Check.number_iff ht h
  | string allowEmpty filter shortest longest =>
    obtain rfl := Option.some.inj hk
    obtain ⟨hreasons, hnone⟩ := Check.string_iff ht h
    exact ⟨hreasons, by simp [hnone]⟩

end ArgRules
