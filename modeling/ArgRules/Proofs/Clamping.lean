import ArgRules.Proofs.Judgement

/-!
# Moving numbers to their limits

Where a rule moves numbers, a number ends at `Number.clamped`: it is brought down to the upper limit
if it is above it, and what is left is brought up to the lower one if it is below that. Where a rule
moves nothing, a number that is not reported is left where it was, and that is the same place.

## Limits in any order

The two limits are not compared with each other, and they may be whole numbers and doubles in any
mixture. That a number ends inside each limit, or at one of them, and is not moved again, does not
even need the order of numbers to be transitive: a number that is outside a limit is then at it, and
no number is above or below itself.

## Main definitions

* `Number.moved`, `Number.clamped` — a number moved to one limit, and to both

## Main results

* `Number.clamped_spec` — where a clamped number is: within its limits, or at the lower one, above
  the upper one
* `Number.clamped_clamped` — a clamped number is not moved again
* `Number.clamped_of_crossed` — with limits in the wrong order it is at the lower one
* `Kind.check_eq_clamped` — what a check leaves of a number that it has nothing against
* `Kind.check_of_clamped` — a check has nothing against a clamped number
* `Engine.Judged.number_eq_clamped` — what a judgement without a violation leaves of a number
-/

namespace ArgRules

/-! ### Clamped numbers -/

/-- What is above an extent is also above whatever that extent is not below, if this stands for
anything. -/
theorem Extent.lt_of_not_lt_of_lt {e low high : Extent} (he : e ≠ undefined)
    (hhigh : high.lt e = false) (hcrossed : high.lt low = true) : e.lt low = true := by
  cases e <;> cases low <;> cases high <;> grind [lt]

namespace Number

variable {outside : Number → Number → Bool} {lower upper limit? : Option Number} {n : Number}

/-- A number moved to a limit, if it is outside of it. -/
def moved (outside : Number → Number → Bool) (limit? : Option Number) (n : Number) : Number :=
  (limit?.filter (outside n)).getD n

/-- A number moved to its limits, to the upper one first. -/
def clamped (lower upper : Option Number) (n : Number) : Number :=
  (n.moved exceeds upper).moved fallsBelow lower

theorem moved_of_outside {limit : Number} (h : outside n limit = true) :
    n.moved outside (some limit) = limit := by
  rw [moved, Option.filter_some_pos h, Option.getD_some]

theorem moved_of_inside (h : ∀ limit ∈ limit?, outside n limit = false) :
    n.moved outside limit? = n := by
  cases limit? with
  | none => rfl
  | some limit => rw [moved, Option.filter_some_neg (by simp [h limit rfl]), Option.getD_none]

/-- A moved number is at the limit that it was outside of, or where it was. -/
theorem moved_cases (outside : Number → Number → Bool) (limit? : Option Number) (n : Number) :
    (∃ limit, limit? = some limit ∧ n.moved outside limit? = limit) ∨
      (∀ limit ∈ limit?, outside n limit = false) ∧ n.moved outside limit? = n := by
  cases limit? with
  | none => exact Or.inr ⟨by simp, rfl⟩
  | some limit =>
    cases h : outside n limit with
    | true => exact Or.inl ⟨limit, rfl, moved_of_outside h⟩
    | false =>
      have hin : ∀ other ∈ some limit, outside n other = false := by simpa using h
      exact Or.inr ⟨hin, moved_of_inside hin⟩

/-- A moved number is not outside of its limit, since nothing is outside of itself. -/
theorem moved_inside (hself : ∀ n, outside n n = false) (limit? : Option Number) (n : Number) :
    ∀ limit ∈ limit?, outside (n.moved outside limit?) limit = false := by
  rintro limit rfl
  rcases moved_cases outside (some limit) n with ⟨other, heq, hmoved⟩ | ⟨hin, hmoved⟩
  · rw [hmoved, Option.some.inj heq, hself]
  · rw [hmoved]
    exact hin limit rfl

theorem clamped_of_within (h : n.Within lower upper) : n.clamped lower upper = n := by
  rw [clamped, moved_of_inside h.1, moved_of_inside h.2]

/-- **Where a clamped number is.** It is not below its lower limit, and above the upper one it can
only be if it is at the lower one, which is then itself above the upper one. -/
theorem clamped_spec (lower upper : Option Number) (n : Number) :
    (∀ low ∈ lower, (n.clamped lower upper).fallsBelow low = false) ∧
      ∀ high ∈ upper, (n.clamped lower upper).exceeds high = false ∨
        ∃ low ∈ lower, low.exceeds high = true ∧ n.clamped lower upper = low := by
  refine ⟨moved_inside fallsBelow_self lower _, fun high hhigh => ?_⟩
  rw [clamped]
  rcases moved_cases fallsBelow lower (n.moved exceeds upper) with ⟨low, rfl, hmoved⟩ | ⟨-, hmoved⟩
  · rw [hmoved]
    cases h : low.exceeds high with
    | true => exact Or.inr ⟨low, rfl, h, rfl⟩
    | false => exact Or.inl rfl
  · rw [hmoved]
    exact Or.inl (moved_inside exceeds_self upper n high hhigh)

/-- **A clamped number is not moved again,** not even if its limits are in the wrong order. -/
theorem clamped_clamped (lower upper : Option Number) (n : Number) :
    (n.clamped lower upper).clamped lower upper = n.clamped lower upper := by
  have hbelow := moved_inside exceeds_self upper n
  rw [clamped, clamped]
  rcases moved_cases fallsBelow lower (n.moved exceeds upper) with
    ⟨low, rfl, hmoved⟩ | ⟨hin, hmoved⟩
  · -- From the lower limit there is no way but down to the upper one, and from there back.
    rw [hmoved]
    rcases moved_cases exceeds upper low with ⟨high, rfl, hdown⟩ | ⟨-, hstays⟩
    · rw [hdown]
      cases h : high.fallsBelow low with
      | true => exact moved_of_outside h
      | false =>
        have hnot : ∀ other ∈ some high, low.exceeds other = false := by
          simpa [exceeds_eq_fallsBelow] using h
        rw [moved_of_inside hnot] at hdown
        rw [← hdown]
        exact moved_of_inside (by simp)
    · rw [hstays]
      exact moved_of_inside (by simp)
  · rw [hmoved]
    exact clamped_of_within ⟨hbelow, hin⟩

/-- A number other than not-a-number stands for something. -/
theorem extent_ne_undefined (hnan : n.isNan = false) : n.extent ≠ .undefined := by
  obtain ⟨amount, box⟩ := n
  cases amount with
  | double x =>
    cases x with
    | nan => simp [isNan, Amount.isNan, Double.isNan] at hnan
    | infinite negative => cases negative <;> simp [extent, Amount.extent, Double.extent]
    | finite negative m e h => cases negative <;> simp [extent, Amount.extent, Double.extent]
  | _ => simp [extent, Amount.extent]

/-- If two limits are in the wrong order, a number that is not above the upper one is below the
lower one. -/
theorem fallsBelow_of_crossed {low high : Number} (hcrossed : low.exceeds high = true)
    (hnan : n.isNan = false) (h : n.exceeds high = false) : n.fallsBelow low = true :=
  Extent.lt_of_not_lt_of_lt (extent_ne_undefined hnan) h hcrossed

/-- **With limits in the wrong order every number ends at the lower one.** -/
theorem clamped_of_crossed {low high : Number} (hcrossed : low.exceeds high = true)
    (hnan : n.isNan = false) : n.clamped (some low) (some high) = low := by
  rw [clamped]
  rcases moved_cases exceeds (some high) n with ⟨limit, heq, hmoved⟩ | ⟨hin, hmoved⟩
  · rw [hmoved, ← Option.some.inj heq]
    exact moved_of_outside hcrossed
  · rw [hmoved]
    exact moved_of_outside (fallsBelow_of_crossed hcrossed hnan (hin high rfl))

end Number

/-! ### Checks against limits -/

namespace Bounds

variable {lower upper : Option Number} {n : Number}

theorem applyLimit_moving {outside : Number → Number → Except Fault Bool}
    (isOutside : Number → Number → Bool) (ho : ∀ a b, outside a b = .ok (isOutside a b))
    (phrase : String) (n : Number) (limit? : Option Number) :
    applyLimit .numbers outside phrase true n limit? =
      .ok ⟨limit?.filter (isOutside n), []⟩ := by
  cases limit? with
  | none => rfl
  | some limit =>
    rw [applyLimit, ho]
    cases h : isOutside n limit with
    | true => rw [Option.filter_some_pos h]; rfl
    | false => rw [Option.filter_some_neg (by simp [h])]; rfl

/-- Not being moved to an identical number is being at that number. -/
theorem getD_filter_identical (moved : Option Number) (n : Number) :
    (moved.filter fun final => !Scale.numbers.identical n final).getD n = moved.getD n := by
  cases moved with
  | none => rfl
  | some m =>
    cases h : Scale.numbers.identical n m with
    | false => rw [Option.filter_some_pos (by simp [h])]
    | true =>
      have hsame : n = m := Number.eq_of_identical h
      rw [Option.filter_some_neg (by simp [h]), Option.getD_none, Option.getD_some, hsame]

/-- A check that may move a number always comes to an end, without reasons, and it leaves the number
clamped. -/
theorem check_moving (lower upper : Option Number) (n : Number) :
    ∃ replacement, check .numbers lower upper true n = .ok ⟨replacement, []⟩ ∧
      replacement.getD n = n.clamped lower upper := by
  have hupper := applyLimit_moving Number.exceeds (fun _ _ => rfl) abovePhrase n upper
  have hlower := applyLimit_moving Number.fallsBelow (fun _ _ => rfl) belowPhrase
    (n.moved Number.exceeds upper) lower
  refine ⟨_, bind_eq_ok.mpr ⟨_, hupper, bind_eq_ok.mpr ⟨_, hlower, rfl⟩⟩, ?_⟩
  rw [getD_filter_identical, Number.clamped, Number.moved, Number.moved]
  cases lower.filter _ <;> rfl

/-- **What a check leaves of a number that it has nothing against.** -/
theorem check_eq_clamped {autobound : Bool} {adjustment : Adjustment Number}
    (h : check .numbers lower upper autobound n = .ok adjustment)
    (hreasons : adjustment.reasons = []) :
    adjustment.replacement.getD n = n.clamped lower upper := by
  cases autobound with
  | true =>
    obtain ⟨replacement, hcheck, hclamped⟩ := check_moving lower upper n
    rw [h, Except.ok.injEq] at hcheck
    rw [hcheck, hclamped]
  | false =>
    obtain ⟨hiff, hmoved⟩ := check_numbers h
    rw [Number.clamped_of_within (hiff.mp hreasons rfl)]
    cases hr : adjustment.replacement with
    | none => rfl
    | some m => exact absurd (hmoved m hr).1 Bool.false_ne_true

end Bounds

/-! ### The checks of numbers -/

namespace Check

variable {n : Number} {autobound : Bool} {adjustment : Adjustment Number}

/-- The check of a number whose text is that of a whole number is that of its bounds. -/
theorem integer_of_bounds {low high : Option Bound}
    (hwhole : Value.isIntegerFormatted (.number n) = .ok true)
    (hcheck : Bounds.check .numbers (low.map (·.toNumber)) (high.map (·.toNumber)) autobound n =
      .ok adjustment) :
    integer (.integer low high autobound) (.number n) .number = .ok (ofNumbers adjustment) :=
  bind_eq_ok.mpr ⟨true, hwhole, bind_eq_ok.mpr ⟨low, rfl, bind_eq_ok.mpr ⟨high, rfl,
    bind_eq_ok.mpr ⟨autobound, rfl, bind_eq_ok.mpr ⟨adjustment, hcheck, rfl⟩⟩⟩⟩⟩

theorem number_of_bounds {low high : Option Limit}
    (hcheck : Bounds.check .numbers (low.map (·.toNumber)) (high.map (·.toNumber)) autobound n =
      .ok adjustment) :
    number (.number low high autobound) (.number n) .number = .ok (ofNumbers adjustment) :=
  bind_eq_ok.mpr ⟨low, rfl, bind_eq_ok.mpr ⟨high, rfl, bind_eq_ok.mpr ⟨autobound, rfl,
    bind_eq_ok.mpr ⟨adjustment, hcheck, rfl⟩⟩⟩⟩

end Check

namespace Kind

variable {kind : Kind} {constraint : Constraint} {n : Number} {tag : Tag} {finding : Finding}

/-- **What the check of a kind leaves of a number that it has nothing against.** Only rules on
numbers have limits, so for the others the number is left where it was. -/
theorem check_eq_clamped (hk : constraint.kind? = some kind)
    (ht : Value.tag (.number n) = .ok tag)
    (h : kind.check constraint (.number n) tag = .ok finding) (hreasons : finding.reasons = []) :
    finding.replacement.getD (.number n) =
      .number (n.clamped constraint.lower constraint.upper) := by
  have hspec := check_spec hk ht h
  obtain rfl : .number = tag := Except.ok.inj ht
  cases constraint with
  | integer low high moved =>
    obtain rfl := Option.some.inj hk
    have h : Check.integer (.integer low high moved) (.number n) .number = .ok finding := h
    simp only [Check.integer, Constraint.minInt, Constraint.maxInt, Constraint.autobound] at h
    obtain ⟨isWhole, -, h⟩ := bind_eq_ok.mp h
    split at h
    · rw [← pure_eq_ok.mp h] at hreasons
      simp [Finding.unchanged] at hreasons
    · simp only [bind_eq_ok, Except.ok.injEq, pure_eq_ok] at h
      obtain ⟨_, rfl, _, rfl, _, rfl, adjustment, hcheck, rfl⟩ := h
      exact (Option.getD_map ..).trans
        (congrArg Value.number (Bounds.check_eq_clamped hcheck hreasons))
  | number low high moved =>
    obtain rfl := Option.some.inj hk
    have h : Check.number (.number low high moved) (.number n) .number = .ok finding := h
    simp only [Check.number, Constraint.minNum, Constraint.maxNum, Constraint.autobound,
      bind_eq_ok, Except.ok.injEq, pure_eq_ok] at h
    obtain ⟨_, rfl, _, rfl, _, rfl, adjustment, hcheck, rfl⟩ := h
    exact (Option.getD_map ..).trans
      (congrArg Value.number (Bounds.check_eq_clamped hcheck hreasons))
  | _ =>
    cases hr : finding.replacement with
    | none => rfl
    | some after =>
      obtain ⟨_, _, -, -, hmoves, -⟩ := hspec.2 after hr
      exact absurd hmoves Bool.false_ne_true

/-- **A check has nothing against a clamped number,** if the rule moves numbers, and it leaves the
number where it is. The text of the number has to be that of a whole number where one is
expected. -/
theorem check_of_clamped (hk : constraint.kind? = some kind) (hmoves : constraint.moves = true)
    (hclamped : n.clamped constraint.lower constraint.upper = n)
    (hwhole : kind = .integer → Value.isIntegerFormatted (.number n) = .ok true) :
    ∃ finding, kind.check constraint (.number n) .number = .ok finding ∧ finding.reasons = [] ∧
      finding.replacement.getD (.number n) = .number n := by
  obtain ⟨replacement, hcheck, hleft⟩ := Bounds.check_moving constraint.lower constraint.upper n
  have hstays : (replacement.map Value.number).getD (.number n) = .number n := by
    rw [Option.getD_map, hleft, hclamped]
  refine ⟨⟨replacement.map .number, []⟩, ?_, rfl, hstays⟩
  cases constraint with
  | integer low high moved =>
    obtain rfl := Option.some.inj hk
    obtain rfl : moved = true := hmoves
    exact Check.integer_of_bounds (hwhole rfl) hcheck
  | number low high moved =>
    obtain rfl := Option.some.inj hk
    obtain rfl : moved = true := hmoves
    exact Check.number_of_bounds hcheck
  | _ => exact absurd hmoves Bool.false_ne_true

end Kind

/-- A number that is admitted is within the limits, or it may be moved there. -/
theorem Constraint.Admits.inBounds {constraint : Constraint} {n : Number}
    (h : constraint.Admits (.number n)) : constraint.InBounds n := by
  cases constraint with
  | integer low high moved =>
    obtain ⟨m, text, heq, -, -, hbounds⟩ := h
    exact Value.number.inj heq ▸ hbounds
  | number low high moved =>
    obtain ⟨m, heq, hbounds⟩ := h
    exact Value.number.inj heq ▸ hbounds
  | _ => exact fun _ => ⟨by simp [upper], by simp [lower]⟩

/-! ### Judgements on numbers -/

namespace Engine

variable {engine : Engine} {checkNames : Bool} {key entry value : Value} {rule : Rule}
  {verdict : Verdict} {finding : Finding}

/-- What is found about an examined value is what the check of the kind says, unless there is a
reason against the kind. -/
theorem check_of_examine (h : engine.examine rule value = .ok finding)
    (hexamined : rule.Examines value) (hreasons : finding.reasons = []) :
    ∃ kind tag, rule.frame.constraint.kind? = some kind ∧ engine.kinds.contains kind = true ∧
      value.tag = .ok tag ∧ kind.check rule.frame.constraint value tag = .ok finding := by
  rw [examine] at h
  obtain ⟨isExamined, hanswer, h⟩ := bind_eq_ok.mp h
  obtain rfl : isExamined = true := (Rule.examines_iff hanswer).mpr hexamined
  obtain ⟨kind, hkind, h⟩ := bind_eq_ok.mp h
  rw [examineKind] at h
  split at h
  · next hsupported =>
    obtain ⟨tag, htag, h⟩ := bind_eq_ok.mp h
    exact ⟨kind, tag, Rule.kind_eq_ok.mp hkind, hsupported, htag, h⟩
  · rw [← pure_eq_ok.mp h] at hreasons
    simp [Finding.unchanged] at hreasons

/-- **What a judgement without a violation leaves of the number of a required argument.** -/
theorem Judged.number_eq_clamped {n : Number}
    (h : Judged engine checkNames key entry (.number n) verdict)
    (hparsed : Rule.ofEntry entry = .ok (.ok rule)) (hrequired : rule.frame.isOptional = false)
    (hnan : n.isNan = false) (hnone : verdict.violation = none) :
    (verdict.change.map (·.after)).getD (.number n) =
        .number (n.clamped rule.frame.constraint.lower rule.frame.constraint.upper) ∧
      rule.frame.constraint.InBounds n := by
  have hfilled : ¬ (Value.number n).IsBlank := by simp [Value.IsBlank, hnan]
  cases h with
  | unusable parsed described => simp at hnone
  | missing parsed absent bare required described => simp at absent
  | exemptDefault parsed absent stocked named exempt => simp at absent
  | default parsed absent stocked named exempt described => simp at absent
  | exempt parsed present named exempt =>
    exact absurd ((Rule.exempts_iff exempt).mp rfl).2 hfilled
  | checked parsed present named exempt examined described =>
    obtain rfl := Except.ok.inj (Except.ok.inj (parsed.symm.trans hparsed))
    obtain ⟨-, hreasons⟩ :=
      List.append_eq_nil_iff.mp ((Verdict.violationFor_eq_ok described).1.mp hnone)
    obtain ⟨kind, tag, hkind, -, htag, hcheck⟩ :=
      check_of_examine examined ⟨by simp, hrequired, Or.inl hfilled⟩ hreasons
    refine ⟨?_, ((Kind.check_spec hkind htag hcheck).1.mp hreasons).inBounds⟩
    rw [← Kind.check_eq_clamped hkind htag hcheck hreasons, Option.map_map]
    exact congrArg (Option.getD · _) Option.map_id'

end Engine

end ArgRules
