import ArgRules.Proofs.Demands

/-!
# What a judgement can be

`Engine.judge` answers one question after the other and may stop at a fault. `Judged` lists the ways
in which it can end otherwise, one for each, with all that was found out on the way. Everything else
about verdicts is read off that list, and no other module opens the judgement itself.

## The two conversions

A verdict has no violation exactly if the entry passes, which is a proposition about the entry and
the value and knows nothing of verdicts. A verdict has a change exactly if a default was put in, or
else if a number was moved to a bound.

## Main definitions

* `Engine.Judged` — the ways in which a judgement can end
* `Engine.Passes` — an entry is a rule, and the value of its argument meets it

## Main results

* `Engine.judged_of_judge`, `Engine.judge_of_judged` — a judgement ends in these ways and no others
* `Engine.Judged.violation_eq_none_iff` — there is no violation exactly if the entry passes
* `Engine.Judged.default_iff`, `Engine.Judged.change_spec` — which changes a verdict can have
* `Engine.Judged.exists_describe` — what a violation is made of
-/

namespace ArgRules

/-! ### Violations -/

namespace Violation

theorem filedName_eq_ok {name : Value} {s : String} (h : filedName name = .ok s) :
    Reading.text name = .ok s := by
  rw [filedName] at h
  split at h
  · next s' hs => rw [hs, Except.ok.inj h]
  · simp at h

/-- The violation of an argument has the reasons that were given and the name as it is filed. -/
theorem describe_eq_ok {name entry value : Value} {reasons : List String} {violation : Violation}
    (h : describe name entry value (.ok reasons) = .ok violation) :
    violation.reasons = reasons ∧ Reading.text name = .ok violation.argName := by
  simp only [describe, bind_eq_ok, Except.ok.injEq, pure_eq_ok] at h
  obtain ⟨header, -, shown, -, nameText, -, _, rfl, filed, hfiled, rfl⟩ := h
  exact ⟨rfl, filedName_eq_ok hfiled⟩

/-- The header of a rule is its kind and its flag. -/
theorem Header.ofEntry_toValue {rule : Rule} {kind : Kind}
    (h : rule.frame.constraint.kind? = some kind) :
    ofEntry rule.toValue = .ok ⟨some kind.name, rule.frame.isOptional⟩ := by
  rw [Rule.toValue, ofEntry, ofRule, h]

/-- A header of a rule has a kind. -/
theorem Header.kind_ne_none {rule : Rule} {header : Header}
    (h : ofEntry rule.toValue = .ok header) : header.kind ≠ none := by
  rw [Rule.toValue, ofEntry, ofRule] at h
  split at h
  · obtain rfl := Except.ok.inj h
    simp
  · contradiction

theorem unexpected_eq_ok {name : Value} {violation : Violation}
    (h : unexpected name = .ok violation) : Reading.text name = .ok violation.argName := by
  simp only [unexpected, bind_eq_ok, pure_eq_ok] at h
  obtain ⟨nameText, -, filed, hfiled, rfl⟩ := h
  exact filedName_eq_ok hfiled

end Violation

/-- The violation for reasons is that of the rule with these reasons. -/
theorem Verdict.describe_of_violationFor {name value : Value} {rule : Rule} {reasons : List String}
    {violation : Option Violation} (h : violationFor name rule value reasons = .ok violation) :
    ∀ v ∈ violation, reasons ≠ [] ∧
      Violation.describe name rule.toValue value (.ok reasons) = .ok v := by
  intro v hv
  rw [violationFor] at h
  split at h
  · obtain rfl := pure_eq_ok.mp h
    contradiction
  · next hsome =>
    obtain ⟨made, hmade, h⟩ := bind_eq_ok.mp h
    obtain rfl := pure_eq_ok.mp h
    obtain rfl := Option.some.inj hv
    exact ⟨by simpa using hsome, hmade⟩

/-- Reasons make a violation exactly if there are any. -/
theorem Verdict.violationFor_eq_ok {name value : Value} {rule : Rule} {reasons : List String}
    {violation : Option Violation}
    (h : violationFor name rule value reasons = .ok violation) :
    (violation = none ↔ reasons = []) ∧
      ∀ v ∈ violation, v.reasons = reasons ∧ Reading.text name = .ok v.argName := by
  have hdescribed := describe_of_violationFor h
  refine ⟨?_, fun v hv => Violation.describe_eq_ok (hdescribed v hv).2⟩
  cases violation with
  | some v => exact iff_of_false (by simp) (hdescribed v rfl).1
  | none =>
    refine iff_of_true rfl ?_
    by_contra hne
    rw [violationFor, if_neg (by simpa using hne)] at h
    obtain ⟨v, -, h⟩ := bind_eq_ok.mp h
    cases pure_eq_ok.mp h

/-- The value that the argument of a rule has in effect: its default, if it is absent and has
one. -/
def Rule.effective (rule : Rule) (value : Value) : Value :=
  if value.isAbsent && rule.frame.hasDefault then rule.default else value

theorem Value.isAbsent_iff {value : Value} : value.isAbsent = true ↔ value = .undefined := by
  cases value <;> simp [isAbsent]

namespace Engine

variable {engine : Engine} {checkNames : Bool} {name entry value : Value} {rule : Rule}
  {verdict : Verdict}

/-! ### The ways to end -/

/-- The ways in which a judgement can end. -/
inductive Judged (engine : Engine) (checkNames : Bool) (name entry value : Value) : Verdict → Prop
  /-- The entry is no rule. -/
  | unusable {reason : String} {violation : Violation}
      (parsed : Rule.ofEntry entry = .ok (.error reason))
      (described : Violation.describe name entry value (.ok [reason]) = .ok violation) :
      Judged engine checkNames name entry value ⟨none, some violation⟩
  /-- A required argument is absent and has no default. -/
  | missing {rule : Rule} {violation : Option Violation}
      (parsed : Rule.ofEntry entry = .ok (.ok rule)) (absent : value = .undefined)
      (bare : rule.frame.hasDefault = false) (required : rule.frame.isOptional = false)
      (described :
        Verdict.violationFor name rule value [Verdict.missingReason] = .ok violation) :
      Judged engine checkNames name entry value ⟨none, violation⟩
  /-- An absent argument gets a default that is exempt. -/
  | exemptDefault {rule : Rule} {reasons : List String}
      (parsed : Rule.ofEntry entry = .ok (.ok rule)) (absent : value = .undefined)
      (stocked : rule.frame.hasDefault = true)
      (named : engine.nameReasons checkNames name rule = .ok reasons)
      (exempt : rule.exempts rule.default = .ok true) :
      Judged engine checkNames name entry value ⟨some rule.defaultChange, none⟩
  /-- An absent argument gets a default, and only its name is checked. -/
  | default {rule : Rule} {reasons : List String} {violation : Option Violation}
      (parsed : Rule.ofEntry entry = .ok (.ok rule)) (absent : value = .undefined)
      (stocked : rule.frame.hasDefault = true)
      (named : engine.nameReasons checkNames name rule = .ok reasons)
      (exempt : rule.exempts rule.default = .ok false)
      (described : Verdict.violationFor name rule rule.default reasons = .ok violation) :
      Judged engine checkNames name entry value ⟨some rule.defaultChange, violation⟩
  /-- The value is exempt. -/
  | exempt {rule : Rule} {reasons : List String}
      (parsed : Rule.ofEntry entry = .ok (.ok rule))
      (present : value = .undefined →
        rule.frame.hasDefault = false ∧ rule.frame.isOptional = true)
      (named : engine.nameReasons checkNames name rule = .ok reasons)
      (exempt : rule.exempts value = .ok true) :
      Judged engine checkNames name entry value ⟨none, none⟩
  /-- The name is checked, and so is the value, if the rule has it examined. -/
  | checked {rule : Rule} {reasons : List String} {finding : Finding}
      {violation : Option Violation}
      (parsed : Rule.ofEntry entry = .ok (.ok rule))
      (present : value = .undefined →
        rule.frame.hasDefault = false ∧ rule.frame.isOptional = true)
      (named : engine.nameReasons checkNames name rule = .ok reasons)
      (exempt : rule.exempts value = .ok false)
      (examined : engine.examine rule value = .ok finding)
      (described :
        Verdict.violationFor name rule value (reasons ++ finding.reasons) = .ok violation) :
      Judged engine checkNames name entry value
        ⟨finding.replacement.map (Change.mk .clamp value), violation⟩

theorem judged_of_judgeDefault (parsed : Rule.ofEntry entry = .ok (.ok rule))
    (absent : value = .undefined) (stocked : rule.frame.hasDefault = true)
    (h : engine.judgeDefault checkNames name rule = .ok verdict) :
    Judged engine checkNames name entry value verdict := by
  rw [judgeDefault] at h
  obtain ⟨reasons, hreasons, h⟩ := bind_eq_ok.mp h
  obtain ⟨isExempt, hexempt, h⟩ := bind_eq_ok.mp h
  split at h
  · next hyes =>
    subst hyes
    obtain rfl := pure_eq_ok.mp h
    exact .exemptDefault parsed absent stocked hreasons hexempt
  · next hno =>
    obtain rfl : isExempt = false := by simpa using hno
    obtain ⟨violation, hviolation, h⟩ := bind_eq_ok.mp h
    obtain rfl := pure_eq_ok.mp h
    exact .default parsed absent stocked hreasons hexempt hviolation

theorem judged_of_judgeValue (parsed : Rule.ofEntry entry = .ok (.ok rule))
    (present : value = .undefined → rule.frame.hasDefault = false ∧ rule.frame.isOptional = true)
    (h : engine.judgeValue checkNames name rule value = .ok verdict) :
    Judged engine checkNames name entry value verdict := by
  rw [judgeValue] at h
  obtain ⟨reasons, hreasons, h⟩ := bind_eq_ok.mp h
  obtain ⟨isExempt, hexempt, h⟩ := bind_eq_ok.mp h
  split at h
  · next hyes =>
    subst hyes
    obtain rfl := pure_eq_ok.mp h
    exact .exempt parsed present hreasons hexempt
  · next hno =>
    obtain rfl : isExempt = false := by simpa using hno
    obtain ⟨finding, hfinding, h⟩ := bind_eq_ok.mp h
    obtain ⟨violation, hviolation, h⟩ := bind_eq_ok.mp h
    obtain rfl := pure_eq_ok.mp h
    exact .checked parsed present hreasons hexempt hfinding hviolation

/-- **A judgement that does not stop ends in one of the ways listed.** -/
theorem judged_of_judge (h : engine.judge checkNames name entry value = .ok verdict) :
    Judged engine checkNames name entry value verdict := by
  rw [judge] at h
  obtain ⟨parsed, hparsed, h⟩ := bind_eq_ok.mp h
  cases parsed with
  | error reason =>
    obtain ⟨violation, hviolation, h⟩ := bind_eq_ok.mp h
    obtain rfl := pure_eq_ok.mp h
    exact .unusable hparsed hviolation
  | ok rule =>
    have h : engine.judgeRule checkNames name rule value = .ok verdict := h
    rw [judgeRule] at h
    split at h
    · next hdefault =>
      rw [Bool.and_eq_true, Value.isAbsent_iff] at hdefault
      exact judged_of_judgeDefault hparsed hdefault.1 hdefault.2 h
    · next hdefault =>
      have hbare : value = .undefined → rule.frame.hasDefault = false := by
        simpa [Value.isAbsent_iff] using hdefault
      split at h
      · next hmissing =>
        rw [Bool.and_eq_true, Value.isAbsent_iff, Bool.not_eq_true'] at hmissing
        obtain ⟨violation, hviolation, h⟩ := bind_eq_ok.mp h
        obtain rfl := pure_eq_ok.mp h
        exact .missing hparsed hmissing.1 (hbare hmissing.1) hmissing.2 hviolation
      · next hmissing =>
        refine judged_of_judgeValue hparsed (fun habsent => ⟨hbare habsent, ?_⟩) h
        simpa [habsent, Value.isAbsent] using hmissing

theorem judge_of_rule (parsed : Rule.ofEntry entry = .ok (.ok rule)) :
    engine.judge checkNames name entry value = engine.judgeRule checkNames name rule value := by
  rw [judge, parsed]
  rfl

theorem judgeRule_of_default (absent : value = .undefined)
    (stocked : rule.frame.hasDefault = true) :
    engine.judgeRule checkNames name rule value = engine.judgeDefault checkNames name rule := by
  rw [judgeRule, if_pos (by rw [stocked, Bool.and_true, Value.isAbsent_iff]; exact absent)]

theorem judgeRule_of_present
    (present : value = .undefined → rule.frame.hasDefault = false ∧ rule.frame.isOptional = true) :
    engine.judgeRule checkNames name rule value =
      engine.judgeValue checkNames name rule value := by
  rw [judgeRule, if_neg, if_neg]
  · rw [Bool.and_eq_true, Value.isAbsent_iff, Bool.not_eq_true']
    exact fun ⟨habsent, hrequired⟩ => by simp [(present habsent).2] at hrequired
  · rw [Bool.and_eq_true, Value.isAbsent_iff]
    exact fun ⟨habsent, hdefault⟩ => by simp [(present habsent).1] at hdefault

/-- **Each of the ways listed is one in which a judgement ends.** -/
theorem judge_of_judged (h : Judged engine checkNames name entry value verdict) :
    engine.judge checkNames name entry value = .ok verdict := by
  cases h with
  | unusable parsed described =>
    exact bind_eq_ok.mpr ⟨_, parsed, bind_eq_ok.mpr ⟨_, described, rfl⟩⟩
  | missing parsed absent bare required described =>
    rw [judge_of_rule parsed, judgeRule, absent, bare, required]
    exact bind_eq_ok.mpr ⟨_, absent ▸ described, rfl⟩
  | exemptDefault parsed absent stocked named exempt =>
    rw [judge_of_rule parsed, judgeRule_of_default absent stocked, judgeDefault]
    exact bind_eq_ok.mpr ⟨_, named, bind_eq_ok.mpr ⟨_, exempt, rfl⟩⟩
  | default parsed absent stocked named exempt described =>
    rw [judge_of_rule parsed, judgeRule_of_default absent stocked, judgeDefault]
    exact bind_eq_ok.mpr ⟨_, named, bind_eq_ok.mpr ⟨_, exempt,
      bind_eq_ok.mpr ⟨_, described, rfl⟩⟩⟩
  | exempt parsed present named exempt =>
    rw [judge_of_rule parsed, judgeRule_of_present present, judgeValue]
    exact bind_eq_ok.mpr ⟨_, named, bind_eq_ok.mpr ⟨_, exempt, rfl⟩⟩
  | checked parsed present named exempt examined described =>
    rw [judge_of_rule parsed, judgeRule_of_present present, judgeValue]
    exact bind_eq_ok.mpr ⟨_, named, bind_eq_ok.mpr ⟨_, exempt, bind_eq_ok.mpr ⟨_, examined,
      bind_eq_ok.mpr ⟨_, described, rfl⟩⟩⟩⟩

/-! ### Names and findings -/

/-- The name of an argument follows the convention of its kind, if there is one. -/
def NameFits (engine : Engine) (name : Value) (rule : Rule) : Prop :=
  ∀ kind ∈ rule.frame.constraint.kind?, ∀ convention ∈ engine.conventions kind,
    ∃ p, convention = .pattern p ∧ Convention.search p name = .ok true

theorem nameReasons_eq_nil_iff {reasons : List String}
    (h : engine.nameReasons checkNames name rule = .ok reasons) :
    reasons = [] ↔ (checkNames = true → engine.NameFits name rule) := by
  rw [nameReasons] at h
  split at h
  · next hoff => simp_all [pure_eq_ok]
  · next hon =>
    have hon : checkNames = true := by simpa using hon
    obtain ⟨kind, hkind, h⟩ := bind_eq_ok.mp h
    have hfits : engine.NameFits name rule ↔ ∀ convention ∈ engine.conventions kind,
        ∃ p, convention = .pattern p ∧ Convention.search p name = .ok true := by
      simp [NameFits, Rule.kind_eq_ok.mp hkind]
    rw [hfits]
    simp only [hon, true_imp_iff]
    rw [Conventions.reasons] at h
    split at h
    · next convention hconvention =>
      rw [hconvention]
      cases convention with
      | unusable value => simp [Convention.reasons] at h
      | pattern p =>
        obtain ⟨found, hfound, h⟩ := bind_eq_ok.mp h
        cases found <;> simp [← pure_eq_ok.mp h, hfound]
    · next hnone => simp_all

/-- What is found about a value that is not exempt. -/
theorem examine_spec {finding : Finding} (hkinds : ∀ kind, kind ∈ engine.kinds)
    (h : engine.examine rule value = .ok finding) :
    finding.reasons = [] ↔ (rule.Examines value → rule.frame.constraint.Admits value) := by
  rw [examine] at h
  obtain ⟨isExamined, hexamined, h⟩ := bind_eq_ok.mp h
  have hiff := Rule.examines_iff hexamined
  split at h
  · next hyes =>
    obtain ⟨kind, hkind, h⟩ := bind_eq_ok.mp h
    rw [examineKind, if_pos (by simpa using hkinds kind)] at h
    obtain ⟨tag, htag, h⟩ := bind_eq_ok.mp h
    rw [(Kind.check_spec (Rule.kind_eq_ok.mp hkind) htag h).1]
    simp [hiff.mp hyes]
  · next hno =>
    have hno : ¬ rule.Examines value := fun he => hno (hiff.mpr he)
    simp [← pure_eq_ok.mp h, Finding.unchanged, hno]

/-- Only an examined number outside its bounds is moved, and to a bound. -/
theorem examine_replacement {finding : Finding} (h : engine.examine rule value = .ok finding)
    {after : Value} (hafter : finding.replacement = some after) :
    rule.Examines value ∧ rule.frame.constraint.MovesTo value after := by
  rw [examine] at h
  obtain ⟨isExamined, hexamined, h⟩ := bind_eq_ok.mp h
  split at h
  · next hyes =>
    obtain ⟨kind, hkind, h⟩ := bind_eq_ok.mp h
    rw [examineKind] at h
    refine ⟨(Rule.examines_iff hexamined).mp hyes, ?_⟩
    split at h
    · obtain ⟨tag, htag, h⟩ := bind_eq_ok.mp h
      exact (Kind.check_spec (Rule.kind_eq_ok.mp hkind) htag h).2 after hafter
    · simp [← pure_eq_ok.mp h, Finding.unchanged] at hafter
  · simp [← pure_eq_ok.mp h, Finding.unchanged] at hafter

/-! ### Which entries pass -/

/-- The value of an argument meets a rule. -/
structure Meets (engine : Engine) (checkNames : Bool) (name : Value) (rule : Rule)
    (value : Value) : Prop where
  /-- A required argument is there or has a default. -/
  there : value = .undefined → rule.frame.hasDefault = true ∨ rule.frame.isOptional = true
  /-- The name follows the convention, unless the value in effect is exempt. -/
  nameFits : checkNames = true → ¬ rule.Exempts (rule.effective value) → engine.NameFits name rule
  /-- A value that is examined and not exempt is admitted. -/
  admitted : rule.Examines value → ¬ rule.Exempts value → rule.frame.constraint.Admits value

/-- An entry is a rule, and the value of its argument meets it. -/
def Passes (engine : Engine) (checkNames : Bool) (name entry value : Value) : Prop :=
  ∃ rule, Rule.ofEntry entry = .ok (.ok rule) ∧ engine.Meets checkNames name rule value

theorem passes_iff_meets (parsed : Rule.ofEntry entry = .ok (.ok rule)) :
    engine.Passes checkNames name entry value ↔ engine.Meets checkNames name rule value := by
  simp [Passes, parsed]

/-- Without a default to put in, an argument has the value in effect that it was given. -/
theorem effective_of_present
    (present : value = .undefined → rule.frame.hasDefault = false ∧ rule.frame.isOptional = true) :
    rule.effective value = value := by
  rw [Rule.effective, if_neg]
  intro hdefault
  rw [Bool.and_eq_true, Value.isAbsent_iff] at hdefault
  simp [(present hdefault.1).1] at hdefault

namespace Judged

/-- **A verdict has no violation exactly if the entry passes.** -/
theorem violation_eq_none_iff (hkinds : ∀ kind, kind ∈ engine.kinds)
    (h : Judged engine checkNames name entry value verdict) :
    verdict.violation = none ↔ engine.Passes checkNames name entry value := by
  cases h with
  | unusable parsed described => simp [Passes, parsed]
  | missing parsed absent bare required described =>
    rw [passes_iff_meets parsed, (Verdict.violationFor_eq_ok described).1]
    refine ⟨by simp, fun hmeets => ?_⟩
    simpa [bare, required] using hmeets.there absent
  | exemptDefault parsed absent stocked named exempt =>
    rw [passes_iff_meets parsed]
    refine ⟨fun _ => ⟨fun _ => Or.inl stocked, fun _ hnot => ?_, fun he => absurd absent he.1⟩,
      fun _ => rfl⟩
    rw [Rule.effective, absent, stocked] at hnot
    exact absurd ((Rule.exempts_iff exempt).mp rfl) hnot
  | default parsed absent stocked named exempt described =>
    rw [passes_iff_meets parsed, (Verdict.violationFor_eq_ok described).1,
      nameReasons_eq_nil_iff named]
    have hexempt := mt (Rule.exempts_iff exempt).mpr (by simp)
    refine ⟨fun hfits => ⟨fun _ => Or.inl stocked, fun hcheck _ => hfits hcheck,
      fun he => absurd absent he.1⟩, fun hmeets hcheck => hmeets.nameFits hcheck ?_⟩
    rwa [Rule.effective, absent, stocked]
  | exempt parsed present named exempt =>
    rw [passes_iff_meets parsed]
    have hexempt := (Rule.exempts_iff exempt).mp rfl
    refine ⟨fun _ => ⟨fun habsent => Or.inr (present habsent).2, fun _ hnot => ?_,
      fun _ hnot => absurd hexempt hnot⟩, fun _ => rfl⟩
    rw [effective_of_present present] at hnot
    exact absurd hexempt hnot
  | checked parsed present named exempt examined described =>
    rw [passes_iff_meets parsed, (Verdict.violationFor_eq_ok described).1,
      List.append_eq_nil_iff, nameReasons_eq_nil_iff named, examine_spec hkinds examined]
    have hexempt := mt (Rule.exempts_iff exempt).mpr (by simp)
    refine ⟨fun ⟨hfits, hadmits⟩ => ⟨fun habsent => Or.inr (present habsent).2,
      fun hcheck _ => hfits hcheck, fun he _ => hadmits he⟩, fun hmeets => ⟨fun hcheck => ?_,
      fun he => hmeets.admitted he hexempt⟩⟩
    refine hmeets.nameFits hcheck ?_
    rwa [effective_of_present present]

/-! ### Which changes there are -/

/-- A default is put in exactly if the argument is absent and has one. -/
theorem default_iff (h : Judged engine checkNames name entry value verdict) :
    (∃ change ∈ verdict.change, change.action = .default) ↔
      ∃ rule, Rule.ofEntry entry = .ok (.ok rule) ∧ value = .undefined ∧
        rule.frame.hasDefault = true := by
  cases h with
  | unusable parsed described => simp [parsed]
  | missing parsed absent bare required described => simp [parsed, bare]
  | exemptDefault parsed absent stocked named exempt =>
    simp [parsed, absent, stocked, Rule.defaultChange]
  | default parsed absent stocked named exempt described =>
    simp [parsed, absent, stocked, Rule.defaultChange]
  | exempt parsed present named exempt =>
    simpa [parsed] using fun habsent => (present habsent).1
  | checked parsed present named exempt examined described =>
    simpa [parsed] using fun habsent => (present habsent).1

/-- What a change changes: an absent argument becomes the default, a number outside its bounds is
moved to a bound. -/
theorem change_spec (h : Judged engine checkNames name entry value verdict) {change : Change}
    (hchange : change ∈ verdict.change) :
    change.before = value ∧ ∃ rule, Rule.ofEntry entry = .ok (.ok rule) ∧
      (change.action = .default ∧ change.after = rule.default ∨
        change.action = .clamp ∧ rule.Examines value ∧
          rule.frame.constraint.MovesTo value change.after) := by
  cases h with
  | unusable parsed described => simp at hchange
  | missing parsed absent bare required described => simp at hchange
  | exemptDefault parsed absent stocked named exempt =>
    obtain rfl := Option.some.inj hchange
    exact ⟨absent.symm, _, parsed, Or.inl ⟨rfl, rfl⟩⟩
  | default parsed absent stocked named exempt described =>
    obtain rfl := Option.some.inj hchange
    exact ⟨absent.symm, _, parsed, Or.inl ⟨rfl, rfl⟩⟩
  | exempt parsed present named exempt => simp at hchange
  | checked parsed present named exempt examined described =>
    obtain ⟨after, hafter, rfl⟩ := Option.map_eq_some_iff.mp hchange
    exact ⟨rfl, _, parsed, Or.inr ⟨rfl, examine_replacement examined hafter⟩⟩

/-! ### What violations say -/

/-- **Every violation is described,** with the entry if it is no rule, and else with the rule. -/
theorem exists_describe (h : Judged engine checkNames name entry value verdict)
    {violation : Violation} (hviolation : violation ∈ verdict.violation) :
    (∃ reason, Rule.ofEntry entry = .ok (.error reason) ∧
        Violation.describe name entry value (.ok [reason]) = .ok violation) ∨
      ∃ rule shown reasons, Rule.ofEntry entry = .ok (.ok rule) ∧ reasons ≠ [] ∧
        Violation.describe name rule.toValue shown (.ok reasons) = .ok violation := by
  have of_rule {rule : Rule} {shown : Value} {reasons : List String}
      (parsed : Rule.ofEntry entry = .ok (.ok rule))
      (described : Verdict.violationFor name rule shown reasons = .ok verdict.violation) :
      ∃ rule shown reasons, Rule.ofEntry entry = .ok (.ok rule) ∧ reasons ≠ [] ∧
        Violation.describe name rule.toValue shown (.ok reasons) = .ok violation :=
    ⟨rule, shown, reasons, parsed,
      Verdict.describe_of_violationFor described violation hviolation⟩
  cases h with
  | unusable parsed described =>
    obtain rfl := Option.some.inj hviolation
    exact Or.inl ⟨_, parsed, described⟩
  | missing parsed absent bare required described => exact Or.inr (of_rule parsed described)
  | exemptDefault parsed absent stocked named exempt => simp at hviolation
  | default parsed absent stocked named exempt described => exact Or.inr (of_rule parsed described)
  | exempt parsed present named exempt => simp at hviolation
  | checked parsed present named exempt examined described =>
    exact Or.inr (of_rule parsed described)

/-- A violation has reasons, and the name under which the argument is filed. -/
theorem violation_spec (h : Judged engine checkNames name entry value verdict)
    {violation : Violation} (hviolation : violation ∈ verdict.violation) :
    violation.reasons ≠ [] ∧ Reading.text name = .ok violation.argName := by
  rcases h.exists_describe hviolation with ⟨reason, -, described⟩ | ⟨_, _, _, -, hne, described⟩
  · obtain ⟨hreasons, hname⟩ := Violation.describe_eq_ok described
    exact ⟨by simp [hreasons], hname⟩
  · obtain ⟨rfl, hname⟩ := Violation.describe_eq_ok described
    exact ⟨hne, hname⟩

end Judged

end Engine

end ArgRules
