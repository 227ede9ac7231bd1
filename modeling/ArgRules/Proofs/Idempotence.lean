import ArgRules.Proofs.Acceptance
import ArgRules.Proofs.Answers
import ArgRules.Proofs.Clamping
import ArgRules.Proofs.Ledger

/-!
# Arguments that have passed pass again

The arguments of a result that has passed can be evaluated again, and nothing happens to them: the
second result has passed, and its arguments are the same. A number that was moved is accepted where
it is, and so is everything that was left alone.

## Defaults

A default is put in without being examined, but in the second evaluation it is an argument like any
other. So it has to be a value that its rule keeps (`Engine.Keeps`), and if it is not, the second
evaluation says so. About all other arguments there is nothing to suppose, except that the limits of
rules on whole numbers have a text: a whole number that is moved to its limit is read again.

## How the second evaluation is reached

Each entry is judged by itself, so it is enough to look at one. If its argument was left alone, the
second judgement is the first one. If the argument was moved, it is now clamped, and a clamped
number is not moved again. If a default was put in, the rule keeps it; whether names are checked
makes no difference to what is found about a value (`Engine.judge_of_clearsName`).

## Main definitions

* `Engine.Keeps` — a rule, alone, accepts a value and leaves it as it is
* `Engine.Settles` — a judgement has nothing against a value and leaves it as it is

## Main results

* `Engine.keeps_iff_settles` — the two are the same
* `Engine.Judged.settles_clamped` — a number that was moved is settled
* `Engine.evaluate_again` — arguments that have passed pass again
-/

namespace ArgRules

/-- The value in effect is also in effect when it is given. -/
theorem Rule.effective_effective (rule : Rule) (value : Value) :
    rule.effective (rule.effective value) = rule.effective value := by
  simp only [effective]
  split_ifs <;> rfl

namespace Engine

variable {engine : Engine} {checkNames otherChecks : Bool} {key other entry value : Value}
  {name : String} {rule : Rule} {verdict : Verdict} {change : Option Change}

/-! ### Values that are kept -/

/-- A judgement has nothing against a value and leaves it as it is. -/
def Settles (engine : Engine) (checkNames : Bool) (key entry value : Value) : Prop :=
  ∃ change, engine.judge checkNames key entry value = .ok ⟨change, none⟩ ∧
    ∀ made ∈ change, made.after = value

/-- A rule, alone, accepts a value and leaves it as it is. -/
def Keeps (engine : Engine) (name : String) (entry value : Value) : Prop :=
  ∃ result, (engine.evaluate (.map (Entries.single name entry))
      (.map (Entries.single name value))).answer = .ok result ∧
    result.passed = true ∧ result.args = [(name, value)]

/-- **A rule keeps a value exactly if its judgement settles it.** -/
theorem keeps_iff_settles (hmode : engine.mode ≠ .off) (hname : Directive.isName name = false) :
    engine.Keeps name entry value ↔ engine.Settles engine.isStrict (.text name) entry value := by
  simp only [Keeps, Settles, evaluate_single_eq_ok hmode hname]
  constructor
  · rintro ⟨_, ⟨⟨change, violation⟩, hjudge, rfl⟩, hpassed, hargs⟩
    cases violation with
    | some violation =>
      simp [CheckResult.passed, CheckResult.ofVerdicts, violationsOf] at hpassed
    | none =>
      refine ⟨change, hjudge, fun made hmade => ?_⟩
      obtain rfl := hmade
      simpa [CheckResult.args_ofVerdicts_single] using hargs
  · rintro ⟨change, hjudge, hafter⟩
    refine ⟨_, ⟨_, hjudge, rfl⟩, rfl, ?_⟩
    rw [CheckResult.args_ofVerdicts_single]
    cases change with
    | none => rfl
    | some made => rw [Option.map_some, Option.getD_some, hafter made rfl]

/-! ### Names -/

/-- There is nothing against a name, or the value in effect is exempt. -/
def ClearsName (engine : Engine) (checkNames : Bool) (key : Value) (rule : Rule)
    (value : Value) : Prop :=
  ∃ reasons, engine.nameReasons checkNames key rule = .ok reasons ∧
    (reasons = [] ∨ rule.exempts (rule.effective value) = .ok true)

theorem nameReasons_congr (hkey : key.asText? = some name) (hother : other.asText? = some name) :
    engine.nameReasons checkNames other rule = engine.nameReasons checkNames key rule := by
  simp only [nameReasons, Conventions.reasons_eq_of_asText? _ _ hkey,
    Conventions.reasons_eq_of_asText? _ _ hother]

/-- A name whose entry has no violation is cleared. -/
theorem Judged.clearsName (h : Judged engine checkNames key entry value verdict)
    (hparsed : Rule.ofEntry entry = .ok (.ok rule)) (hnone : verdict.violation = none) :
    engine.ClearsName checkNames key rule value := by
  cases h with
  | unusable parsed described => simp at hnone
  | missing parsed absent bare required described =>
    simp [(Verdict.violationFor_eq_ok described).1] at hnone
  | exemptDefault parsed absent stocked named exempt =>
    obtain rfl := Except.ok.inj (Except.ok.inj (parsed.symm.trans hparsed))
    exact ⟨_, named, Or.inr (by rw [Rule.effective, absent, stocked]; exact exempt)⟩
  | default parsed absent stocked named exempt described =>
    obtain rfl := Except.ok.inj (Except.ok.inj (parsed.symm.trans hparsed))
    exact ⟨_, named, Or.inl ((Verdict.violationFor_eq_ok described).1.mp hnone)⟩
  | exempt parsed present named exempt =>
    obtain rfl := Except.ok.inj (Except.ok.inj (parsed.symm.trans hparsed))
    exact ⟨_, named, Or.inr (by rw [effective_of_present present]; exact exempt)⟩
  | checked parsed present named exempt examined described =>
    obtain rfl := Except.ok.inj (Except.ok.inj (parsed.symm.trans hparsed))
    have hreasons := (Verdict.violationFor_eq_ok described).1.mp hnone
    exact ⟨_, named, Or.inl (List.append_eq_nil_iff.mp hreasons).1⟩

/-- **What is found about a value does not depend on the name,** nor on whether names are checked,
as long as the name is cleared. -/
theorem judge_of_clearsName (h : engine.judge checkNames key entry value = .ok ⟨change, none⟩)
    (hclears : ∀ rule, Rule.ofEntry entry = .ok (.ok rule) →
      engine.ClearsName otherChecks other rule value) :
    engine.judge otherChecks other entry value = .ok ⟨change, none⟩ := by
  have hjudged := judged_of_judge h
  generalize hverdict : Verdict.mk change none = verdict at hjudged
  refine judge_of_judged ?_
  cases hjudged with
  | unusable parsed described => simp at hverdict
  | missing parsed absent bare required described =>
    obtain ⟨rfl, rfl⟩ := Verdict.mk.inj hverdict
    simpa using (Verdict.violationFor_eq_ok described).1
  | exemptDefault parsed absent stocked named exempt =>
    obtain ⟨reasons, hreasons, -⟩ := hclears _ parsed
    exact .exemptDefault parsed absent stocked hreasons exempt
  | default parsed absent stocked named exempt described =>
    obtain ⟨rfl, rfl⟩ := Verdict.mk.inj hverdict
    obtain ⟨reasons, hreasons, hempty⟩ := hclears _ parsed
    rw [Rule.effective, absent, stocked] at hempty
    obtain rfl := hempty.resolve_right fun hexempt => by
      simpa using hexempt.symm.trans exempt
    exact .default parsed absent stocked hreasons exempt rfl
  | exempt parsed present named exempt =>
    obtain ⟨reasons, hreasons, -⟩ := hclears _ parsed
    exact .exempt parsed present hreasons exempt
  | @checked rule _ finding _ parsed present named exempt examined described =>
    obtain ⟨rfl, rfl⟩ := Verdict.mk.inj hverdict
    obtain ⟨reasons, hreasons, hempty⟩ := hclears _ parsed
    rw [effective_of_present present] at hempty
    obtain rfl := hempty.resolve_right fun hexempt => by
      simpa using hexempt.symm.trans exempt
    have hfinding := (List.append_eq_nil_iff.mp
      ((Verdict.violationFor_eq_ok described).1.mp rfl)).2
    exact .checked parsed present hreasons exempt examined (by rw [hfinding]; rfl)

/-- A name that is cleared stays so under another key with the same text, and if fewer names are
checked. -/
theorem ClearsName.of_checks (h : engine.ClearsName checkNames key rule value)
    (hkey : key.asText? = some name) (hother : other.asText? = some name)
    (hchecks : otherChecks = true → checkNames = true) :
    engine.ClearsName otherChecks other rule value := by
  cases otherChecks with
  | false => exact ⟨[], rfl, Or.inl rfl⟩
  | true =>
    rw [hchecks rfl] at h
    rwa [ClearsName, nameReasons_congr hkey hother]

/-- **Neither another key with the same text nor fewer checks make a difference** to a verdict
without a violation. -/
theorem judge_of_checks (hkey : key.asText? = some name) (hother : other.asText? = some name)
    (hchecks : otherChecks = true → checkNames = true)
    (h : engine.judge checkNames key entry value = .ok ⟨change, none⟩) :
    engine.judge otherChecks other entry value = .ok ⟨change, none⟩ :=
  judge_of_clearsName h fun _ hparsed =>
    ((judged_of_judge h).clearsName hparsed rfl).of_checks hkey hother hchecks

theorem Settles.of_checks (h : engine.Settles checkNames key entry value)
    (hkey : key.asText? = some name) (hother : other.asText? = some name)
    (hchecks : otherChecks = true → checkNames = true) :
    engine.Settles otherChecks other entry value := by
  obtain ⟨change, hjudge, hafter⟩ := h
  exact ⟨change, judge_of_checks hkey hother hchecks hjudge, hafter⟩

theorem ClearsName.effective (h : engine.ClearsName checkNames key rule value) :
    engine.ClearsName checkNames key rule (rule.effective value) := by
  rwa [ClearsName, Rule.effective_effective]

end Engine

/-! ### Numbers that were moved -/

namespace Engine

variable {engine : Engine} {checkNames : Bool} {key entry value : Value} {name : String}
  {rule : Rule} {verdict : Verdict}

/-- What is found about a number that was moved: nothing, and it stays. -/
theorem examine_clamped {finding : Finding} {after : Value}
    (h : engine.examine rule value = .ok finding) (hreasons : finding.reasons = [])
    (hafter : finding.replacement = some after)
    (hwritable : rule.frame.constraint.kind? = some .integer → rule.frame.constraint.Writable) :
    ∃ again, engine.examine rule after = .ok again ∧ again.reasons = [] ∧
      again.replacement.getD after = after := by
  obtain ⟨hexamined, n, m, rfl, rfl, hmoves, -, hlimit⟩ := examine_replacement h hafter
  obtain ⟨kind, tag, hkind, hsupported, htag, hcheck⟩ := check_of_examine h hexamined hreasons
  have hclamped := Kind.check_eq_clamped hkind htag hcheck hreasons
  rw [hafter, Option.getD_some, Value.number.injEq] at hclamped
  have hwhole : kind = .integer → Value.isIntegerFormatted (.number m) = .ok true := by
    rintro rfl
    have hwrites := hwritable hkind
    cases hc : rule.frame.constraint <;> rw [hc] at hkind <;>
      simp only [Constraint.kind?, Option.some.injEq, reduceCtorEq] at hkind
    rw [hc] at hwrites hlimit
    simp only [Constraint.lower, Constraint.upper, Option.map_eq_some_iff] at hlimit
    rcases hlimit with ⟨bound, hbound, rfl⟩ | ⟨bound, hbound, rfl⟩
    · exact Value.isIntegerFormatted_of_isWritable (hwrites _
        (List.mem_map_of_mem (List.mem_append_left _ (Option.mem_toList.mpr hbound))))
    · exact Value.isIntegerFormatted_of_isWritable (hwrites _
        (List.mem_map_of_mem (List.mem_append_right _ (Option.mem_toList.mpr hbound))))
  obtain ⟨again, hagain, hnone, hstays⟩ := Kind.check_of_clamped (n := m) hkind hmoves
    (by rw [hclamped]; exact Number.clamped_clamped ..) hwhole
  obtain ⟨isExamined, hasked⟩ : Answered (rule.examines (.number m)) :=
    Rule.answered_examines hkind ⟨_, rfl⟩
  cases isExamined with
  | false => exact ⟨.unchanged [], bind_eq_ok.mpr ⟨false, hasked, rfl⟩, rfl, rfl⟩
  | true =>
    refine ⟨again, bind_eq_ok.mpr ⟨true, hasked, ?_⟩, hnone, hstays⟩
    refine bind_eq_ok.mpr ⟨kind, Rule.kind_eq_ok.mpr hkind, ?_⟩
    rw [examineKind, if_pos hsupported]
    exact hagain

/-- **A number that was moved is settled.** -/
theorem Judged.settles_clamped (h : Judged engine checkNames key entry value verdict)
    (hnone : verdict.violation = none) {made : Change} (hmade : made ∈ verdict.change)
    (haction : made.action = .clamp)
    (hwritable : ∀ rule, Rule.ofEntry entry = .ok (.ok rule) →
      rule.frame.constraint.kind? = some .integer → rule.frame.constraint.Writable) :
    engine.Settles checkNames key entry made.after := by
  cases h with
  | unusable parsed described => simp at hmade
  | missing parsed absent bare required described => simp at hmade
  | exempt parsed present named exempt => simp at hmade
  | exemptDefault parsed absent stocked named exempt =>
    obtain rfl := Option.some.inj hmade
    simp [Rule.defaultChange] at haction
  | default parsed absent stocked named exempt described =>
    obtain rfl := Option.some.inj hmade
    simp [Rule.defaultChange] at haction
  | @checked rule _ finding _ parsed present named exempt examined described =>
    obtain ⟨after, hafter, rfl⟩ := Option.map_eq_some_iff.mp hmade
    obtain ⟨rfl, hreasons⟩ :=
      List.append_eq_nil_iff.mp ((Verdict.violationFor_eq_ok described).1.mp hnone)
    obtain ⟨again, hagain, hfound, hstays⟩ :=
      examine_clamped examined hreasons hafter (hwritable rule parsed)
    obtain ⟨-, n, m, -, rfl, -⟩ := examine_replacement examined hafter
    have hpresent : Value.number m = .undefined →
        rule.frame.hasDefault = false ∧ rule.frame.isOptional = true := by simp
    obtain ⟨isExempt, hexempt⟩ : Answered (rule.exempts (.number m)) :=
      Rule.answered_exempts ⟨_, rfl⟩
    cases isExempt with
    | true => exact ⟨none, judge_of_judged (.exempt parsed hpresent named hexempt), by simp⟩
    | false =>
      refine ⟨_, judge_of_judged (.checked parsed hpresent named hexempt hagain
        (by rw [hfound]; rfl)), fun moved hmoved => ?_⟩
      obtain ⟨final, hfinal, rfl⟩ := Option.map_eq_some_iff.mp hmoved
      simpa [hfinal] using hstays

end Engine

/-! ### What a passed evaluation leaves -/

/-- A default that is put in is what is in effect. -/
theorem Engine.Judged.default_eq_effective {engine : Engine} {checkNames : Bool}
    {key entry value : Value} {rule : Rule} {verdict : Verdict}
    (h : Judged engine checkNames key entry value verdict) {made : Change}
    (hmade : made ∈ verdict.change) (haction : made.action = .default)
    (hparsed : Rule.ofEntry entry = .ok (.ok rule)) : made.after = rule.effective value := by
  obtain ⟨other, hother, rfl, hstocked⟩ := h.default_iff.mp ⟨made, hmade, haction⟩
  obtain rfl := Except.ok.inj (Except.ok.inj (hother.symm.trans hparsed))
  obtain ⟨-, again, hagain, ⟨-, hafter⟩ | ⟨hclamp, -⟩⟩ := h.change_spec hmade
  · obtain rfl := Except.ok.inj (Except.ok.inj (hagain.symm.trans hparsed))
    rw [hafter, Rule.effective, hstocked]
    rfl
  · rw [haction] at hclamp
    contradiction

/-- Verdicts without violations that change nothing describe a result that has passed and has the
same arguments. -/
theorem CheckResult.ofVerdicts_of_settled {table : Table String Value}
    {verdicts : Table Value Verdict}
    (h : ∀ found ∈ verdicts, found.2.violation = none ∧ ∀ made ∈ found.2.change,
      ∃ name, found.1.asText? = some name ∧ table.get? name = some made.after) :
    (ofVerdicts table.texts verdicts []).passed = true ∧
      (ofVerdicts table.texts verdicts []).args = table := by
  constructor
  · have hnone : violationsOf verdicts = [] :=
      List.filterMap_eq_nil_iff.mpr fun found hfound => (h found hfound).1
    rw [passed, ofVerdicts, hnone]
    rfl
  · rw [ofVerdicts, Table.named_texts]
    refine Table.putAll_eq_self fun write hwrite => ?_
    obtain ⟨key, hkey, hwritten⟩ := Table.mem_named.mp hwrite
    obtain ⟨⟨other, made⟩, hmade, hsame⟩ := List.mem_map.mp hwritten
    obtain ⟨rfl, hafter⟩ := Prod.mk.inj hsame
    obtain ⟨found, hfound, hchange⟩ := List.mem_filterMap.mp hmade
    obtain ⟨change, hmem, heq⟩ := Option.map_eq_some_iff.mp hchange
    obtain ⟨rfl, rfl⟩ := Prod.mk.inj heq
    obtain ⟨name, hname, hget⟩ := (h found hfound).2 change hmem
    obtain rfl := Option.some.inj (hkey.symm.trans hname)
    rw [hget, hafter]

namespace Account

open Engine

variable {engine : Engine} {rules args : Entries} {verdicts : Table Value Verdict}
  {extra : List Violation} {result : CheckResult} {name : String} {raw : Value}

/-- **What a passed evaluation leaves under a name is accepted and left there,** if it was moved, or
if it was left alone, or if it is a default that the rule keeps. -/
theorem exists_judge_again (h : Account engine rules args verdicts extra result)
    (hrules : TextKeyed rules) (hpassed : result.violations = [])
    (hjudges : engine.judges rules name = true) (hraw : rules.get? (.text name) = some raw)
    (hwritable : ∀ rule, Rule.ofEntry raw = .ok (.ok rule) →
      rule.frame.constraint.kind? = some .integer → rule.frame.constraint.Writable)
    (hkept : ∀ change ∈ result.changes.get? name, change.action = .default →
      engine.Settles engine.isStrict (.text name) raw change.after) :
    ∃ change, engine.judge (engine.checksNames rules) (.text name) raw
        ((result.args.get? name).getD .undefined) = .ok ⟨change, none⟩ ∧
      ∀ made ∈ change, result.args.get? name = some made.after := by
  obtain ⟨key, hkey, hjudged⟩ := h.exists_judged_of_passed hrules hpassed hjudges hraw
  have hafter := h.after_eq hrules name
  have hargs := h.get?_args hrules name
  generalize result.changes.get? name = change at hjudged hafter hargs hkept
  cases change with
  | none =>
    refine ⟨none, ?_, by simp⟩
    rw [hafter]
    exact judge_of_checks hkey rfl id (judge_of_judged hjudged)
  | some made =>
    suffices engine.Settles (engine.checksNames rules) (.text name) raw made.after by
      obtain ⟨change, hjudge, hmade⟩ := this
      exact ⟨change, by rwa [hafter], fun moved hmoved => by rw [hmade moved hmoved, hargs]; rfl⟩
    cases haction : made.action with
    | default =>
      obtain ⟨change, hjudge, hmade⟩ := hkept made rfl haction
      refine ⟨change, judge_of_clearsName hjudge fun rule hparsed => ?_, hmade⟩
      rw [hjudged.default_eq_effective rfl haction hparsed]
      exact ((hjudged.clearsName hparsed rfl).of_checks hkey rfl id).effective
    | clamp => exact (hjudged.settles_clamped rfl rfl haction hwritable).of_checks hkey rfl id

/-- A number that a passed evaluation has moved is kept. -/
theorem keeps_clamped (h : Account engine rules args verdicts extra result)
    (hmode : engine.mode ≠ .off) (hrules : TextKeyed rules) (hpassed : result.violations = [])
    {change : Change} (hchange : result.changes.get? name = some change)
    (haction : change.action = .clamp) (hraw : rules.get? (.text name) = some raw)
    (hwritable : ∀ rule, Rule.ofEntry raw = .ok (.ok rule) →
      rule.frame.constraint.kind? = some .integer → rule.frame.constraint.Writable) :
    engine.Keeps name raw change.after := by
  obtain ⟨hjudges, -⟩ := h.clamp hrules hchange haction
  obtain ⟨key, hkey, hjudged⟩ := h.exists_judged_of_passed hrules hpassed hjudges hraw
  rw [keeps_iff_settles hmode (isName_of_judges hjudges)]
  refine (hjudged.settles_clamped rfl hchange haction hwritable).of_checks hkey rfl
    fun hstrict => ?_
  rw [isStrict, decide_eq_true_eq] at hstrict
  simp [checksNames, hstrict]

theorem textKeyed_args (h : Account engine rules args verdicts extra result)
    (hargs : TextKeyed args) : TextKeyed result.args.texts := by
  refine Table.textKeyed_texts ?_
  rw [h.args]
  exact Table.nodup_keys_putAll hargs.distinct _

/-- The names of the arguments are those that were given and those of judged entries, so if no
argument was left over, none is. -/
theorem leavesOver_args (h : Account engine rules args verdicts extra result)
    (hrules : TextKeyed rules)
    (hknown : ∀ name ∈ args.named.keys, engine.leavesOver rules name = false)
    (hname : name ∈ result.args.keys) : engine.leavesOver rules name = false := by
  obtain ⟨value, hvalue⟩ := Table.mem_keys_iff.mp hname
  rcases h.get?_changes hrules name with ⟨hnone, -⟩ | ⟨_, raw, _, -, hjudges, hraw, -⟩
  · refine hknown name (by_contra fun hmissing => ?_)
    have hargs := h.get?_args hrules name
    rw [hnone, Table.get?_eq_none_iff.mpr hmissing] at hargs
    exact Table.get?_eq_none_iff.mp hargs hname
  · rw [← Table.get?_named_text] at hraw
    exact leavesOver_of_judges hjudges (Table.mem_keys_of_get? hraw)

/-- Nothing is left over of the arguments that a passed evaluation leaves. -/
theorem leftOver_again (h : Account engine rules args verdicts extra result)
    (hrules : TextKeyed rules) (hargs : TextKeyed args) (hpassed : result.violations = []) :
    unexpectedAll (if engine.allowsExtra rules then [] else
      result.args.texts.keys.filter fun key => key.asText?.any (engine.leavesOver rules)) =
        .ok [] := by
  rw [h.violations] at hpassed
  have hknown := (h.extra_eq_nil_iff hargs).mp (List.append_eq_nil_iff.mp hpassed).2
  split
  · rfl
  · next hrefused =>
    rw [List.filter_eq_nil_iff.mpr]
    · rfl
    · intro key hkey
      obtain ⟨name, hname⟩ := (h.textKeyed_args hargs).isText key hkey
      have hmem : name ∈ result.args.keys := by
        rw [← Table.named_texts result.args, Table.keys_named]
        exact List.mem_filterMap.mpr ⟨key, hkey, hname⟩
      rw [hname, Option.any_some, h.leavesOver_args hrules (hknown (by simpa using hrefused)) hmem]
      exact Bool.false_ne_true

end Account

namespace Engine

variable {engine : Engine} {ruleMap argMap : Value} {rules args : Entries} {result : CheckResult}

/-- The assessment of the arguments that a passed evaluation leaves finds nothing and changes
nothing. -/
theorem exists_assess_again (hmode : engine.mode ≠ .off)
    (hruleMap : ruleMap.asMap? = some rules) (hargMap : argMap.asMap? = some args)
    (hrules : TextKeyed rules) (hargs : TextKeyed args)
    (hwritable : ∀ entry ∈ rules, ∀ rule, Rule.ofEntry entry.2 = .ok (.ok rule) →
      rule.frame.constraint.kind? = some .integer → rule.frame.constraint.Writable)
    (h : (engine.evaluate ruleMap argMap).answer = .ok result) (hpassed : result.passed = true)
    (hkept : ∀ name, ∀ change ∈ result.changes.get? name, change.action = .default →
      ∀ entry ∈ rules.get? (.text name), engine.Keeps name entry change.after) :
    ∃ verdicts, engine.assess rules result.args.texts = .ok (verdicts, []) ∧
      ∀ found ∈ verdicts, found.2.violation = none ∧ ∀ made ∈ found.2.change,
        ∃ name, found.1.asText? = some name ∧ result.args.get? name = some made.after := by
  obtain ⟨verdicts, extra, haccount⟩ :=
    exists_account_of_evaluate hmode hruleMap hargMap hrules hargs h
  obtain ⟨_, _, hassess, -⟩ :=
    (evaluate_eq_ok_iff_assess hmode hruleMap hargMap hrules hargs).mp h
  obtain ⟨policy, hpolicy, -, allow, hallow, -⟩ := assess_eq_ok.mp hassess
  have hfollows := Policy.follows_of_ofMode hmode hpolicy
  rw [CheckResult.passed, List.isEmpty_iff] at hpassed
  have hjudge : ∀ entry ∈ policy.judged rules, ∃ verdict,
      engine.judge policy.checkNames entry.1 entry.2 (argument result.args.texts entry.1) =
          .ok verdict ∧
        (verdict.violation = none ∧ ∀ made ∈ verdict.change,
          ∃ name, entry.1.asText? = some name ∧ result.args.get? name = some made.after) := by
    rintro ⟨key, raw⟩ hentry
    rw [hfollows.judged_eq hrules] at hentry
    obtain ⟨name, hkey, hjudges, hraw⟩ := get?_of_mem_judgedEntries hrules hentry
    obtain ⟨change, hjudge, hafter⟩ := haccount.exists_judge_again hrules hpassed hjudges hraw
      (hwritable _ ((engine.judgedEntries_sublist rules).subset hentry))
      fun made hmade haction =>
        (keeps_iff_settles hmode (isName_of_judges hjudges)).mp
          (hkept name made hmade haction raw hraw)
    rw [argument, ← Table.get?_named hkey, Table.named_texts, hfollows.checkNames]
    exact ⟨_, judge_of_checks rfl hkey id hjudge, rfl, fun made hmade =>
      ⟨name, hkey, hafter made hmade⟩⟩
  obtain ⟨again, hagain, hsettled⟩ := exists_judgeAll (P := fun key verdict =>
    verdict.violation = none ∧ ∀ made ∈ verdict.change,
      ∃ name, key.asText? = some name ∧ result.args.get? name = some made.after) hjudge
  refine ⟨again, assess_eq_ok.mpr ⟨policy, hpolicy, hagain, allow, hallow, ?_⟩, hsettled⟩
  rw [hfollows.unclaimed_eq hrules (haccount.textKeyed_args hargs),
    hfollows.allowExtra allow hallow]
  exact haccount.leftOver_again hrules hargs hpassed

/-- **Arguments that have passed pass again,** and nothing happens to them, if their rules keep the
defaults that were put in. A number that was moved is kept in any case. -/
theorem evaluate_again (hmode : engine.mode ≠ .off)
    (hruleMap : ruleMap.asMap? = some rules) (hargMap : argMap.asMap? = some args)
    (hrules : TextKeyed rules) (hargs : TextKeyed args)
    (hwritable : ∀ entry ∈ rules, ∀ rule, Rule.ofEntry entry.2 = .ok (.ok rule) →
      rule.frame.constraint.kind? = some .integer → rule.frame.constraint.Writable)
    (h : (engine.evaluate ruleMap argMap).answer = .ok result) (hpassed : result.passed = true) :
    (∀ name, ∀ change ∈ result.changes.get? name, change.action = .clamp →
      ∃ entry ∈ rules.get? (.text name), engine.Keeps name entry change.after) ∧
    ((∀ name, ∀ change ∈ result.changes.get? name, change.action = .default →
      ∀ entry ∈ rules.get? (.text name), engine.Keeps name entry change.after) →
      ∃ again, (engine.evaluate ruleMap result.argMap).answer = .ok again ∧
        again.passed = true ∧ again.args = result.args) := by
  obtain ⟨verdicts, extra, haccount⟩ :=
    exists_account_of_evaluate hmode hruleMap hargMap hrules hargs h
  refine ⟨fun name change hchange haction => ?_, fun hkept => ?_⟩
  · obtain ⟨-, entry, _, hentry, -⟩ := haccount.clamp hrules hchange haction
    obtain ⟨key, -, hmem⟩ := Table.mem_of_get?_cons hentry
    rw [CheckResult.passed, List.isEmpty_iff] at hpassed
    exact ⟨entry, hentry, haccount.keeps_clamped hmode hrules hpassed hchange haction hentry
      (hwritable _ hmem)⟩
  · obtain ⟨again, hassess, hsettled⟩ := exists_assess_again hmode hruleMap hargMap hrules hargs
      hwritable h hpassed hkept
    obtain ⟨hagain, hsame⟩ := CheckResult.ofVerdicts_of_settled hsettled
    exact ⟨_, (evaluate_eq_ok_iff_assess hmode hruleMap rfl hrules
      (haccount.textKeyed_args hargs)).mpr ⟨again, [], hassess, rfl⟩, hagain, hsame⟩

end Engine

/-- A rule map with a whole number that is moved to its limit and a text with a default. -/
def Sample.stocked : Entries :=
  [(.text "count", Sample.counting),
    (.text "colour", .map [(.text "kind", .text "string"), (.text "default", .text "red")])]

/-- The number is moved and the text is put in, and then both stay. -/
theorem Engine.evaluate_again_sample : ∃ result,
    (Engine.default.evaluate (.map Sample.stocked) (.map [(.text "count", .int 10)])).answer =
        .ok result ∧
      (∃ change ∈ result.changes.get? "count", change.action = .clamp ∧
        ∃ entry ∈ Sample.stocked.get? (.text "count"),
          Engine.default.Keeps "count" entry change.after) ∧
      (∃ change ∈ result.changes.get? "colour", change.action = .default) ∧
      ∃ again, (Engine.default.evaluate (.map Sample.stocked) result.argMap).answer = .ok again ∧
        again.passed = true ∧ again.args = result.args := by
  have hrules : TextKeyed Sample.stocked :=
    ⟨by simp [Sample.stocked, Value.asText?], by decide⟩
  have hargs : TextKeyed [(Value.text "count", Value.int 10)] :=
    ⟨by simp [Value.asText?], by decide⟩
  have hcount : Rule.ofEntry Sample.counting = .ok (.ok ⟨⟨false, false,
      .integer none (some (.alone 5)) true, [.kind, .maxInt, .autobound]⟩, .null⟩) := rfl
  have hcolour : ∃ rule, Rule.ofEntry (.map [(.text "kind", .text "string"),
        (.text "default", .text "red")]) = .ok (.ok rule) ∧
      rule.frame.constraint.kind? = some .string ∧ rule.default = .text "red" :=
    ⟨_, rfl, rfl, rfl⟩
  have hwritable : ∀ entry ∈ Sample.stocked, ∀ rule, Rule.ofEntry entry.2 = .ok (.ok rule) →
      rule.frame.constraint.kind? = some .integer → rule.frame.constraint.Writable := by
    intro entry hentry rule hparsed hkind
    rcases List.mem_pair.mp hentry with rfl | rfl
    · obtain rfl := Except.ok.inj (Except.ok.inj (hcount.symm.trans hparsed))
      intro n hn
      rw [List.mem_singleton.mp hn]
      decide +kernel
    · obtain ⟨known, hknown, hstring, -⟩ := hcolour
      obtain rfl := Except.ok.inj (Except.ok.inj (hknown.symm.trans hparsed))
      simp [hstring] at hkind
  have hseen : (Engine.default.evaluate (.map Sample.stocked)
      (.map [(.text "count", .int 10)])).answer.toOption.map (fun result => (result.passed,
        result.changes.map fun entry => (entry.1, entry.2.action))) =
      some (true, [("count", .clamp), ("colour", .default)]) := by
    decide +kernel
  obtain ⟨result, hresult, hseen⟩ := exists_of_toOption_map hseen
  obtain ⟨hpassed, hchanges⟩ := Prod.mk.inj hseen
  have haction (name : String) : (result.changes.get? name).map (·.action) =
      Table.get? [("count", Action.clamp), ("colour", Action.default)] name := by
    rw [← hchanges, Table.get?_map_snd]
  obtain ⟨hclamped, hagain⟩ := evaluate_again (by decide) rfl rfl hrules hargs hwritable hresult
    hpassed
  obtain ⟨moved, hmoved, hclamp⟩ := Option.map_eq_some_iff.mp (haction "count")
  obtain ⟨stocked, hstocked, hdefault⟩ := Option.map_eq_some_iff.mp (haction "colour")
  obtain ⟨verdicts, extra, haccount⟩ :=
    exists_account_of_evaluate (by decide) rfl rfl hrules hargs hresult
  refine ⟨result, hresult, ⟨moved, hmoved, hclamp, hclamped "count" moved hmoved hclamp⟩,
    ⟨stocked, hstocked, hdefault⟩, hagain fun name change hchange hput entry hentry => ?_⟩
  obtain ⟨_, rule, hsame, hparsed, hafter⟩ := haccount.default_after hrules hchange hput
  obtain rfl := Option.some.inj (hsame.symm.trans hentry)
  obtain ⟨key, hkey, hmem⟩ := Table.mem_of_get?_cons hentry
  have hname := Value.beq_text_iff.mp hkey
  rcases List.mem_pair.mp hmem with heq | heq
  · obtain ⟨rfl, -⟩ := Prod.mk.inj heq
    obtain rfl := Option.some.inj hname
    obtain rfl := Option.some.inj (hmoved.symm.trans hchange)
    exact absurd (hclamp.symm.trans hput) (by decide)
  · obtain ⟨rfl, rfl⟩ := Prod.mk.inj heq
    obtain rfl := Option.some.inj hname
    obtain ⟨known, hknown, -, hred⟩ := hcolour
    obtain rfl := Except.ok.inj (Except.ok.inj (hknown.symm.trans hparsed))
    rw [hafter, hred]
    exact ⟨_, rfl, rfl, rfl⟩

end ArgRules
