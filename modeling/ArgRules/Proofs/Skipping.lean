import ArgRules.Proofs.Account
import ArgRules.Proofs.Directives

/-!
# Skipped names are invisible

A name that is skipped is neither judged nor left over, so nothing that a call has under it can be
seen in what the call finds out. Here this is stated of two calls. If their rule maps have the same
directives, and if outside the skipped names the rules are the same and the arguments are, then the
two calls stop for the same reason, or they give results with the same violations, the same changes
and, outside the skipped names, the same arguments. At a skipped name each result has what its own
argument map has there.

## How it is shown

All that a call finds out is in its assessment. The assessment reads the rules and the arguments in
three ways: it judges the entries that are not skipped, with the arguments under their names, and it
goes through the keys that are not skipped. Each of these sees only what is outside of the skipped
names.

## Main definitions

* `CheckResult.outside` — a result without the arguments of some names
* `Engine.AlikeOutside` — two calls differ at skipped names only

## Main results

* `Engine.assess_of_alike` — two calls that differ at skipped names only have the same assessment
* `Engine.evaluateFiled_outside` — outside the skipped names they have the same outcome
* `Engine.skipped_invisible` — skipped names are invisible
-/

namespace ArgRules

/-- A result without the arguments of some names. -/
def CheckResult.outside (hidden : String → Bool) (result : CheckResult) : CheckResult :=
  { result with args := result.args.filter fun entry => !hidden entry.1 }

@[simp] theorem CheckResult.outside_violations (hidden : String → Bool) (result : CheckResult) :
    (result.outside hidden).violations = result.violations := rfl

@[simp] theorem CheckResult.outside_changes (hidden : String → Bool) (result : CheckResult) :
    (result.outside hidden).changes = result.changes := rfl

/-- Where verdicts are on names that are not hidden, hidden arguments are left as they are, and the
others are changed in the same way without them. -/
theorem CheckResult.outside_ofVerdicts {hidden : String → Bool} {verdicts : Table Value Verdict}
    (hverdicts : ∀ name ∈ verdicts.named.keys, hidden name = false) (args : Entries)
    (extra : List Violation) :
    (ofVerdicts args verdicts extra).outside hidden =
      ofVerdicts (args.outside hidden) verdicts extra := by
  have hargs : (args.named.putAll (writesOf (changesOf verdicts)).named).filter
      (fun entry => !hidden entry.1) =
        (args.outside hidden).named.putAll (writesOf (changesOf verdicts)).named := by
    rw [Table.named_outside]
    refine Table.filter_putAll (p := fun name => !hidden name) (fun name hname => ?_) _
    rw [keys_named_writesOf] at hname
    have hvisible := hverdicts name ((keys_named_changesOf_sublist verdicts).subset hname)
    exact ⟨by rw [hvisible, Bool.not_false],
      fun other hother => by rw [eq_of_beq hother, hvisible, Bool.not_false]⟩
  rw [outside, ofVerdicts, ofVerdicts, hargs]

namespace Engine

/-- Two calls differ at skipped names only: their rule maps have the same directives and, outside
the skipped names, the same rules in the same order, and outside the skipped names their argument
maps are the same. -/
structure AlikeOutside (engine : Engine) (rules args others given : Entries) : Prop where
  directives : (Directive.among others).Perm (Directive.among rules)
  sameRules : (Directive.without others).outside (engine.skips rules) =
    (Directive.without rules).outside (engine.skips rules)
  args : given.outside (engine.skips rules) = args.outside (engine.skips rules)

variable {engine : Engine} {rules args others given : Entries}

end Engine

namespace Policy

variable {policy : Policy} {engine : Engine} {rules : Entries}

/-- The rules that are judged are those outside the skipped names. -/
theorem Follows.judged_eq_outside (hfollows : policy.Follows engine rules) {others : Entries}
    (hothers : TextKeyed others) :
    policy.judged others = (Directive.without others).outside (engine.skips rules) := by
  rw [judged_eq_filter, Table.outside]
  refine List.filter_congr fun entry hentry => ?_
  obtain ⟨name, hname⟩ :=
    hothers.isText entry.1 (List.mem_map_of_mem (List.mem_filter.mp hentry).1)
  rw [hname, Option.any_some, hfollows.skips hname]

/-- The keys that are left over are among those outside the skipped names. -/
theorem Follows.unclaimed_eq_outside (hfollows : policy.Follows engine rules)
    {others args : Entries} (hargs : TextKeyed args) :
    policy.unclaimed others args = (args.outside (engine.skips rules)).keys.filter fun key =>
      !(policy.judged others).keys.any (· == key) := by
  rw [unclaimed, Table.outside, Table.keys, Table.keys, Table.keys, List.filter_map,
    List.filter_map, List.filter_filter]
  refine congrArg _ (List.filter_congr fun entry hentry => ?_)
  obtain ⟨name, hname⟩ := hargs.isText entry.1 (List.mem_map_of_mem hentry)
  simp [hname, hfollows.skips hname]

end Policy

namespace Engine

variable {engine : Engine} {ruleMap argMap otherMap givenMap : Value}
  {rules args others given : Entries} {result : CheckResult}

/-- **Two calls that differ at skipped names only have the same assessment.** -/
theorem assess_of_alike (hmode : engine.mode ≠ .off) (hrules : TextKeyed rules)
    (hothers : TextKeyed others) (hargs : TextKeyed args) (hgiven : TextKeyed given)
    (halike : engine.AlikeOutside rules args others given) :
    engine.assess others given = engine.assess rules args := by
  rw [assess, assess, Policy.ofMode_of_perm hrules halike.directives]
  cases hpolicy : Policy.ofMode engine.mode rules with
  | error fault => rfl
  | ok policy =>
    have hfollows := Policy.follows_of_ofMode hmode hpolicy
    have hjudged : policy.judged others = policy.judged rules := by
      rw [hfollows.judged_eq_outside hothers, hfollows.judged_eq_outside hrules, halike.sameRules]
    have hleft : policy.unclaimed others given = policy.unclaimed rules args := by
      rw [hfollows.unclaimed_eq_outside hgiven, hfollows.unclaimed_eq_outside hargs, hjudged,
        halike.args]
    -- A judged entry has a name that is not skipped, and there the argument maps agree.
    have hargument : ∀ key ∈ (policy.judged rules).keys,
        argument given key = argument args key := by
      intro key hkey
      rw [hfollows.judged_eq_outside hrules] at hkey
      obtain ⟨raw, hmem⟩ := Table.mem_keys_iff.mp hkey
      have hvisible := (Bool.not_eq_true' _).mp (List.mem_filter.mp hmem).2
      rw [argument, argument, ← Table.get?_outside hvisible given, halike.args,
        Table.get?_outside hvisible args]
    simp only [bind, Except.bind]
    rw [hjudged, judgeAll_congr hargument, hleft]

/-- No verdict of an assessment is on a skipped name. -/
theorem not_skips_of_assess (hmode : engine.mode ≠ .off) (hrules : TextKeyed rules)
    {verdicts : Table Value Verdict} {extra : List Violation}
    (h : engine.assess rules args = .ok (verdicts, extra)) :
    ∀ name ∈ verdicts.named.keys, engine.skips rules name = false := by
  obtain ⟨policy, hpolicy, hverdicts, -⟩ := assess_eq_ok.mp h
  have hfollows := Policy.follows_of_ofMode hmode hpolicy
  intro name hname
  rw [Table.keys_named, keys_of_judgeAll hverdicts, hfollows.judged_eq_outside hrules,
    ← Table.keys_named, Table.named_outside] at hname
  obtain ⟨raw, hmem⟩ := Table.mem_keys_iff.mp hname
  exact (Bool.not_eq_true' _).mp (List.mem_filter.mp hmem).2

/-! ### What is seen of a call -/

/-- **Outside the skipped names, two calls that differ there only have the same outcome,** with the
same events. -/
theorem evaluateFiled_outside (hmode : engine.mode ≠ .off) (hrules : TextKeyed rules)
    (hothers : TextKeyed others) (hargs : TextKeyed args) (hgiven : TextKeyed given)
    (halike : engine.AlikeOutside rules args others given) :
    (engine.evaluateFiled others given).map (·.outside (engine.skips rules)) =
      (engine.evaluateFiled rules args).map (·.outside (engine.skips rules)) := by
  rw [evaluateFiled_eq_assess hothers hgiven, evaluateFiled_eq_assess hrules hargs,
    assess_of_alike hmode hrules hothers hargs hgiven halike]
  cases hassess : engine.assess rules args with
  | error fault => rfl
  | ok found =>
    obtain ⟨verdicts, extra⟩ := found
    have hvisible := not_skips_of_assess hmode hrules hassess
    have hsame : (CheckResult.ofVerdicts given verdicts extra).outside (engine.skips rules) =
        (CheckResult.ofVerdicts args verdicts extra).outside (engine.skips rules) := by
      rw [CheckResult.outside_ofVerdicts hvisible, CheckResult.outside_ofVerdicts hvisible,
        halike.args]
    simp only [Outcome.map, Except.map, hsame]
    rfl

/-- At a skipped name a result has what the argument map has there. -/
theorem get?_skipped_of_evaluate (hmode : engine.mode ≠ .off)
    (hruleMap : ruleMap.asMap? = some rules) (hargMap : argMap.asMap? = some args)
    (hrules : TextKeyed rules) (hargs : TextKeyed args)
    (h : (engine.evaluate ruleMap argMap).answer = .ok result) {name : String}
    (hskips : engine.skips rules name = true) : result.args.get? name = args.named.get? name := by
  obtain ⟨verdicts, extra, hassess, rfl⟩ :=
    (evaluate_eq_ok_iff_assess hmode hruleMap hargMap hrules hargs).mp h
  refine CheckResult.get?_ofVerdicts_of_not_mem (textKeyed_of_assess hrules hassess) fun hmem => ?_
  rw [not_skips_of_assess hmode hrules hassess name hmem] at hskips
  contradiction

/-- Rule maps with the same directives skip the same names. -/
theorem skips_of_perm (hrules : TextKeyed rules)
    (hperm : (Directive.among others).Perm (Directive.among rules)) :
    engine.skips others = engine.skips rules := by
  have hlisted : others.get? Directive.skipKeys = rules.get? Directive.skipKeys :=
    Directive.get?_of_perm (hrules.of_keys_sublist (List.filter_sublist.map _)) hperm (by decide)
  funext name
  rw [skips, skips, Directive.listed, Directive.listed, Directive.value, Directive.value, hlisted]

/-- **Skipped names are invisible.** Two calls that differ at skipped names only have the same
outcome outside these names, and at a skipped name each result has what its own argument map has
there. -/
theorem skipped_invisible (hmode : engine.mode ≠ .off) (hruleMap : ruleMap.asMap? = some rules)
    (hargMap : argMap.asMap? = some args) (hotherMap : otherMap.asMap? = some others)
    (hgivenMap : givenMap.asMap? = some given) (hrules : TextKeyed rules) (hargs : TextKeyed args)
    (hothers : TextKeyed others) (hgiven : TextKeyed given)
    (halike : engine.AlikeOutside rules args others given) :
    (engine.evaluate otherMap givenMap).map (·.outside (engine.skips rules)) =
        (engine.evaluate ruleMap argMap).map (·.outside (engine.skips rules)) ∧
      (∀ result, (engine.evaluate ruleMap argMap).answer = .ok result →
        ∀ name, engine.skips rules name = true → result.args.get? name = args.named.get? name) ∧
      ∀ result, (engine.evaluate otherMap givenMap).answer = .ok result →
        ∀ name, engine.skips rules name = true → result.args.get? name = given.named.get? name := by
  refine ⟨?_, fun result hresult name hskips => ?_, fun result hresult name hskips => ?_⟩
  · rw [evaluate_eq_evaluateFiled hmode hotherMap hgivenMap,
      evaluate_eq_evaluateFiled hmode hruleMap hargMap]
    exact evaluateFiled_outside hmode hrules hothers hargs hgiven halike
  · exact get?_skipped_of_evaluate hmode hruleMap hargMap hrules hargs hresult hskips
  · rw [← skips_of_perm hrules halike.directives] at hskips
    exact get?_skipped_of_evaluate hmode hotherMap hgivenMap hothers hgiven hresult hskips

end Engine

/-- The rules of the sample, with a rule for the skipped name that cannot be used. -/
def Sample.annotated : Entries := (.text "note", .int 3) :: Sample.rules

/-- The arguments of the sample, with another note, at another place. -/
def Sample.noted : Entries :=
  [(.text "note", .text "urgent"), (.text "size", .int 10), (.text "weight", .null)]

/-- Neither the rule for the note is seen in the sample, nor the note. -/
theorem Engine.skipped_invisible_sample :
    Engine.default.AlikeOutside Sample.rules Sample.args Sample.annotated Sample.noted ∧
      ∃ result, (Engine.default.evaluate (.map Sample.annotated) (.map Sample.noted)).answer =
          .ok result ∧
        result.violations = Sample.result.violations ∧ result.changes = Sample.result.changes ∧
        result.args.get? "note" = some (.text "urgent") ∧
        Sample.result.args.get? "note" = some .null := by
  have halike : Engine.default.AlikeOutside Sample.rules Sample.args Sample.annotated
      Sample.noted := ⟨.rfl, rfl, rfl⟩
  have hannotated : TextKeyed Sample.annotated :=
    ⟨by simp [Sample.annotated, Sample.rules, Directive.skipKeys, Value.asText?], by decide⟩
  have hnoted : TextKeyed Sample.noted := ⟨by simp [Sample.noted, Value.asText?], by decide⟩
  obtain ⟨hsame, hnote, hother⟩ := @skipped_invisible Engine.default (.map Sample.rules)
    (.map Sample.args) (.map Sample.annotated) (.map Sample.noted) _ _ _ _ (by decide) rfl rfl rfl
    rfl Sample.textKeyed_rules Sample.textKeyed_args hannotated hnoted halike
  have hskips : Engine.default.skips Sample.rules "note" = true := rfl
  have hanswer := congrArg Outcome.answer hsame
  simp only [Outcome.map, Sample.evaluate_eq] at hanswer
  obtain ⟨result, hresult, hview⟩ := map_eq_ok.mp hanswer
  have hviolations : result.violations = Sample.result.violations := by
    simpa using congrArg CheckResult.violations hview
  have hchanges : result.changes = Sample.result.changes := by
    simpa using congrArg CheckResult.changes hview
  exact ⟨halike, result, hresult, hviolations, hchanges, hother result hresult _ hskips,
    hnote _ Sample.evaluate_eq _ hskips⟩

end ArgRules
