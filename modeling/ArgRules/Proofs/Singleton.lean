import ArgRules.Proofs.Splitting

/-!
# One rule and one argument

A rule map with a single rule, evaluated against a map with nothing but its argument, is a judgement
and nothing else: there are no directives, and no argument is left over. Names are checked in strict
mode only.

## Main results

* `Engine.assess_single` — the assessment is the judgement
* `Engine.evaluate_single_answer` — the answer is what the judgement says
* `Engine.returns_single_iff` — the call comes to a result exactly if the judgement does
-/

namespace ArgRules

/-- A map with one entry. -/
def Entries.single (name : String) (value : Value) : Entries := [(.text name, value)]

theorem Entries.textKeyed_single (name : String) (value : Value) :
    TextKeyed (Entries.single name value) :=
  @Table.textKeyed_texts _ [(name, value)] (List.nodup_singleton name)

/-- A single argument is what its verdict says. -/
theorem CheckResult.args_ofVerdicts_single (name : String) (value : Value) (verdict : Verdict) :
    (ofVerdicts (Entries.single name value) [(.text name, verdict)] []).args =
      [(name, (verdict.change.map (·.after)).getD value)] := by
  obtain ⟨change, violation⟩ := verdict
  have hnamed : (Entries.single name value).named = [(name, value)] := rfl
  rw [ofVerdicts, hnamed]
  cases change <;> simp [changesOf, writesOf, Table.named, Value.asText?, Table.put]

namespace Engine

variable {engine : Engine} {name : String} {entry value : Value} {result : CheckResult}

/-- Whether names are checked without a directive. -/
def isStrict (engine : Engine) : Bool := engine.mode = .strict

/-- A single rule comes without directives. -/
theorem ofMode_single (hname : Directive.isName name = false) :
    Policy.ofMode engine.mode (Entries.single name entry) =
      .ok ⟨[], engine.isStrict, .ok false⟩ := by
  have hfree {key : String} (hkey : Directive.isName key = true) :
      (Entries.single name entry).get? (.text key) = none := by
    rw [Entries.single, Table.get?_cons, if_neg]
    · rfl
    · rw [Value.beq_text_iff]
      rintro ⟨⟩
      rw [hname] at hkey
      contradiction
  rw [Policy.ofMode, isStrict]
  split
  · next hstrict => simp [hstrict, Policy.strict]
  · next hnot =>
    have hskip : (Entries.single name entry).get? Directive.skipKeys = none := hfree (by decide)
    have hnames : (Entries.single name entry).get? Directive.checkNames = none := hfree (by decide)
    have hextra : (Entries.single name entry).get? Directive.allowExtraKeys = none :=
      hfree (by decide)
    rw [Policy.ofRules, Policy.directive, Policy.directive, hskip, hnames, hextra]
    simp [hnot, Policy.skippedKeys, bind, Except.bind, pure, Except.pure]

/-- **The assessment of a single rule is its judgement.** -/
theorem assess_single (hname : Directive.isName name = false) :
    engine.assess (Entries.single name entry) (Entries.single name value) =
      (engine.judge engine.isStrict (.text name) entry value).map
        fun verdict => ([(.text name, verdict)], []) := by
  have hbeq : (Value.text name == Value.text name) = true := Value.beq_text_iff.mpr rfl
  have hargument : argument (Entries.single name value) (.text name) = value := by
    rw [argument, Entries.single, Table.get?_cons, if_pos hbeq, Option.getD_some]
  have hjudged (policy : Policy) (hskips : policy.skipped = []) :
      policy.judged (Entries.single name entry) = Entries.single name entry := by
    rw [Policy.judged, Entries.single, List.filter_cons_of_pos]
    · rfl
    · simp [Directive.isKey, Value.asText?, hname, Policy.skips, hskips]
  have hleft (policy : Policy) (hskips : policy.skipped = []) :
      policy.unclaimed (Entries.single name entry) (Entries.single name value) = [] := by
    rw [Policy.unclaimed, hjudged policy hskips]
    simp [Entries.single, hbeq]
  have hverdicts : engine.judgeAll engine.isStrict (Entries.single name value)
      (Entries.single name entry) = (engine.judge engine.isStrict (.text name) entry value).map
        fun verdict => [(.text name, verdict)] := by
    rw [Entries.single.eq_def name entry, judgeAll_cons, hargument]
    cases engine.judge engine.isStrict (.text name) entry value <;> rfl
  rw [assess, ofMode_single hname]
  simp only [bind, Except.bind]
  rw [hjudged _ rfl, hleft _ rfl, hverdicts]
  cases engine.judge engine.isStrict (.text name) entry value <;> rfl

variable (hmode : engine.mode ≠ .off) (hname : Directive.isName name = false)

include hmode hname

/-- **The answer for a single rule is what the judgement says.** -/
theorem evaluate_single_answer :
    (engine.evaluate (.map (Entries.single name entry))
        (.map (Entries.single name value))).answer =
      match engine.judge engine.isStrict (.text name) entry value with
      | .ok verdict =>
        .ok (CheckResult.ofVerdicts (Entries.single name value) [(.text name, verdict)] [])
      | .error fault => .error (.fault fault) := by
  rw [evaluate_eq_evaluateFiled hmode rfl rfl,
    evaluateFiled_eq_assess (Entries.textKeyed_single ..) (Entries.textKeyed_single ..),
    assess_single hname]
  cases engine.judge engine.isStrict (.text name) entry value <;> rfl

/-- The result for a single rule is what the verdict says. -/
theorem evaluate_single_eq_ok :
    (engine.evaluate (.map (Entries.single name entry))
        (.map (Entries.single name value))).answer = .ok result ↔
      ∃ verdict, engine.judge engine.isStrict (.text name) entry value = .ok verdict ∧
        CheckResult.ofVerdicts (Entries.single name value) [(.text name, verdict)] [] =
          result := by
  rw [evaluate_single_answer hmode hname]
  cases engine.judge engine.isStrict (.text name) entry value <;> simp

/-- A call with a single rule comes to a result exactly if the judgement does. -/
theorem returns_single_iff :
    (engine.evaluate (.map (Entries.single name entry))
        (.map (Entries.single name value))).Returns ↔
      ∃ verdict, engine.judge engine.isStrict (.text name) entry value = .ok verdict := by
  simp [Outcome.Returns, evaluate_single_eq_ok hmode hname]

end Engine

end ArgRules
