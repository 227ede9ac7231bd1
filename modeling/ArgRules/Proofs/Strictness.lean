import ArgRules.Proofs.Account
import ArgRules.Proofs.Directives

/-!
# Strict mode spelled out

Strict mode follows no directive. What it does instead can be said in directives: names are checked,
arguments without a rule are not allowed, nothing is skipped. Here it is shown that these three
directives, put anywhere among the rules of a rule map in the place of its own, make normal mode do
exactly what strict mode does.

## Why the places do not matter

The policy of strict mode is that of the three directives, whatever else there is. Under one policy
an evaluation passes over directives, so that it is the same for two rule maps with the same rules
in the same order. The two modes judge in the same way, since no judgement asks for the mode.

## Main definitions

* `SpellsOutStrict` — a rule map says in directives what strict mode does with another one

## Main results

* `Engine.evaluateUnder_inMode` — under a policy, the mode does nothing
* `Engine.strict_eq_spelledOut` — strict mode is normal mode with the three directives
-/

namespace ArgRules

/-! ### Engines in another mode -/

namespace Engine

variable {engine : Engine} {mode : Mode}

/-- No judgement asks for the mode. -/
theorem judge_inMode (checkNames : Bool) (name entry value : Value) :
    (engine.inMode mode).judge checkNames name entry value =
      engine.judge checkNames name entry value := rfl

theorem step_inMode (checkNames : Bool) (pass : Pass) (name entry : Value) :
    (engine.inMode mode).step checkNames pass name entry =
      engine.step checkNames pass name entry := by
  rw [step, step, judge_inMode]

theorem walk_inMode (checkNames : Bool) (pass : Pass) (rules : Entries) :
    (engine.inMode mode).walk checkNames pass rules = engine.walk checkNames pass rules := by
  induction rules generalizing pass with
  | nil => rfl
  | cons entry rest ih =>
    obtain ⟨name, raw⟩ := entry
    rw [walk, walk, step_inMode]
    exact congrArg _ (funext ih)

/-- **Under a policy, the mode does nothing.** -/
theorem evaluateUnder_inMode (policy : Policy) (rules args : Entries) :
    (engine.inMode mode).evaluateUnder policy rules args =
      engine.evaluateUnder policy rules args := by
  rw [evaluateUnder, evaluateUnder, walk_inMode]

end Engine

/-! ### Strict mode in directives -/

/-- The directives that say what strict mode does. -/
def Directive.strictEntries : Entries :=
  [(checkNames, .bool true), (allowExtraKeys, .bool false), (skipKeys, .list [])]

/-- A rule map says in directives what strict mode does with another one: it has the same rules in
the same order, and the directives are the three that say so, anywhere among the rules. -/
structure SpellsOutStrict (given rules : Entries) : Prop where
  directives : (Directive.among given).Perm Directive.strictEntries
  rules : Directive.without given = Directive.without rules

/-- The three directives ask for the policy of strict mode. -/
theorem Policy.ofRules_of_spelledOut {given : Entries}
    (h : (Directive.among given).Perm Directive.strictEntries) : ofRules given = .ok strict := by
  -- The order may be any, so the policy is computed for the three directives as they are listed.
  have hown : Directive.among Directive.strictEntries = Directive.strictEntries := rfl
  have htexts : TextKeyed Directive.strictEntries :=
    ⟨by simp [Directive.strictEntries, Directive.checkNames, Directive.allowExtraKeys,
      Directive.skipKeys, Value.asText?], by decide⟩
  rw [← hown] at h htexts
  rw [ofRules_of_perm htexts h]
  rfl

namespace Engine

variable {engine : Engine} {ruleMap argMap : Value} {rules args : Entries}

/-- In strict mode an evaluation depends on the rules of a rule map alone. -/
theorem evaluateMaps_strict : (engine.inMode .strict).evaluateMaps rules args =
    engine.evaluateUnder .strict (Directive.without rules) args := by
  rw [evaluateUnder_without]
  exact evaluateUnder_inMode ..

/-- In normal mode with the three directives it does as well, and in the same way. -/
theorem evaluateMaps_normal_of_spelledOut {given : Entries} (h : SpellsOutStrict given rules) :
    (engine.inMode .normal).evaluateMaps given args =
      engine.evaluateUnder .strict (Directive.without rules) args := by
  have hpolicy : Policy.ofMode (engine.inMode .normal).mode given = .ok .strict :=
    Policy.ofRules_of_spelledOut h.directives
  rw [evaluateMaps, hpolicy, ← h.rules, evaluateUnder_without]
  exact evaluateUnder_inMode ..

/-- **Strict mode is normal mode with the three directives.** The answers are the same, results and
faults. And whatever directives a rule map has, strict mode makes nothing of them: two rule maps
with the same rules have the same outcome. -/
theorem strict_eq_spelledOut {spelledOut : Value} {given : Entries}
    (hruleMap : ruleMap.asMap? = some rules) (hspelledOut : spelledOut.asMap? = some given)
    (hargMap : argMap.asMap? = some args) (h : SpellsOutStrict given rules) :
    ((engine.inMode .strict).evaluate ruleMap argMap).answer =
        ((engine.inMode .normal).evaluate spelledOut argMap).answer ∧
      ∀ other others, other.asMap? = some others →
        Directive.without others = Directive.without rules →
        (engine.inMode .strict).evaluate other argMap =
          (engine.inMode .strict).evaluate ruleMap argMap := by
  refine ⟨?_, fun other others hother hsame => ?_⟩
  · rw [evaluate_eq_evaluateFiled (by simp) hruleMap hargMap,
      evaluate_eq_evaluateFiled (by simp) hspelledOut hargMap, evaluateFiled_answer,
      evaluateFiled_answer, evaluateMaps_strict, evaluateMaps_normal_of_spelledOut h]
  · rw [evaluate_eq_evaluateFiled (by simp) hother hargMap,
      evaluate_eq_evaluateFiled (by simp) hruleMap hargMap, evaluateFiled, evaluateFiled,
      evaluateMaps_strict, evaluateMaps_strict, hsame]

end Engine

/-- A rule map with directives that stop normal mode, before, between and after the rules. -/
def Sample.muddled : Entries :=
  [(Directive.skipKeys, .int 5),
    (.text "size_num", .map [(.text "kind", .text "number"), (.text "max_num", .int 6),
      (.text "autobound", .bool true)]),
    (.text "_shape", .map [(.text "kind", .text "boolean")]),
    (.text "colour", .map [(.text "kind", .text "string"), (.text "default", .text "red")]),
    (Directive.allowExtraKeys, .text "yes")]

/-- The same rules, with directives that say what strict mode does. -/
def Sample.spelledOut : Entries :=
  [(.text "size_num", .map [(.text "kind", .text "number"), (.text "max_num", .int 6),
      (.text "autobound", .bool true)]),
    (Directive.skipKeys, .list []), (Directive.checkNames, .bool true),
    (.text "colour", .map [(.text "kind", .text "string"), (.text "default", .text "red")]),
    (Directive.allowExtraKeys, .bool false)]

/-- An argument map with a number out of bounds, and an argument without a rule. -/
def Sample.measured : Entries := [(.text "size_num", .int 10), (.text "weight", .null)]

/-- Normal mode stops at the first rule map of the sample, and strict mode finds a name that breaks
the convention and an argument without a rule. -/
theorem Engine.strict_eq_spelledOut_sample :
    (Engine.default.evaluate (.map Sample.muddled) (.map Sample.measured)).answer =
        .error (.fault (.noItems "int")) ∧
      ((Engine.default.inMode .strict).evaluate (.map Sample.muddled)
        (.map Sample.measured)).answer.toOption.map (argNames ·.violations) =
          some ["colour", "weight"] ∧
      ((Engine.default.inMode .strict).evaluate (.map Sample.muddled)
          (.map Sample.measured)).answer =
        ((Engine.default.inMode .normal).evaluate (.map Sample.spelledOut)
          (.map Sample.measured)).answer ∧
      (Engine.default.inMode .strict).evaluate (.map Sample.spelledOut) (.map Sample.measured) =
        (Engine.default.inMode .strict).evaluate (.map Sample.muddled) (.map Sample.measured) := by
  have hspells : SpellsOutStrict Sample.spelledOut Sample.muddled :=
    ⟨(List.Perm.swap ..).trans ((List.Perm.swap ..).cons _), rfl⟩
  obtain ⟨hsame, hdirectives⟩ := @strict_eq_spelledOut Engine.default (.map Sample.muddled)
    (.map Sample.measured) _ _ (.map Sample.spelledOut) _ rfl rfl rfl hspells
  exact ⟨rfl, by decide +kernel, hsame, hdirectives _ _ rfl hspells.rules⟩

end ArgRules
