import ArgRules.Proofs.Clamping
import ArgRules.Proofs.Ledger

/-!
# No accepted number is outside its limits

When an evaluation has passed, the number of a required argument is not below the lower limit of its
rule, and it is not above the upper one. Whether the rule moves numbers and whether it exempts
falsey values makes no difference: zero is not exempt, and a number that is moved ends within.

## Limits in the wrong order

There is one exception. A rule may have a lower limit above its upper one, and no number is within
such limits. Where the rule moves numbers, the lower limit is checked last and against what the
upper one has left, so every number ends at the lower limit (`Number.clamped_of_crossed`), and it is
accepted there.

## Main results

* `Engine.withinLimits_of_passed` — no accepted number is outside its limits, but for limits in the
  wrong order
* `Engine.outsideLimits_sample` — limits in the wrong order
-/

namespace ArgRules

namespace Engine

variable {engine : Engine} {ruleMap argMap : Value} {rules args : Entries} {result : CheckResult}

/-- **No accepted number is outside its limits.** The number that is left of the argument is not
below the lower limit, and above the upper one it can only be where the rule moves numbers and has
its limits in the wrong order; then it is the lower limit. -/
theorem withinLimits_of_passed (hmode : engine.mode ≠ .off) (hruleMap : ruleMap.asMap? = some rules)
    (hargMap : argMap.asMap? = some args) (hrules : TextKeyed rules) (hargs : TextKeyed args)
    (h : (engine.evaluate ruleMap argMap).answer = .ok result) (hpassed : result.passed = true)
    {name : String} {entry : Value} {rule : Rule} {n : Number}
    (hjudges : engine.judges rules name = true) (hentry : rules.get? (.text name) = some entry)
    (hparsed : Rule.ofEntry entry = .ok (.ok rule)) (hrequired : rule.frame.isOptional = false)
    (hgiven : argument args (.text name) = .number n) (hnan : n.isNan = false) :
    ∃ m, result.args.get? name = some (.number m) ∧
      (∀ low ∈ rule.frame.constraint.lower, m.fallsBelow low = false) ∧
      ∀ high ∈ rule.frame.constraint.upper, m.exceeds high = false ∨
        rule.frame.constraint.moves = true ∧
          ∃ low ∈ rule.frame.constraint.lower, low.exceeds high = true ∧ m = low := by
  obtain ⟨verdicts, extra, haccount⟩ :=
    exists_account_of_evaluate hmode hruleMap hargMap hrules hargs h
  rw [CheckResult.passed, List.isEmpty_iff] at hpassed
  obtain ⟨key, -, hjudged⟩ := haccount.exists_judged_of_passed hrules hpassed hjudges hentry
  rw [hgiven] at hjudged
  obtain ⟨hleft, hbounds⟩ := hjudged.number_eq_clamped hparsed hrequired hnan rfl
  obtain ⟨hlower, hupper⟩ :=
    Number.clamped_spec rule.frame.constraint.lower rule.frame.constraint.upper n
  refine ⟨_, ?_, hlower, fun high hhigh => ?_⟩
  · have hthere : args.get? (.text name) = some (.number n) := by
      cases hfound : args.get? (.text name) with
      | none => simp [argument, hfound] at hgiven
      | some value =>
        rw [argument, hfound, Option.getD_some] at hgiven
        rw [hgiven]
    rw [haccount.get?_args hrules, Table.get?_named_text, hthere, ← hleft]
    cases result.changes.get? name <;> rfl
  · cases hmoves : rule.frame.constraint.moves with
    | true => exact (hupper high hhigh).imp_right fun hlow => ⟨rfl, hlow⟩
    | false =>
      have hwithin := hbounds hmoves
      rw [Number.clamped_of_within hwithin]
      exact Or.inl (hwithin.1 high hhigh)

/-- In the sample, without the weight and with a shape, the size is moved to its limit. -/
theorem withinLimits_of_sample :
    ∃ result, (Engine.default.evaluate (.map Sample.rules)
        (.map [(.text "size", .int 10), (.text "shape", .bool true)])).answer = .ok result ∧
      ∃ m, result.args.get? "size" = some (.number m) ∧ m.exceeds (.int 6) = false := by
  have hpassed : (Engine.default.evaluate (.map Sample.rules)
      (.map [(.text "size", .int 10), (.text "shape", .bool true)])).answer.toOption.map
        (·.passed) = some true := by
    decide +kernel
  obtain ⟨result, hresult, hpassed⟩ := exists_of_toOption_map hpassed
  have hjudges : Engine.default.judges Sample.rules "size" = true := rfl
  obtain ⟨m, hm, -, hupper⟩ := withinLimits_of_passed (by decide) rfl rfl Sample.textKeyed_rules
    ⟨by simp [Value.asText?], by decide⟩ hresult hpassed hjudges rfl rfl rfl rfl rfl
  refine ⟨result, hresult, m, hm, (hupper (.int 6) rfl).resolve_right ?_⟩
  rintro ⟨-, low, hlow, -⟩
  exact absurd hlow (by simp [Constraint.lower])

end Engine

/-- A rule with its limits in the wrong order. -/
def Sample.crossed : Entries :=
  [(.text "size", .map [(.text "kind", .text "number"), (.text "min_num", .int 7),
    (.text "max_num", .int 5), (.text "autobound", .bool true)])]

/-- A number is accepted above its upper limit, where the lower one is still higher. -/
theorem Engine.outsideLimits_sample :
    ∃ result entry rule m, (Engine.default.evaluate (.map Sample.crossed)
        (.map [(.text "size", .int 6)])).answer = .ok result ∧
      result.passed = true ∧ Engine.default.judges Sample.crossed "size" = true ∧
      Sample.crossed.get? (.text "size") = some entry ∧ Rule.ofEntry entry = .ok (.ok rule) ∧
      rule.frame.isOptional = false ∧ rule.frame.constraint.upper = some (.int 5) ∧
      result.args.get? "size" = some (.number m) ∧ m.exceeds (.int 5) = true :=
  ⟨⟨[("size", .int 7)], [("size", ⟨.clamp, .int 6, .int 7⟩)], []⟩, _, _, .int 7, rfl, rfl, rfl, rfl,
    rfl, rfl, rfl, rfl, rfl⟩

end ArgRules
