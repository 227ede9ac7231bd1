import ArgRules.Call
import ArgRules.Proofs.Filing
import ArgRules.Proofs.Pass

/-!
# Assessments

An evaluation of two maps with texts as keys first finds out what there is to say, and then says it.
What there is to say is the assessment: the verdicts on the entries that are judged, and the
violations of the arguments that are left over. The rest is bookkeeping that cannot fail, since maps
with texts as keys can always be filed.

So two calls with the same assessment stop for the same reason or give results that differ only in
what was in the two argument maps before.

## Main definitions

* `Engine.assess` — the assessment of two maps
* `CheckResult.ofVerdicts` — the result that an assessment describes

## Main results

* `Engine.evaluate_eq_ok`, `Engine.evaluateFiled_answer` — for any keys, a result is an evaluation
  that is filed
* `Engine.evaluateFiled_eq_assess` — for texts as keys, the outcome is what the assessment says
-/

namespace ArgRules

/-- The result that verdicts and further violations describe. -/
def CheckResult.ofVerdicts (args : Entries) (verdicts : List (Value × Verdict))
    (extra : List Violation) : CheckResult where
  args := args.named.putAll (writesOf (changesOf verdicts)).named
  changes := (changesOf verdicts).named
  violations := violationsOf verdicts ++ extra

/-- The names of changes are among those of the verdicts, in the same order. -/
theorem keys_changesOf_sublist (verdicts : List (Value × Verdict)) :
    (changesOf verdicts).keys.Sublist (Table.keys verdicts) := by
  induction verdicts with
  | nil => exact .slnil
  | cons entry rest ih =>
    obtain ⟨name, change, violation⟩ := entry
    cases change with
    | none => exact ih.cons _
    | some change => exact ih.cons_cons _

theorem TextKeyed.changesOf {verdicts : Table Value Verdict} (h : TextKeyed verdicts) :
    TextKeyed (changesOf verdicts) :=
  h.of_keys_sublist (keys_changesOf_sublist verdicts)

theorem TextKeyed.writesOf {changes : Table Value Change} (h : TextKeyed changes) :
    TextKeyed (writesOf changes) :=
  h.of_keys_sublist (by rw [ArgRules.writesOf, Table.keys_map_snd])

/-- The names of changes, as texts, are among those of the verdicts. -/
theorem keys_named_changesOf_sublist (verdicts : Table Value Verdict) :
    (changesOf verdicts).named.keys.Sublist verdicts.named.keys := by
  rw [Table.keys_named, Table.keys_named]
  exact (keys_changesOf_sublist verdicts).filterMap _

/-- The names that changes write to are their own. -/
theorem keys_named_writesOf (changes : Table Value Change) :
    (writesOf changes).named.keys = changes.named.keys := by
  rw [Table.keys_named, Table.keys_named, writesOf, Table.keys_map_snd]

/-- An argument on whose name there is no verdict is left as it is. -/
theorem CheckResult.get?_ofVerdicts_of_not_mem {args : Entries} {verdicts : Table Value Verdict}
    {extra : List Violation} {name : String} (hverdicts : TextKeyed verdicts)
    (h : name ∉ verdicts.named.keys) :
    (ofVerdicts args verdicts extra).args.get? name = args.named.get? name := by
  have hfree : (writesOf (changesOf verdicts)).named.get? name = none :=
    Table.get?_eq_none_iff.mpr fun hmem =>
      h ((keys_named_changesOf_sublist verdicts).subset (keys_named_writesOf _ ▸ hmem))
  rw [ofVerdicts, Table.get?_putAll hverdicts.changesOf.writesOf.distinct, hfree, Option.none_or]

/-- Verdicts on texts can be filed. -/
theorem CheckResult.ofEvaluation_ofVerdicts {args : Entries} {verdicts : Table Value Verdict}
    (hargs : TextKeyed args) (hverdicts : TextKeyed verdicts) (extra : List Violation) :
    ofEvaluation (.ofVerdicts args verdicts extra) = .ok (.ofVerdicts args verdicts extra) := by
  have hwritten := hverdicts.changesOf.writesOf.isText
  have hargs' := hargs.putAll hwritten
  have hchanges := TextKeyed.nil.putAll hverdicts.changesOf.isText
  rw [ofEvaluation_eq_ok]
  refine ⟨⟨fun key hkey => ?_, fun key hkey => ?_⟩, ?_⟩
  · obtain ⟨name, hname⟩ := hargs'.isText key hkey
    exact ⟨name, Reading.text_of_asText? hname⟩
  · obtain ⟨name, hname⟩ := hchanges.isText key hkey
    exact ⟨name, Reading.text_of_asText? hname⟩
  · have hfiled : Table.ofList (args.putAll (writesOf (changesOf verdicts))).filed =
        args.named.putAll (writesOf (changesOf verdicts)).named := by
      rw [hargs'.filed_eq, Table.ofList_eq_self hargs'.distinct, Table.named_putAll hwritten]
    have hledger : Table.ofList (Table.putAll [] (changesOf verdicts)).filed =
        (changesOf verdicts).named := by
      rw [hchanges.filed_eq, Table.ofList_eq_self hchanges.distinct,
        Table.named_putAll hverdicts.changesOf.isText, Table.named_nil]
      exact Table.ofList_eq_self hverdicts.changesOf.distinct
    change ofVerdicts args verdicts extra = CheckResult.mk
      (Table.ofList (args.putAll (writesOf (changesOf verdicts))).filed)
      (Table.ofList (Table.putAll [] (changesOf verdicts)).filed) (violationsOf verdicts ++ extra)
    rw [hfiled, hledger]
    rfl

namespace Engine

variable {engine : Engine} {ruleMap argMap : Value} {rules args : Entries} {result : CheckResult}

/-! ### Results and evaluations -/

theorem evaluate_eq_evaluateFiled (hmode : engine.mode ≠ .off)
    (hruleMap : ruleMap.asMap? = some rules) (hargMap : argMap.asMap? = some args) :
    engine.evaluate ruleMap argMap = engine.evaluateFiled rules args := by
  rw [evaluate, if_neg hmode, hruleMap, hargMap]

/-- The answer for two maps is that of an evaluation, filed. -/
theorem evaluateFiled_answer : (engine.evaluateFiled rules args).answer =
    (engine.evaluateMaps rules args >>= CheckResult.ofEvaluation).mapError Stop.fault := by
  rw [evaluateFiled]
  cases engine.evaluateMaps rules args with
  | error fault => rfl
  | ok evaluation =>
    simp only [bind, Except.bind]
    cases CheckResult.ofEvaluation evaluation <;> rfl

/-- The result for two maps comes from an evaluation that is filed. -/
theorem evaluate_eq_ok (hmode : engine.mode ≠ .off) (hruleMap : ruleMap.asMap? = some rules)
    (hargMap : argMap.asMap? = some args) :
    (engine.evaluate ruleMap argMap).answer = .ok result ↔
      ∃ evaluation, engine.evaluateMaps rules args = .ok evaluation ∧
        CheckResult.ofEvaluation evaluation = .ok result := by
  rw [evaluate_eq_evaluateFiled hmode hruleMap hargMap, evaluateFiled_answer, ← bind_eq_ok]
  cases engine.evaluateMaps rules args >>= CheckResult.ofEvaluation <;> simp [Except.mapError]

/-! ### The assessment -/

/-- The assessment of two maps: the verdicts on the entries that are judged, and the violations of
the arguments that are left over. -/
def assess (engine : Engine) (rules args : Entries) :
    Except Fault (Table Value Verdict × List Violation) := do
  let policy ← Policy.ofMode engine.mode rules
  let verdicts ← engine.judgeAll policy.checkNames args (policy.judged rules)
  let extra ← if ← policy.allowExtra then pure [] else unexpectedAll (policy.unclaimed rules args)
  return (verdicts, extra)

/-- What an assessment is made of. -/
theorem assess_eq_ok {verdicts : Table Value Verdict} {extra : List Violation} :
    engine.assess rules args = .ok (verdicts, extra) ↔
      ∃ policy, Policy.ofMode engine.mode rules = .ok policy ∧
        engine.judgeAll policy.checkNames args (policy.judged rules) = .ok verdicts ∧
        ∃ allow, policy.allowExtra = .ok allow ∧
          unexpectedAll (if allow = true then [] else policy.unclaimed rules args) = .ok extra := by
  simp only [assess, bind_eq_ok, ite_unexpectedAll_eq_ok, pure_eq_ok]
  constructor
  · rintro ⟨policy, hpolicy, _, hverdicts, allow, hallow, _, hextra, h⟩
    obtain ⟨rfl, rfl⟩ := Prod.mk.inj h
    exact ⟨policy, hpolicy, hverdicts, allow, hallow, hextra⟩
  · rintro ⟨policy, hpolicy, hverdicts, allow, hallow, hextra⟩
    exact ⟨policy, hpolicy, verdicts, hverdicts, allow, hallow, extra, hextra, rfl⟩

theorem textKeyed_of_assess (hrules : TextKeyed rules) {verdicts : Table Value Verdict}
    {extra : List Violation} (h : engine.assess rules args = .ok (verdicts, extra)) :
    TextKeyed verdicts := by
  obtain ⟨policy, -, hverdicts, -⟩ := assess_eq_ok.mp h
  refine hrules.of_keys_sublist ?_
  rw [keys_of_judgeAll hverdicts]
  exact List.filter_sublist.map _

/-- For texts as keys, an evaluation is what the assessment says. -/
theorem evaluateMaps_eq_assess (hrules : TextKeyed rules) : engine.evaluateMaps rules args =
    (engine.assess rules args).map fun found => Evaluation.ofVerdicts args found.1 found.2 := by
  rw [evaluateMaps, assess]
  cases Policy.ofMode engine.mode rules with
  | error fault => rfl
  | ok policy =>
    change engine.evaluateUnder policy rules args = _
    rw [evaluateUnder_eq hrules]
    simp only [bind, Except.bind]
    cases engine.judgeAll policy.checkNames args (policy.judged rules) with
    | error fault => rfl
    | ok verdicts =>
      cases policy.allowExtra with
      | error fault => rfl
      | ok allow =>
        cases allow with
        | true => rfl
        | false =>
          simp only [Bool.false_eq_true, if_false]
          cases unexpectedAll (policy.unclaimed rules args) <;> rfl

/-- **For texts as keys, the outcome is what the assessment says.** -/
theorem evaluateFiled_eq_assess (hrules : TextKeyed rules) (hargs : TextKeyed args) :
    engine.evaluateFiled rules args =
      match engine.assess rules args with
      | .error fault => ⟨.error (.fault fault), []⟩
      | .ok (verdicts, extra) => ⟨.ok (.ofVerdicts args verdicts extra),
          [engine.completion (.ofVerdicts args verdicts extra)]⟩ := by
  rw [evaluateFiled, evaluateMaps_eq_assess hrules]
  cases hassess : engine.assess rules args with
  | error fault => rfl
  | ok found =>
    obtain ⟨verdicts, extra⟩ := found
    simp only [Except.map]
    rw [CheckResult.ofEvaluation_ofVerdicts hargs (textKeyed_of_assess hrules hassess)]

/-- The results for two maps with texts as keys are those that assessments describe. -/
theorem evaluate_eq_ok_iff_assess (hmode : engine.mode ≠ .off)
    (hruleMap : ruleMap.asMap? = some rules) (hargMap : argMap.asMap? = some args)
    (hrules : TextKeyed rules) (hargs : TextKeyed args) :
    (engine.evaluate ruleMap argMap).answer = .ok result ↔
      ∃ verdicts extra, engine.assess rules args = .ok (verdicts, extra) ∧
        CheckResult.ofVerdicts args verdicts extra = result := by
  rw [evaluate_eq_evaluateFiled hmode hruleMap hargMap, evaluateFiled_eq_assess hrules hargs]
  cases engine.assess rules args with
  | error fault => simp
  | ok found =>
    obtain ⟨verdicts, extra⟩ := found
    simp

end Engine

end ArgRules
