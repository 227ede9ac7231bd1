import ArgRules.Proofs.Account

/-!
# Which argument maps pass

A result has passed if it has no violations. Here it is stated outright which argument maps these
are: every entry that is judged passes, and no argument is left over. `Engine.Accepts` knows nothing
of verdicts, changes and the order of evaluation.

## What is demanded

An entry passes if it is a rule and the value of its argument meets it (`Engine.Meets`): a required
argument is there or has a default, its name follows the convention if names are checked, and a
value that is examined is admitted by the constraints of its kind (`Constraint.Admits`). Blank
values, which are the falsey values other than zero, cut across these: a rule may exempt them from
everything but being there, and no value of a blank kind is examined except a text where a text is
expected.

## Main definitions

* `Engine.Accepts` — an argument map passes under a rule map

## Main results

* `violationsOf_eq_nil_iff` — no judged entry has a violation exactly if all of them pass
* `Account.extra_eq_nil_iff` — nothing is reported as left over exactly if nothing is
* `Engine.passed_iff_accepts` — a result has passed exactly if the argument map is accepted
-/

namespace ArgRules

/-- An argument map passes under a rule map. -/
structure Engine.Accepts (engine : Engine) (rules args : Entries) : Prop where
  /-- Every entry that is judged is a rule, and the value of its argument meets it. -/
  passes : ∀ entry ∈ engine.judgedEntries rules, engine.Passes (engine.checksNames rules) entry.1
    entry.2 (Engine.argument args entry.1)
  /-- Unless arguments without a rule are allowed, no argument is left over. -/
  known : engine.allowsExtra rules = false →
    ∀ name ∈ args.named.keys, engine.leavesOver rules name = false

/-- A list of verdicts has no violation exactly if each entry passes. -/
theorem violationsOf_eq_nil_iff {engine : Engine} (hkinds : ∀ kind, kind ∈ engine.kinds)
    {checkNames : Bool} {args entries : Entries} {verdicts : Table Value Verdict}
    (h : List.Forall₂ (fun entry verdict => verdict.1 = entry.1 ∧
      Engine.Judged engine checkNames entry.1 entry.2 (Engine.argument args entry.1) verdict.2)
      entries verdicts) :
    violationsOf verdicts = [] ↔ ∀ entry ∈ entries,
      engine.Passes checkNames entry.1 entry.2 (Engine.argument args entry.1) := by
  induction h with
  | nil => simp [violationsOf]
  | @cons entry verdict entries verdicts head _ ih =>
    have hfirst := head.2.violation_eq_none_iff hkinds
    rw [List.forall_mem_cons, ← ih, ← hfirst, violationsOf, List.filterMap_cons]
    cases verdict.2.violation <;> simp [violationsOf]

/-- There are no violations of names that are left over exactly if there are no such names. -/
theorem Account.extra_eq_nil_iff {engine : Engine} {rules args : Entries}
    {verdicts : Table Value Verdict} {extra : List Violation} {result : CheckResult}
    (h : Account engine rules args verdicts extra result) (hargs : TextKeyed args) :
    extra = [] ↔ (engine.allowsExtra rules = false →
      ∀ name ∈ args.named.keys, engine.leavesOver rules name = false) := by
  have hnames : extra = [] ↔ argNames extra = [] := List.map_eq_nil_iff.symm
  rw [hnames, h.argNames_leftOver hargs]
  cases engine.allowsExtra rules with
  | true => simp
  | false =>
    rw [if_neg (by simp), List.filter_eq_nil_iff]
    simp only [Bool.not_eq_true, true_imp_iff]

/-- **A result has passed exactly if the argument map is accepted.** -/
theorem Engine.passed_iff_accepts {engine : Engine} {ruleMap argMap : Value}
    {rules args : Entries} {result : CheckResult} (hkinds : ∀ kind, kind ∈ engine.kinds)
    (hmode : engine.mode ≠ .off) (hruleMap : ruleMap.asMap? = some rules)
    (hargMap : argMap.asMap? = some args) (hrules : TextKeyed rules) (hargs : TextKeyed args)
    (h : (engine.evaluate ruleMap argMap).answer = .ok result) :
    result.passed = true ↔ engine.Accepts rules args := by
  obtain ⟨verdicts, extra, haccount⟩ :=
    exists_account_of_evaluate hmode hruleMap hargMap hrules hargs h
  rw [CheckResult.passed, List.isEmpty_iff, haccount.violations, List.append_eq_nil_iff,
    violationsOf_eq_nil_iff hkinds haccount.judged, haccount.extra_eq_nil_iff hargs]
  exact ⟨fun ⟨hpasses, hknown⟩ => ⟨hpasses, hknown⟩, fun h => ⟨h.passes, h.known⟩⟩

/-- The sample is not accepted; with a shape and without the weight it is. -/
theorem Engine.accepts_sample : ¬ Engine.default.Accepts Sample.rules Sample.args ∧
    Engine.default.Accepts Sample.rules [(.text "size", .int 10), (.text "shape", .bool true)] := by
  have hkinds : ∀ kind, kind ∈ Engine.default.kinds := fun kind => by cases kind <;> decide
  constructor
  · intro haccepts
    have hpassed := (passed_iff_accepts hkinds (by decide) rfl rfl Sample.textKeyed_rules
      Sample.textKeyed_args Sample.evaluate_eq).mpr haccepts
    exact absurd hpassed (by decide)
  · have hresult : (Engine.default.evaluate (.map Sample.rules)
        (.map [(.text "size", .int 10), (.text "shape", .bool true)])).answer =
        .ok ⟨[("size", .int 6), ("shape", .bool true), ("colour", .text "red")],
          [("size", ⟨.clamp, .int 10, .int 6⟩), ("colour", ⟨.default, .undefined, .text "red"⟩)],
          []⟩ := by
      rfl
    exact (passed_iff_accepts hkinds (by decide) rfl rfl Sample.textKeyed_rules
      ⟨by simp [Value.asText?], by decide⟩ hresult).mp rfl

end ArgRules
