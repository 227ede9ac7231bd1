import ArgRules.Proofs.Directives
import ArgRules.Proofs.EntryPoints

/-!
# Rules do not interfere

Where arguments without a rule are allowed, a rule map is as good as its parts. Its rules can be
distributed over two rule maps with the same directives, and what the two find out is together what
the whole finds out. One of them can also be given the arguments that the other one leaves. The
order of the rules matters for the order in which violations and changes are listed, and for nothing
else.

## Why this is so

An assessment judges every entry by itself, with what the caller's map has under its name. So the
verdicts on several entries are those on some of them and those on the others, in whatever order the
entries come. A change is written at the name of its rule, and the names of a rule map are different
ones. So the parts of a rule map write to different arguments, and neither of them reads what the
other one writes.

## Main definitions

* `Splits` — the rules of a rule map are distributed over two rule maps
* `Outcome.Returns` — a call comes to a result
* `CheckResult.Unites` — a result has what two results have
* `CheckResult.Rearranges` — a result has what another one has, in another order

## Main results

* `CheckResult.ofVerdicts_unites`, `CheckResult.ofVerdicts_rearranges` — verdicts in parts, and in
  another order
* `Engine.assess_of_perm` — rules in another order have the same assessment, in that order
* `Engine.assess_of_splits`, `Engine.exists_assess_of_splits` — the assessments of the parts make
  that of the whole
* `Engine.evaluate_splits` — rules do not interfere
-/

namespace ArgRules

/-! ### Parts of a rule map -/

/-- The rules of a rule map are distributed over two rule maps, each with the same directives. -/
structure Splits (rules first second : Entries) : Prop where
  firstDirectives : (Directive.among first).Perm (Directive.among rules)
  secondDirectives : (Directive.among second).Perm (Directive.among rules)
  parts : (Directive.without first ++ Directive.without second).Perm (Directive.without rules)

namespace Splits

variable {rules first second : Entries}

theorem symm (h : Splits rules first second) : Splits rules second first :=
  ⟨h.secondDirectives, h.firstDirectives, List.perm_append_comm.trans h.parts⟩

/-- The keys of a part are texts, each another one. -/
theorem textKeyed (h : Splits rules first second) (hrules : TextKeyed rules) : TextKeyed first := by
  have hwhole : TextKeyed
      (Directive.among rules ++ (Directive.without first ++ Directive.without second)) :=
    hrules.of_keys_perm
      (((h.parts.append_left _).trans (Directive.among_append_without rules)).map _)
  have hpart : TextKeyed (Directive.among rules ++ Directive.without first) :=
    hwhole.of_keys_sublist (((List.sublist_append_left _ _).append_left _).map _)
  exact hpart.of_keys_perm
    (((Directive.among_append_without first).symm.trans (h.firstDirectives.append_right _)).map _)

end Splits

/-! ### Results in parts, and in another order -/

/-- A call comes to a result. -/
def Outcome.Returns {α : Type} (outcome : Outcome α) : Prop := ∃ a, outcome.answer = .ok a

namespace CheckResult

/-- A result has what two results have: their violations, in some order, and their changes, which
are changes of different arguments. -/
structure Unites (result first second : CheckResult) : Prop where
  violations : result.violations.Perm (first.violations ++ second.violations)
  changes : result.changes.Perm (first.changes ++ second.changes)
  disjoint : first.changes.keys.Disjoint second.changes.keys

/-- A result has what another one has: it passes if the other one does, and it has the same
arguments and the same changes, in some order. -/
structure Rearranges (result other : CheckResult) : Prop where
  passed : result.passed = other.passed
  args : result.args.Perm other.args
  changes : result.changes.Perm other.changes

variable {args : Entries} {verdicts own others : Table Value Verdict} {extra : List Violation}

/-- The writes of verdicts in another order lead to the same arguments. -/
theorem args_perm_of_perm (hargs : TextKeyed args) (hothers : TextKeyed others)
    (hperm : verdicts.Perm others) :
    (args.named.putAll (writesOf (changesOf verdicts)).named).Perm
      (args.named.putAll (writesOf (changesOf others)).named) :=
  Table.putAll_perm (((hperm.filterMap _).map _).filterMap _)
    hothers.changesOf.writesOf.distinct hargs.distinct

/-- Verdicts in another order describe the same result, in another order. -/
theorem ofVerdicts_rearranges (hargs : TextKeyed args) (hothers : TextKeyed others)
    (hperm : verdicts.Perm others) (extra : List Violation) :
    (ofVerdicts args verdicts extra).Rearranges (ofVerdicts args others extra) where
  passed := ((hperm.filterMap _).append_right extra).isEmpty_eq
  args := args_perm_of_perm hargs hothers hperm
  changes := (hperm.filterMap _).filterMap _

/-- Verdicts in two parts describe two results that make one. -/
theorem ofVerdicts_unites (hverdicts : TextKeyed verdicts) (hperm : verdicts.Perm (own ++ others)) :
    (ofVerdicts args verdicts []).Unites (ofVerdicts args own []) (ofVerdicts args others []) := by
  refine ⟨?_, ?_, ?_⟩
  · simpa [ofVerdicts, violationsOf] using hperm.filterMap (·.2.violation)
  · simpa [ofVerdicts, changesOf, Table.named] using (hperm.filterMap _).filterMap _
  · have hparts := (hverdicts.of_keys_perm (hperm.symm.map _)).disjoint_of_append
    exact fun name hown hother => hparts ((keys_named_changesOf_sublist own).subset hown)
      ((keys_named_changesOf_sublist others).subset hother)

/-- Two lists of verdicts one after the other write as one. -/
theorem args_ofVerdicts_append (args : Entries) (own others : Table Value Verdict) :
    (ofVerdicts (ofVerdicts args own []).args.texts others []).args =
      args.named.putAll (writesOf (changesOf (own ++ others))).named := by
  have hwrites : (writesOf (changesOf (own ++ others))).named =
      (writesOf (changesOf own)).named ++ (writesOf (changesOf others)).named := by
    simp [changesOf, writesOf, Table.named]
  rw [ofVerdicts, ofVerdicts, Table.named_texts, hwrites, Table.putAll_append]

/-- What is written at other names is not read. -/
theorem argument_ofVerdicts {args : Entries} (hown : TextKeyed own) {key : Value} {name : String}
    (hname : key.asText? = some name) (h : name ∉ own.named.keys) :
    Engine.argument (ofVerdicts args own extra).args.texts key = Engine.argument args key := by
  rw [Engine.argument, Engine.argument, ← Table.get?_named hname, ← Table.get?_named hname,
    Table.named_texts, get?_ofVerdicts_of_not_mem hown h]

end CheckResult

/-! ### Assessments in another order -/

namespace Engine

variable {engine : Engine} {rules given first second args : Entries}
  {verdicts own others : Table Value Verdict} {extra : List Violation}

/-- **Rules in another order have the same assessment,** with the verdicts in that order. -/
theorem assess_of_perm (hrules : TextKeyed rules) (hperm : given.Perm rules)
    (h : engine.assess rules args = .ok (verdicts, extra)) :
    ∃ same, engine.assess given args = .ok (same, extra) ∧ same.Perm verdicts := by
  obtain ⟨policy, hpolicy, hverdicts, allow, hallow, hextra⟩ := assess_eq_ok.mp h
  rw [← Policy.ofMode_of_perm hrules (hperm.filter _)] at hpolicy
  have hjudged : (policy.judged given).Perm (policy.judged rules) := hperm.filter _
  have hkeys : (policy.judged given).keys.Perm (policy.judged rules).keys := hjudged.map _
  have hleft : policy.unclaimed given args = policy.unclaimed rules args :=
    List.filter_congr fun key _ => by rw [hkeys.any_eq]
  obtain ⟨same, hsame, hsamePerm⟩ := judgeAll_perm hjudged.symm hverdicts
  rw [← hleft] at hextra
  exact ⟨same, assess_eq_ok.mpr ⟨policy, hpolicy, hsame, allow, hallow, hextra⟩, hsamePerm.symm⟩

/-! ### Assessments in parts -/

/-- Where arguments without a rule are allowed, an assessment is its verdicts. -/
theorem assess_eq_ok_of_allowed (hnormal : engine.mode = .normal)
    (hallows : (Directive.value rules Directive.allowExtraKeys).truth = .ok true) :
    engine.assess rules args = .ok (verdicts, extra) ↔
      extra = [] ∧ ∃ policy, Policy.ofMode engine.mode rules = .ok policy ∧
        engine.judgeAll policy.checkNames args (policy.judged rules) = .ok verdicts := by
  have hallowed {policy : Policy} (h : Policy.ofMode engine.mode rules = .ok policy) :
      policy.allowExtra = .ok true := by
    rw [hnormal] at h
    obtain ⟨_, _, h⟩ := bind_eq_ok.mp h
    obtain ⟨_, _, h⟩ := bind_eq_ok.mp h
    rw [← pure_eq_ok.mp h]
    exact hallows
  rw [assess_eq_ok]
  constructor
  · rintro ⟨policy, hpolicy, hverdicts, allow, hallow, hextra⟩
    obtain rfl := Except.ok.inj (hallow.symm.trans (hallowed hpolicy))
    exact ⟨(pure_eq_ok.mp hextra).symm, policy, hpolicy, hverdicts⟩
  · rintro ⟨rfl, policy, hpolicy, hverdicts⟩
    exact ⟨policy, hpolicy, hverdicts, true, hallowed hpolicy, rfl⟩

end Engine

namespace Splits

variable {engine : Engine} {rules first second args : Entries}

/-- A part has the policy of the whole. -/
theorem ofMode_eq (h : Splits rules first second) (hrules : TextKeyed rules) (mode : Mode) :
    Policy.ofMode mode first = Policy.ofMode mode rules :=
  Policy.ofMode_of_perm hrules h.firstDirectives

/-- A part allows arguments without a rule if the whole does. -/
theorem allows (h : Splits rules first second) (hrules : TextKeyed rules)
    (hallows : (Directive.value rules Directive.allowExtraKeys).truth = .ok true) :
    (Directive.value first Directive.allowExtraKeys).truth = .ok true := by
  have hsame : first.get? Directive.allowExtraKeys = rules.get? Directive.allowExtraKeys :=
    Directive.get?_of_perm (hrules.of_keys_sublist (List.filter_sublist.map _)) h.firstDirectives
      (by decide)
  rwa [Directive.value, hsame]

/-- The entries that are judged are those of the parts. -/
theorem judged_perm (h : Splits rules first second) (policy : Policy) :
    (policy.judged first ++ policy.judged second).Perm (policy.judged rules) := by
  rw [policy.judged_eq_filter, policy.judged_eq_filter, policy.judged_eq_filter,
    ← List.filter_append]
  exact h.parts.filter _

end Splits

namespace Engine

variable {engine : Engine} {rules first second args : Entries}
  {verdicts own others : Table Value Verdict} {extra left : List Violation}

/-- **The assessment of a whole is made of those of its parts,** in order if the rules are. -/
theorem assess_of_splits (hnormal : engine.mode = .normal) (hrules : TextKeyed rules)
    (hallows : (Directive.value rules Directive.allowExtraKeys).truth = .ok true)
    (hsplits : Splits rules first second)
    (h : engine.assess rules args = .ok (verdicts, extra)) :
    extra = [] ∧ ∃ own others, engine.assess first args = .ok (own, []) ∧
      engine.assess second args = .ok (others, []) ∧ verdicts.Perm (own ++ others) ∧
      (Directive.without rules = Directive.without first ++ Directive.without second →
        verdicts = own ++ others) := by
  obtain ⟨rfl, policy, hpolicy, hverdicts⟩ := (assess_eq_ok_of_allowed hnormal hallows).mp h
  -- The entries of both parts, one after the other, are those of the whole in another order.
  obtain ⟨both, hboth, hperm⟩ := judgeAll_perm (hsplits.judged_perm policy).symm hverdicts
  obtain ⟨own, others, hown, hothers, rfl⟩ := judgeAll_append_eq_ok.mp hboth
  refine ⟨rfl, own, others, ?_, ?_, hperm, fun hordered => ?_⟩
  · rw [assess_eq_ok_of_allowed hnormal (hsplits.allows hrules hallows)]
    exact ⟨rfl, policy, (hsplits.ofMode_eq hrules _).trans hpolicy, hown⟩
  · rw [assess_eq_ok_of_allowed hnormal (hsplits.symm.allows hrules hallows)]
    exact ⟨rfl, policy, (hsplits.symm.ofMode_eq hrules _).trans hpolicy, hothers⟩
  · rw [policy.judged_eq_filter, hordered, List.filter_append, ← policy.judged_eq_filter,
      ← policy.judged_eq_filter, hboth] at hverdicts
    exact (Except.ok.inj hverdicts).symm

/-- Assessments of the parts make an assessment of the whole. -/
theorem exists_assess_of_splits (hnormal : engine.mode = .normal) (hrules : TextKeyed rules)
    (hallows : (Directive.value rules Directive.allowExtraKeys).truth = .ok true)
    (hsplits : Splits rules first second) (hfirst : engine.assess first args = .ok (own, extra))
    (hsecond : engine.assess second args = .ok (others, left)) :
    ∃ verdicts, engine.assess rules args = .ok (verdicts, []) := by
  rw [assess_eq_ok_of_allowed hnormal (hsplits.allows hrules hallows)] at hfirst
  rw [assess_eq_ok_of_allowed hnormal (hsplits.symm.allows hrules hallows)] at hsecond
  obtain ⟨-, policy, hpolicy, hown⟩ := hfirst
  obtain ⟨-, same, hsame, hothers⟩ := hsecond
  rw [hsplits.ofMode_eq hrules] at hpolicy
  rw [hsplits.symm.ofMode_eq hrules] at hsame
  obtain rfl := Except.ok.inj (hpolicy.symm.trans hsame)
  obtain ⟨verdicts, hverdicts, -⟩ := judgeAll_perm (hsplits.judged_perm policy)
    (judgeAll_append_eq_ok.mpr ⟨own, others, hown, hothers, rfl⟩)
  exact ⟨verdicts, (assess_eq_ok_of_allowed hnormal hallows).mpr ⟨rfl, policy, hpolicy, hverdicts⟩⟩

/-- Of the arguments that one part leaves, the other one has the same assessment. -/
theorem assess_after (hnormal : engine.mode = .normal)
    (hallows : (Directive.value second Directive.allowExtraKeys).truth = .ok true)
    (hboth : TextKeyed (own ++ others))
    (h : engine.assess second args = .ok (others, [])) :
    engine.assess second (CheckResult.ofVerdicts args own extra).args.texts = .ok (others, []) := by
  rw [assess_eq_ok_of_allowed hnormal hallows] at h ⊢
  obtain ⟨-, policy, hpolicy, hothers⟩ := h
  refine ⟨rfl, policy, hpolicy, ?_⟩
  -- What the first part wrote is at names of its own verdicts, and those are others.
  have hunread : ∀ key ∈ (policy.judged second).keys,
      argument (CheckResult.ofVerdicts args own extra).args.texts key = argument args key := by
    intro key hkey
    rw [← keys_of_judgeAll hothers] at hkey
    obtain ⟨name, hname⟩ := hboth.isText key (by simp [hkey])
    have hmem : name ∈ others.named.keys := by
      rw [Table.keys_named]
      exact List.mem_filterMap.mpr ⟨key, hkey, hname⟩
    have hown : TextKeyed own := hboth.of_keys_sublist ((List.sublist_append_left ..).map _)
    exact CheckResult.argument_ofVerdicts hown hname (hboth.disjoint_of_append · hmem)
  rw [judgeAll_congr hunread]
  exact hothers

/-! ### Calls in parts, and in another order -/

variable {ruleMap firstMap secondMap otherMap argMap : Value} {given : Entries}

/-- A call comes to a result if there is an assessment. -/
theorem returns_iff_assess (hmode : engine.mode ≠ .off) (hruleMap : ruleMap.asMap? = some rules)
    (hargMap : argMap.asMap? = some args) (hrules : TextKeyed rules) (hargs : TextKeyed args) :
    (engine.evaluate ruleMap argMap).Returns ↔
      ∃ verdicts extra, engine.assess rules args = .ok (verdicts, extra) := by
  simp only [Outcome.Returns, evaluate_eq_ok_iff_assess hmode hruleMap hargMap hrules hargs]
  constructor
  · rintro ⟨_, verdicts, extra, h, -⟩
    exact ⟨verdicts, extra, h⟩
  · rintro ⟨verdicts, extra, h⟩
    exact ⟨_, verdicts, extra, h, rfl⟩

/-- **In another order, rules come to the same result,** in another order. -/
theorem evaluate_of_perm (hmode : engine.mode ≠ .off) (hruleMap : ruleMap.asMap? = some rules)
    (hotherMap : otherMap.asMap? = some given) (hargMap : argMap.asMap? = some args)
    (hrules : TextKeyed rules) (hargs : TextKeyed args) (hperm : given.Perm rules) :
    ((engine.evaluate otherMap argMap).Returns ↔ (engine.evaluate ruleMap argMap).Returns) ∧
      ∀ result same, (engine.evaluate ruleMap argMap).answer = .ok result →
        (engine.evaluate otherMap argMap).answer = .ok same → same.Rearranges result := by
  have hgiven : TextKeyed given := hrules.of_keys_perm (hperm.map _)
  constructor
  · rw [returns_iff_assess hmode hotherMap hargMap hgiven hargs,
      returns_iff_assess hmode hruleMap hargMap hrules hargs]
    constructor
    · rintro ⟨verdicts, extra, h⟩
      obtain ⟨same, hsame, -⟩ := assess_of_perm hgiven hperm.symm h
      exact ⟨same, extra, hsame⟩
    · rintro ⟨verdicts, extra, h⟩
      obtain ⟨same, hsame, -⟩ := assess_of_perm hrules hperm h
      exact ⟨same, extra, hsame⟩
  · intro result same hresult hsame
    rw [evaluate_eq_ok_iff_assess hmode hruleMap hargMap hrules hargs] at hresult
    rw [evaluate_eq_ok_iff_assess hmode hotherMap hargMap hgiven hargs] at hsame
    obtain ⟨verdicts, extra, hassess, rfl⟩ := hresult
    obtain ⟨others, left, hothers, rfl⟩ := hsame
    obtain ⟨found, hfound, hverdicts⟩ := assess_of_perm hrules hperm hassess
    obtain ⟨rfl, rfl⟩ := Prod.mk.inj (Except.ok.inj (hfound.symm.trans hothers))
    exact CheckResult.ofVerdicts_rearranges hargs (textKeyed_of_assess hrules hassess) hverdicts _

/-- The whole comes to a result if both of its parts do. -/
theorem returns_iff_of_splits (hnormal : engine.mode = .normal)
    (hruleMap : ruleMap.asMap? = some rules) (hfirstMap : firstMap.asMap? = some first)
    (hsecondMap : secondMap.asMap? = some second) (hargMap : argMap.asMap? = some args)
    (hrules : TextKeyed rules) (hargs : TextKeyed args)
    (hallows : (Directive.value rules Directive.allowExtraKeys).truth = .ok true)
    (hsplits : Splits rules first second) :
    (engine.evaluate ruleMap argMap).Returns ↔
      (engine.evaluate firstMap argMap).Returns ∧ (engine.evaluate secondMap argMap).Returns := by
  have hon : engine.mode ≠ .off := by simp [hnormal]
  rw [returns_iff_assess hon hruleMap hargMap hrules hargs,
    returns_iff_assess hon hfirstMap hargMap (hsplits.textKeyed hrules) hargs,
    returns_iff_assess hon hsecondMap hargMap (hsplits.symm.textKeyed hrules) hargs]
  constructor
  · rintro ⟨verdicts, extra, h⟩
    obtain ⟨-, own, others, hown, hothers, -⟩ := assess_of_splits hnormal hrules hallows hsplits h
    exact ⟨⟨own, [], hown⟩, others, [], hothers⟩
  · rintro ⟨⟨own, extra, hown⟩, others, left, hothers⟩
    obtain ⟨verdicts, h⟩ := exists_assess_of_splits hnormal hrules hallows hsplits hown hothers
    exact ⟨verdicts, [], h⟩

/-- The result of the whole is made of those of its parts. -/
theorem unites_of_splits (hnormal : engine.mode = .normal)
    (hruleMap : ruleMap.asMap? = some rules) (hfirstMap : firstMap.asMap? = some first)
    (hsecondMap : secondMap.asMap? = some second) (hargMap : argMap.asMap? = some args)
    (hrules : TextKeyed rules) (hargs : TextKeyed args)
    (hallows : (Directive.value rules Directive.allowExtraKeys).truth = .ok true)
    (hsplits : Splits rules first second) {result part rest : CheckResult}
    (hresult : (engine.evaluate ruleMap argMap).answer = .ok result)
    (hpart : (engine.evaluate firstMap argMap).answer = .ok part)
    (hrest : (engine.evaluate secondMap argMap).answer = .ok rest) :
    result.Unites part rest ∧
      (Directive.without rules = Directive.without first ++ Directive.without second →
        result.violations = part.violations ++ rest.violations) ∧
      ∃ last, (engine.evaluate secondMap part.argMap).answer = .ok last ∧
        last.args.Perm result.args := by
  have hon : engine.mode ≠ .off := by simp [hnormal]
  have hfirst := hsplits.textKeyed hrules
  have hsecond := hsplits.symm.textKeyed hrules
  rw [evaluate_eq_ok_iff_assess hon hruleMap hargMap hrules hargs] at hresult
  rw [evaluate_eq_ok_iff_assess hon hfirstMap hargMap hfirst hargs] at hpart
  rw [evaluate_eq_ok_iff_assess hon hsecondMap hargMap hsecond hargs] at hrest
  obtain ⟨verdicts, extra, hassess, rfl⟩ := hresult
  obtain ⟨_, _, hpart, rfl⟩ := hpart
  obtain ⟨_, _, hrest, rfl⟩ := hrest
  obtain ⟨rfl, own, others, hown, hothers, hperm, hordered⟩ :=
    assess_of_splits hnormal hrules hallows hsplits hassess
  obtain ⟨rfl, rfl⟩ := Prod.mk.inj (Except.ok.inj (hown.symm.trans hpart))
  obtain ⟨rfl, rfl⟩ := Prod.mk.inj (Except.ok.inj (hothers.symm.trans hrest))
  have hverdicts := textKeyed_of_assess hrules hassess
  have hboth : TextKeyed (own ++ others) := hverdicts.of_keys_perm (hperm.symm.map _)
  refine ⟨CheckResult.ofVerdicts_unites hverdicts hperm, fun hparts => ?_, ?_⟩
  · rw [hordered hparts]
    simp [CheckResult.ofVerdicts, violationsOf]
  · have hleft : TextKeyed (CheckResult.ofVerdicts args own []).args.texts :=
      Table.textKeyed_texts (Table.nodup_keys_putAll hargs.distinct _)
    have hafter : engine.assess second (CheckResult.ofVerdicts args own []).args.texts =
        .ok (others, []) :=
      assess_after hnormal (hsplits.symm.allows hrules hallows) hboth hothers
    refine ⟨_, (evaluate_eq_ok_iff_assess hon hsecondMap rfl hsecond hleft).mpr
      ⟨others, [], hafter, rfl⟩, ?_⟩
    rw [CheckResult.args_ofVerdicts_append]
    exact CheckResult.args_perm_of_perm hargs hverdicts hperm.symm

/-- **Rules do not interfere.** Where arguments without a rule are allowed, a rule map comes to a
result if two parts of it do. The result of the whole unites those of the parts, and one part can be
given the arguments that the other one leaves. In another order the rules have the same result, in
another order. -/
theorem evaluate_splits (hnormal : engine.mode = .normal) (hruleMap : ruleMap.asMap? = some rules)
    (hfirstMap : firstMap.asMap? = some first) (hsecondMap : secondMap.asMap? = some second)
    (hargMap : argMap.asMap? = some args) (hrules : TextKeyed rules) (hargs : TextKeyed args)
    (hallows : (Directive.value rules Directive.allowExtraKeys).truth = .ok true)
    (hsplits : Splits rules first second) :
    ((engine.evaluate ruleMap argMap).Returns ↔
        (engine.evaluate firstMap argMap).Returns ∧ (engine.evaluate secondMap argMap).Returns) ∧
      (∀ result part rest, (engine.evaluate ruleMap argMap).answer = .ok result →
        (engine.evaluate firstMap argMap).answer = .ok part →
        (engine.evaluate secondMap argMap).answer = .ok rest →
          result.Unites part rest ∧
          (Directive.without rules = Directive.without first ++ Directive.without second →
            result.violations = part.violations ++ rest.violations) ∧
          ∃ last, (engine.evaluate secondMap part.argMap).answer = .ok last ∧
            last.args.Perm result.args) ∧
      ∀ otherMap given, otherMap.asMap? = some given → given.Perm rules →
        ((engine.evaluate otherMap argMap).Returns ↔ (engine.evaluate ruleMap argMap).Returns) ∧
          ∀ result same, (engine.evaluate ruleMap argMap).answer = .ok result →
            (engine.evaluate otherMap argMap).answer = .ok same → same.Rearranges result := by
  refine ⟨returns_iff_of_splits hnormal hruleMap hfirstMap hsecondMap hargMap hrules hargs hallows
    hsplits, fun result part rest hresult hpart hrest => ?_, fun otherMap given hother hperm => ?_⟩
  · exact unites_of_splits hnormal hruleMap hfirstMap hsecondMap hargMap hrules hargs hallows
      hsplits hresult hpart hrest
  · exact evaluate_of_perm (by simp [hnormal]) hruleMap hother hargMap hrules hargs hperm

end Engine

/-! ### A sample -/

namespace Sample

/-- A rule map that allows arguments without a rule. -/
def whole : Entries :=
  [(Directive.allowExtraKeys, .bool true),
    (.text "size", .map [(.text "kind", .text "number"), (.text "max_num", .int 6),
      (.text "autobound", .bool true)]),
    (.text "shape", .map [(.text "kind", .text "boolean")]),
    (.text "colour", .map [(.text "kind", .text "string"), (.text "default", .text "red")]),
    (.text "owner", .map [(.text "kind", .text "string")])]

/-- The rules for the owner and the size. -/
def firstPart : Entries :=
  [(.text "owner", .map [(.text "kind", .text "string")]),
    (.text "size", .map [(.text "kind", .text "number"), (.text "max_num", .int 6),
      (.text "autobound", .bool true)]),
    (Directive.allowExtraKeys, .bool true)]

/-- The rules for the shape and the colour. -/
def secondPart : Entries :=
  [(.text "shape", .map [(.text "kind", .text "boolean")]), (Directive.allowExtraKeys, .bool true),
    (.text "colour", .map [(.text "kind", .text "string"), (.text "default", .text "red")])]

end Sample

/-- In the sample each part finds one violation and makes one change, and so the whole finds two and
makes two, in whatever order. -/
theorem Engine.evaluate_splits_sample :
    Splits Sample.whole Sample.firstPart Sample.secondPart ∧
      ∃ result part rest last same,
        (Engine.default.evaluate (.map Sample.whole) (.map Sample.args)).answer = .ok result ∧
        argNames result.violations = ["shape", "owner"] ∧
        (Engine.default.evaluate (.map Sample.firstPart) (.map Sample.args)).answer = .ok part ∧
        argNames part.violations = ["owner"] ∧ part.changes.keys = ["size"] ∧
        (Engine.default.evaluate (.map Sample.secondPart) (.map Sample.args)).answer = .ok rest ∧
        argNames rest.violations = ["shape"] ∧ rest.changes.keys = ["colour"] ∧
        result.Unites part rest ∧
        (Engine.default.evaluate (.map Sample.secondPart) part.argMap).answer = .ok last ∧
        last.args.Perm result.args ∧
        (Engine.default.evaluate (.map Sample.whole.reverse) (.map Sample.args)).answer = .ok same ∧
        same.Rearranges result := by
  have hwhole : TextKeyed Sample.whole :=
    ⟨by simp [Sample.whole, Directive.allowExtraKeys, Value.asText?], by decide⟩
  have hsplits : Splits Sample.whole Sample.firstPart Sample.secondPart :=
    ⟨.rfl, .rfl, @List.perm_append_comm _ [_] [_, _, _]⟩
  obtain ⟨-, hunites, horder⟩ := @evaluate_splits Engine.default _ _ _ _
    (.map Sample.whole) (.map Sample.firstPart) (.map Sample.secondPart) (.map Sample.args)
    rfl rfl rfl rfl rfl hwhole Sample.textKeyed_args rfl hsplits
  have hviolations : (Engine.default.evaluate (.map Sample.whole)
      (.map Sample.args)).answer.toOption.map (argNames ·.violations) =
        some ["shape", "owner"] := by
    decide +kernel
  have hpartFound : (Engine.default.evaluate (.map Sample.firstPart)
      (.map Sample.args)).answer.toOption.map
        (fun part => (argNames part.violations, part.changes.keys)) =
          some (["owner"], ["size"]) := by
    decide +kernel
  have hrestFound : (Engine.default.evaluate (.map Sample.secondPart)
      (.map Sample.args)).answer.toOption.map
        (fun rest => (argNames rest.violations, rest.changes.keys)) =
          some (["shape"], ["colour"]) := by
    decide +kernel
  obtain ⟨result, hresult, hnames⟩ := exists_of_toOption_map hviolations
  obtain ⟨part, hpart, hpartFound⟩ := exists_of_toOption_map hpartFound
  obtain ⟨rest, hrest, hrestFound⟩ := exists_of_toOption_map hrestFound
  obtain ⟨hpartNames, hpartChanges⟩ := Prod.mk.inj hpartFound
  obtain ⟨hrestNames, hrestChanges⟩ := Prod.mk.inj hrestFound
  obtain ⟨hunited, -, last, hlast, hargs⟩ := hunites result part rest hresult hpart hrest
  obtain ⟨hboth, hsame⟩ := horder (.map Sample.whole.reverse) _ rfl (List.reverse_perm _)
  obtain ⟨same, hother⟩ := hboth.mpr ⟨result, hresult⟩
  exact ⟨hsplits, result, part, rest, last, same, hresult, hnames, hpart, hpartNames, hpartChanges,
    hrest, hrestNames, hrestChanges, hunited, hlast, hargs, hother,
    hsame result same hresult hother⟩

end ArgRules
