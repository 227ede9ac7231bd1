import ArgRules.Proofs.Bypass
import ArgRules.Proofs.Ledger
import ArgRules.Proofs.Wording

/-!
# Engines with some of the kinds

An engine is built with a list of kinds, and it checks values of these kinds only. Here it is said
where that makes a difference: a rule of another kind gets one more reason, but only where the check
of its kind would have been asked for, and everything else is as it would be with all kinds. An
engine that is built with no kinds at all has all of them.

## Being dispatched

A rule is evaluated long before its kind matters. A default that is put in is not checked, nor is an
exempt value, nor one that is absent or counts as absent, nor the value of an optional argument. In
all these cases the kind is never looked up (`Rule.Dispatches`).

## Main definitions

* `Rule.Dispatches` — a rule has a value checked by its kind
* `Engine.Evaluates` — a rule is evaluated under a name
* `Engine.Narrowed` — what a choice of kinds does to a result

## Main results

* `Engine.judge_of_supported` — if the kind is supported, the other kinds do not matter
* `Engine.Judged.unsupported_iff` — when a verdict says that a kind is not supported
* `Engine.narrowed_of_build` — every result is what the choice of kinds makes of it
-/

namespace ArgRules

/-! ### One judgement -/

/-- A rule has a value checked by its kind: the value is examined, and it is not exempt. -/
def Rule.Dispatches (rule : Rule) (value : Value) : Prop :=
  rule.Examines value ∧ ¬ rule.Exempts value

namespace Engine

variable {engine other : Engine} {checkNames : Bool} {name entry value : Value} {rule : Rule}

/-- A check asks for the kind of the rule and for no other. -/
theorem examine_of_supported
    (h : ∀ kind, rule.frame.constraint.kind? = some kind → rule.Examines value →
      engine.kinds.contains kind = other.kinds.contains kind) :
    engine.examine rule value = other.examine rule value := by
  rw [examine, examine]
  cases hexamines : rule.examines value with
  | error fault => rfl
  | ok answer =>
    cases answer with
    | false => rfl
    | true =>
      have hexamined := (Rule.examines_iff hexamines).mp rfl
      cases hkind : rule.kind with
      | error fault => rfl
      | ok kind =>
        have hsame := h kind (Rule.kind_eq_ok.mp hkind) hexamined
        change engine.examineKind kind rule value = other.examineKind kind rule value
        rw [examineKind, examineKind, hsame]

/-- **If the kind of a dispatched rule is supported by both engines or by none,** they judge
alike. -/
theorem judge_of_supported (hconventions : engine.conventions = other.conventions)
    (h : ∀ rule kind, Rule.ofEntry entry = .ok (.ok rule) →
      rule.frame.constraint.kind? = some kind → rule.Dispatches value →
      engine.kinds.contains kind = other.kinds.contains kind) :
    engine.judge checkNames name entry value = other.judge checkNames name entry value := by
  have hnames : ∀ rule, engine.nameReasons checkNames name rule =
      other.nameReasons checkNames name rule := by
    intro rule
    rw [nameReasons, nameReasons, hconventions]
  rw [judge, judge]
  cases hparsed : Rule.ofEntry entry with
  | error fault => rfl
  | ok parsed =>
    cases parsed with
    | error reason => rfl
    | ok rule =>
      change engine.judgeRule checkNames name rule value = other.judgeRule checkNames name rule value
      have hdefault : engine.judgeDefault checkNames name rule =
          other.judgeDefault checkNames name rule := by
        rw [judgeDefault, judgeDefault, hnames]
      have hvalue : engine.judgeValue checkNames name rule value =
          other.judgeValue checkNames name rule value := by
        rw [judgeValue, judgeValue, hnames]
        cases hexempt : rule.exempts value with
        | error fault => rfl
        | ok answer =>
          cases answer with
          | true => rfl
          | false =>
            have hnot : ¬ rule.Exempts value := by
              rw [← Rule.exempts_iff hexempt]
              exact Bool.false_ne_true
            rw [examine_of_supported fun kind hk hexamined =>
              h rule kind hparsed hk ⟨hexamined, hnot⟩]
      rw [judgeRule, judgeRule, hdefault, hvalue]

theorem sparesKind_of_nameReasons {reasons : List String}
    (h : engine.nameReasons checkNames name rule = .ok reasons) : Rule.SparesKind reasons := by
  rw [nameReasons] at h
  split at h
  · exact pure_eq_ok.mp h ▸ Rule.sparesKind_nil
  · obtain ⟨kind, -, h⟩ := bind_eq_ok.mp h
    exact Conventions.sparesKind_of_reasons h

/-- What is found about a value says that the kind is not supported exactly if the value is examined
and the kind is not there. -/
theorem mem_examine_iff {kind : Kind} (hk : rule.frame.constraint.kind? = some kind)
    {finding : Finding} (h : engine.examine rule value = .ok finding) :
    Rule.unsupportedReason kind.name ∈ finding.reasons ↔
      rule.Examines value ∧ kind ∉ engine.kinds := by
  rw [examine] at h
  obtain ⟨answer, hanswer, h⟩ := bind_eq_ok.mp h
  have hexamines := Rule.examines_iff hanswer
  split at h
  · next hyes =>
    obtain ⟨found, hfound, h⟩ := bind_eq_ok.mp h
    obtain rfl := Option.some.inj ((Rule.kind_eq_ok.mp hfound).symm.trans hk)
    rw [examineKind] at h
    split at h
    · next hthere =>
      obtain ⟨tag, -, h⟩ := bind_eq_ok.mp h
      refine iff_of_false ((Kind.sparesKind_of_check h).not_mem _) ?_
      rintro ⟨-, hmissing⟩
      exact hmissing (List.contains_iff_mem.mp hthere)
    · next hmissing =>
      obtain rfl := pure_eq_ok.mp h
      exact iff_of_true (List.mem_singleton_self _)
        ⟨hexamines.mp hyes, fun hthere => hmissing (List.contains_iff_mem.mpr hthere)⟩
  · next hno =>
    obtain rfl := pure_eq_ok.mp h
    refine iff_of_false (by simp [Finding.unchanged]) ?_
    rintro ⟨hexamined, -⟩
    exact hno (hexamines.mpr hexamined)

/-- **A verdict says that the kind of its rule is not supported** exactly if the rule is dispatched
and the kind is not there. -/
theorem Judged.unsupported_iff {verdict : Verdict} {kind : Kind}
    (h : Judged engine checkNames name entry value verdict)
    (hparsed : Rule.ofEntry entry = .ok (.ok rule))
    (hk : rule.frame.constraint.kind? = some kind) :
    (∃ violation ∈ verdict.violation, Rule.unsupportedReason kind.name ∈ violation.reasons) ↔
      rule.Dispatches value ∧ kind ∉ engine.kinds := by
  have hsame {found : Rule} (hfound : Rule.ofEntry entry = .ok (.ok found)) : found = rule :=
    Except.ok.inj (Except.ok.inj (hfound.symm.trans hparsed))
  -- An absent value is not dispatched, so it is enough that no reason says so.
  have hquiet (habsent : value = .undefined) {reasons : List String}
      {violation : Option Violation} (hspares : Rule.SparesKind reasons)
      (hreasons : ∀ v ∈ violation, v.reasons = reasons) :
      (∃ v ∈ violation, Rule.unsupportedReason kind.name ∈ v.reasons) ↔
        rule.Dispatches value ∧ kind ∉ engine.kinds := by
    refine iff_of_false ?_ ?_
    · rintro ⟨v, hv, hmem⟩
      rw [hreasons v hv] at hmem
      exact hspares.not_mem _ hmem
    · rintro ⟨⟨hexamined, -⟩, -⟩
      exact hexamined.1 habsent
  cases h with
  | unusable parsed described => cases Except.ok.inj (parsed.symm.trans hparsed)
  | missing parsed absent bare required described =>
    have hspares : Rule.SparesKind [Verdict.missingReason] :=
      Rule.sparesKind_singleton (by decide)
    exact hquiet absent hspares fun v hv => ((Verdict.violationFor_eq_ok described).2 v hv).1
  | exemptDefault parsed absent stocked named exempt =>
    exact hquiet absent Rule.sparesKind_nil (by simp)
  | default parsed absent stocked named exempt described =>
    exact hquiet absent (sparesKind_of_nameReasons named)
      fun v hv => ((Verdict.violationFor_eq_ok described).2 v hv).1
  | exempt parsed present named exempt =>
    obtain rfl := hsame parsed
    refine iff_of_false (by simp) ?_
    rintro ⟨⟨-, hnot⟩, -⟩
    exact hnot ((Rule.exempts_iff exempt).mp rfl)
  | @checked found reasons finding violation parsed present named exempt examined described =>
    obtain rfl := hsame parsed
    obtain ⟨hnone, hsome⟩ := Verdict.violationFor_eq_ok described
    have hnot : ¬ found.Exempts value := by
      rw [← Rule.exempts_iff exempt]
      exact Bool.false_ne_true
    have hfinding := mem_examine_iff hk examined
    have hnamed := (sparesKind_of_nameReasons named).not_mem kind.name
    constructor
    · rintro ⟨v, hv, hmem⟩
      rw [(hsome v hv).1, List.mem_append, or_iff_right hnamed, hfinding] at hmem
      exact ⟨⟨hmem.1, hnot⟩, hmem.2⟩
    · rintro ⟨⟨hexamined, -⟩, hmissing⟩
      have hmem : Rule.unsupportedReason kind.name ∈ reasons ++ finding.reasons :=
        List.mem_append_right _ (hfinding.mpr ⟨hexamined, hmissing⟩)
      obtain ⟨v, hv⟩ : ∃ v, violation = some v := by
        refine Option.ne_none_iff_exists'.mp fun hv => ?_
        rw [hnone.mp hv] at hmem
        contradiction
      refine ⟨v, hv, ?_⟩
      rw [(hsome v hv).1]
      exact hmem

end Engine

/-! ### Two results -/

namespace Account

variable {engine other : Engine} {rules args : Entries} {verdicts verdicts' : Table Value Verdict}
  {extra extra' : List Violation} {result whole : CheckResult}

/-- Two engines in one mode that judge the entry of a name alike say the same of the name. -/
theorem same_of_judge_eq (h : Account engine rules args verdicts extra result)
    (h' : Account other rules args verdicts' extra' whole) (hrules : TextKeyed rules)
    (hmode : engine.mode = other.mode) {name : String}
    (hjudge : ∀ key entry, rules.get? (.text name) = some entry →
      engine.judges rules name = true →
      engine.judge (engine.checksNames rules) key entry (Engine.argument args (.text name)) =
        other.judge (other.checksNames rules) key entry (Engine.argument args (.text name))) :
    result.args.get? name = whole.args.get? name ∧
      result.changes.get? name = whole.changes.get? name ∧
      result.violations.filter (·.argName = name) = whole.violations.filter (·.argName = name) := by
  have hskips : other.skips rules = engine.skips rules := by
    funext name
    rw [Engine.skips, Engine.skips, hmode]
  have hjudges : other.judges rules = engine.judges rules := by
    funext name
    rw [Engine.judges, Engine.judges, hskips]
  have hextra : extra = extra' := by
    have hleft := h.leftOver
    have hleaves : other.leavesOver rules = engine.leavesOver rules := by
      funext name
      rw [Engine.leavesOver, Engine.leavesOver, hskips]
    have hallows : other.allowsExtra rules = engine.allowsExtra rules := by
      rw [Engine.allowsExtra, Engine.allowsExtra, hmode]
    rw [← hleaves, ← hallows] at hleft
    exact Except.ok.inj (hleft.symm.trans h'.leftOver)
  have hentries : other.judgedEntries rules = engine.judgedEntries rules := by
    rw [Engine.judgedEntries, Engine.judgedEntries, hjudges]
  -- Entry by entry, the two verdicts are under one key and, under the name, one and the same.
  have hverdicts : List.Forall₂ (fun found found' => found'.1 = found.1 ∧
      (found.1.asText? = some name → found.2 = found'.2)) verdicts verdicts' := by
    have hjudged' := h'.judged
    rw [hentries] at hjudged'
    have hlength := h.judged.length_eq
    refine List.forall₂_of_length_eq_of_get (hlength.symm.trans hjudged'.length_eq)
      fun n hn hn' => ?_
    have hmem := List.get_mem (engine.judgedEntries rules) ⟨n, hlength ▸ hn⟩
    obtain ⟨hkey, hown⟩ := h.judged.get (hlength ▸ hn) hn
    obtain ⟨hkey', hown'⟩ := hjudged'.get (hlength ▸ hn) hn'
    refine ⟨hkey'.trans hkey.symm, fun hname => ?_⟩
    obtain ⟨found, hfound, hjudged, hentry⟩ := Engine.get?_of_mem_judgedEntries hrules hmem
    rw [hkey] at hname
    obtain rfl := Option.some.inj (hname.symm.trans hfound)
    have hanswer := Engine.judge_of_judged hown
    rw [Engine.argument_eq hname, hjudge _ _ hentry hjudged] at hanswer
    have hanswer' := Engine.judge_of_judged hown'
    rw [Engine.argument_eq hname] at hanswer'
    exact Except.ok.inj (hanswer.symm.trans hanswer')
  have hverdict : verdicts.get? (.text name) = verdicts'.get? (.text name) := by
    rcases Table.get?_of_forall₂ hverdicts (.text name) with
      ⟨hnone, hnone'⟩ | ⟨key, verdict, verdict', heq, hfound, hfound', hsame⟩
    · rw [hnone, hnone']
    · rw [hfound, hfound']
      exact congrArg some (hsame (Value.beq_text_iff.mp heq))
  have hchanges : result.changes.get? name = whole.changes.get? name := by
    rw [h.changes, h'.changes, Table.get?_named_text, Table.get?_named_text,
      get?_changesOf (h.textKeyed hrules), get?_changesOf (h'.textKeyed hrules), hverdict]
  refine ⟨?_, hchanges, ?_⟩
  · rw [h.get?_args hrules, h'.get?_args hrules, hchanges]
  · rw [h.filter_violations hrules, h'.filter_violations hrules, hverdict, hextra]

end Account

/-! ### The choice of kinds -/

namespace Engine

variable {mode : Option Value} {conventions : Value} {kinds : List Kind} {engine full : Engine}

/-- A rule is evaluated under a name: the engine is not switched off, the name is judged, and its
entry can be read as the rule. -/
structure Evaluates (engine : Engine) (rules : Entries) (name : String) (rule : Rule) : Prop where
  active : engine.mode ≠ .off
  judged : engine.judges rules name = true
  parsed : ∃ entry, rules.get? (.text name) = some entry ∧ Rule.ofEntry entry = .ok (.ok rule)

/-- What a choice of kinds does to a result. -/
structure Narrowed (engine full : Engine) (kinds : List Kind) (ruleMap argMap : Value)
    (rules args : Entries) (result : CheckResult) : Prop where
  /-- That a kind is not supported is said of a rule that is dispatched and of another kind than
  those chosen, if any were chosen, and of no other rule. -/
  reported : ∀ name rule kind, engine.Evaluates rules name rule →
    rule.frame.constraint.kind? = some kind →
    ((∃ violation ∈ result.violations, violation.argName = name ∧
        Rule.unsupportedReason kind.name ∈ violation.reasons) ↔
      rule.Dispatches (argument args (.text name)) ∧ kinds ≠ [] ∧ kind ∉ kinds)
  /-- Of any other name all is said and done that is with all kinds. -/
  otherwise : ∀ whole, (full.evaluate ruleMap argMap).answer = .ok whole → ∀ name,
    (∀ rule kind, engine.Evaluates rules name rule → rule.frame.constraint.kind? = some kind →
      rule.Dispatches (argument args (.text name)) → kinds = [] ∨ kind ∈ kinds) →
    result.args.get? name = whole.args.get? name ∧
      result.changes.get? name = whole.changes.get? name ∧
      result.violations.filter (·.argName = name) = whole.violations.filter (·.argName = name)

/-- An engine has the kinds that it was built with, or all of them. -/
theorem mem_kinds_of_build (h : build mode conventions kinds = .ok engine) (kind : Kind) :
    kind ∈ engine.kinds ↔ kinds = [] ∨ kind ∈ kinds := by
  obtain ⟨held, -, h⟩ := bind_eq_ok.mp h
  obtain rfl := pure_eq_ok.mp h
  have hall : kind ∈ Kind.all := by cases kind <;> decide
  cases kinds with
  | nil => simp [hall]
  | cons first rest => simp

/-- The kinds decide on nothing else. -/
theorem same_of_build {others : List Kind} (h : build mode conventions kinds = .ok engine)
    (h' : build mode conventions others = .ok full) :
    engine.mode = full.mode ∧ engine.conventions = full.conventions := by
  obtain ⟨held, hheld, h⟩ := bind_eq_ok.mp h
  obtain ⟨held', hheld', h'⟩ := bind_eq_ok.mp h'
  obtain rfl := Except.ok.inj (hheld.symm.trans hheld')
  obtain rfl := pure_eq_ok.mp h
  obtain rfl := pure_eq_ok.mp h'
  exact ⟨rfl, rfl⟩

/-- **Every result of an engine is what its choice of kinds makes of it.** -/
theorem narrowed_of_build {ruleMap argMap : Value} {rules args : Entries} {result : CheckResult}
    (hbuild : build mode conventions kinds = .ok engine)
    (hfull : build mode conventions Kind.all = .ok full)
    (hruleMap : ruleMap.asMap? = some rules) (hargMap : argMap.asMap? = some args)
    (hrules : TextKeyed rules) (hargs : TextKeyed args)
    (h : (engine.evaluate ruleMap argMap).answer = .ok result) :
    engine.Narrowed full kinds ruleMap argMap rules args result := by
  obtain ⟨hmode, hconventions⟩ := same_of_build hbuild hfull
  have hkinds := mem_kinds_of_build hbuild
  constructor
  case reported =>
    rintro name rule kind ⟨hactive, hjudges, entry, hentry, hparsed⟩ hk
    obtain ⟨verdicts, extra, haccount⟩ :=
      exists_account_of_evaluate hactive hruleMap hargMap hrules hargs h
    obtain ⟨key, verdict, -, hjudged, -, hfilter⟩ :=
      haccount.exists_sole_verdict hrules hargs hjudges hentry
    have hviolation : ∀ violation, violation ∈ result.violations ∧ violation.argName = name ↔
        violation ∈ verdict.violation := by
      intro violation
      refine Iff.trans ?_ Option.mem_toList
      rw [← hfilter, List.mem_filter, decide_eq_true_iff]
    have hunsupported := hjudged.unsupported_iff hparsed hk
    rw [hkinds, not_or] at hunsupported
    rw [← hunsupported]
    simp only [← hviolation, and_assoc]
  case otherwise =>
    intro whole hwhole name hsupported
    by_cases hactive : engine.mode = .off
    · rw [evaluate_of_off hactive] at h
      rw [evaluate_of_off (hmode ▸ hactive), h] at hwhole
      obtain rfl := Except.ok.inj hwhole
      exact ⟨rfl, rfl, rfl⟩
    · obtain ⟨verdicts, extra, haccount⟩ :=
        exists_account_of_evaluate hactive hruleMap hargMap hrules hargs h
      obtain ⟨verdicts', extra', haccount'⟩ :=
        exists_account_of_evaluate (hmode ▸ hactive) hruleMap hargMap hrules hargs hwhole
      refine haccount.same_of_judge_eq haccount' hrules hmode fun key entry hentry hjudges => ?_
      have hchecks : engine.checksNames rules = full.checksNames rules := by
        rw [checksNames, checksNames, hmode]
      rw [hchecks]
      refine judge_of_supported hconventions fun rule kind hparsed hk hdispatches => ?_
      have hown := hsupported rule kind ⟨hactive, hjudges, entry, hentry, hparsed⟩ hk hdispatches
      have hall : kind ∈ full.kinds := by
        rw [mem_kinds_of_build hfull]
        cases kind <;> decide
      rw [List.contains_iff_mem.mpr ((hkinds kind).mpr hown), List.contains_iff_mem.mpr hall]

end Engine

namespace Sample

/-- A rule on a truth value and one on any value. -/
def assorted : Entries :=
  [(.text "loud", .map [(.text "kind", .text "boolean")]),
    (.text "note", .map [(.text "kind", .text "any")])]

/-- An argument for each of the two. -/
def pair : Entries := [(.text "loud", .bool true), (.text "note", .text "low")]

/-- The result of the two maps if only the kind of the note is supported. -/
def assortedResult : CheckResult :=
  ⟨[("loud", .bool true), ("note", .text "low")], [],
    [⟨"loud", some "boolean", false, "True", ["data type boolean is not supported"],
      "Argument |loud| data type |boolean| True data type boolean is not supported"⟩]⟩

end Sample

namespace Engine

/-- In the sample, an engine for values of any kind does not support truth values. -/
theorem narrowed_of_sample :
    build none .null [.any] = .ok ⟨.normal, .default, [.any]⟩ ∧
      build none .null Kind.all = .ok Engine.default ∧
      (Engine.evaluate ⟨.normal, .default, [.any]⟩ (.map Sample.assorted)
        (.map Sample.pair)).answer = .ok Sample.assortedResult ∧
      Narrowed ⟨.normal, .default, [.any]⟩ Engine.default [.any] (.map Sample.assorted)
        (.map Sample.pair) Sample.assorted Sample.pair Sample.assortedResult := by
  have hrules : TextKeyed Sample.assorted :=
    ⟨by simp [Sample.assorted, Value.asText?], by decide⟩
  have hargs : TextKeyed Sample.pair := ⟨by simp [Sample.pair, Value.asText?], by decide⟩
  have hbuild : build none .null [.any] = .ok ⟨.normal, .default, [.any]⟩ := rfl
  have hfull : build none .null Kind.all = .ok Engine.default := rfl
  have hresult : (Engine.evaluate ⟨.normal, .default, [.any]⟩ (.map Sample.assorted)
      (.map Sample.pair)).answer = .ok Sample.assortedResult := rfl
  exact ⟨hbuild, hfull, hresult, narrowed_of_build hbuild hfull rfl rfl hrules hargs hresult⟩

/-- But an engine that is built with no kinds at all lets a value of any kind pass. -/
theorem unnarrowed_sample :
    ∃ engine, build none .null [] = .ok engine ∧ Kind.any ∉ ([] : List Kind) ∧
      (engine.evaluate (.map [(.text "x", .map [(.text "kind", .text "any")])])
        (.map [(.text "x", .int 1)])).answer = .ok ⟨[("x", .int 1)], [], []⟩ :=
  ⟨Engine.default, rfl, by simp, rfl⟩

end Engine

end ArgRules
