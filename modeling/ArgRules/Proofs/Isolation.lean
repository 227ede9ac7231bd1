import ArgRules.Proofs.Ledger
import ArgRules.Proofs.Skipping

/-!
# Entries that cannot be used are isolated

An entry of a rule map that is no rule has one violation, which says why it cannot be used, and
nothing is changed for it. Apart from that violation the result is that of a call that has neither
the entry nor its argument: the same violations, the same changes and the same other arguments, in
the same order.

## How it is shown

A verdict on one entry reads nothing of the others, so verdicts can be taken out one by one. What
has to be looked after is what is left over: without its entry an argument would be left over, which
is why it is taken out as well. This holds of any judged entries (`Engine.assess_outside`). That
nothing else is lost with an entry that is no rule, is because it has no change.

## Main definitions

* `Engine.Isolated` — an entry that cannot be used is isolated in a result

## Main results

* `Engine.assess_outside` — judged entries can be taken out of an assessment, with their arguments
* `Engine.isolated_of_evaluate` — an entry that cannot be used is isolated in every result
-/

namespace ArgRules

/-! ### Taking entries out -/

theorem TextKeyed.outside {α : Type} {table : Table Value α} (h : TextKeyed table)
    (hidden : String → Bool) : TextKeyed (table.outside hidden) :=
  h.of_keys_sublist (List.filter_sublist.map _)

/-- Among texts, what is outside of some names is what has another name. -/
theorem TextKeyed.outside_eq {α : Type} {table : Table Value α} (h : TextKeyed table)
    (hidden : String → Bool) :
    table.outside hidden = table.filter fun entry => entry.1.asText?.any (!hidden ·) := by
  refine List.filter_congr fun entry hentry => ?_
  obtain ⟨name, hname⟩ := h.isText entry.1 (List.mem_map_of_mem hentry)
  rw [hname, Option.any_some, Option.any_some]

/-- Hidden names without changes can be taken out. -/
theorem changesOf_outside {verdicts : Table Value Verdict} {hidden : String → Bool}
    (h : ∀ found ∈ verdicts, found.1.asText?.any hidden = true → found.2.change = none) :
    changesOf (verdicts.outside hidden) = changesOf verdicts := by
  rw [changesOf, Table.outside, List.filterMap_filter]
  refine List.filterMap_congr fun found hfound => ?_
  split
  · rfl
  · next hhidden => rw [h found hfound (by simpa using hhidden)]; rfl

namespace Engine

variable {engine : Engine} {checkNames : Bool} {rules args entries : Entries}
  {verdicts : Table Value Verdict} {extra : List Violation} {hidden : String → Bool}

/-- Verdicts can be taken out with their entries. -/
theorem judgeAll_filter (h : engine.judgeAll checkNames args entries = .ok verdicts)
    (p : Value → Bool) :
    engine.judgeAll checkNames args (entries.filter fun entry => p entry.1) =
      .ok (verdicts.filter fun found => p found.1) := by
  induction entries generalizing verdicts with
  | nil =>
    obtain rfl := pure_eq_ok.mp h
    rfl
  | cons entry rest ih =>
    obtain ⟨key, raw⟩ := entry
    obtain ⟨verdict, others, hverdict, hothers, rfl⟩ := judgeAll_cons_eq_ok.mp h
    have hrest := ih hothers
    rw [List.filter_cons, List.filter_cons]
    split
    · exact judgeAll_cons_eq_ok.mpr ⟨verdict, _, hverdict, hrest, rfl⟩
    · exact hrest

/-- Every verdict is on an entry. -/
theorem exists_judged_of_mem (h : engine.judgeAll checkNames args entries = .ok verdicts)
    {key : Value} {verdict : Verdict} (hmem : (key, verdict) ∈ verdicts) :
    ∃ raw, (key, raw) ∈ entries ∧
      Judged engine checkNames key raw (argument args key) verdict := by
  induction entries generalizing verdicts with
  | nil =>
    obtain rfl := pure_eq_ok.mp h
    simp at hmem
  | cons entry rest ih =>
    obtain ⟨name, raw⟩ := entry
    obtain ⟨own, others, hown, hothers, rfl⟩ := judgeAll_cons_eq_ok.mp h
    rcases List.mem_cons.mp hmem with heq | hmem
    · obtain ⟨rfl, rfl⟩ := Prod.mk.inj heq
      exact ⟨raw, List.mem_cons_self .., judged_of_judge hown⟩
    · obtain ⟨found, hfound, hjudged⟩ := ih hothers hmem
      exact ⟨found, List.mem_cons_of_mem _ hfound, hjudged⟩

/-- The violations with names of some kind are those of the verdicts with such names. -/
theorem filter_violationsOf (h : engine.judgeAll checkNames args entries = .ok verdicts)
    (hentries : TextKeyed entries) (keep : String → Bool) :
    (violationsOf verdicts).filter (fun violation => keep violation.argName) =
      violationsOf (verdicts.filter fun found => found.1.asText?.any keep) := by
  rw [violationsOf, violationsOf, List.filter_filterMap, List.filterMap_filter]
  refine List.filterMap_congr fun found hfound => ?_
  obtain ⟨key, verdict⟩ := found
  obtain ⟨raw, hmem, hjudged⟩ := exists_judged_of_mem h hfound
  obtain ⟨name, hname⟩ := hentries.isText key (Table.mem_keys_of_mem hmem)
  cases hviolation : verdict.violation with
  | none => simp
  | some violation =>
    have hfiled := (hjudged.violation_spec hviolation).2
    rw [Reading.text_of_asText? hname, Except.ok.injEq] at hfiled
    simp [hname, hfiled, Option.filter]

/-! ### An assessment without some entries -/

end Engine

/-- Taking out rules takes out no directive. -/
theorem Directive.among_outside {hidden : String → Bool}
    (h : ∀ name, hidden name = true → isName name = false) (rules : Entries) :
    among (rules.outside hidden) = among rules := by
  rw [among, among, Table.outside, List.filter_filter]
  refine List.filter_congr fun entry _ => ?_
  rw [isKey]
  split
  · next name hname =>
    rw [hname, Option.any_some]
    cases hhidden : hidden name with
    | true => rw [h name hhidden]; rfl
    | false => rw [Bool.not_false, Bool.and_true]
  · rfl

namespace Policy

variable {policy : Policy} {rules args : Entries} {hidden : String → Bool}

/-- Without some entries, the others are judged. -/
theorem judged_outside (policy : Policy) (rules : Entries) (hidden : String → Bool) :
    policy.judged (rules.outside hidden) = (policy.judged rules).outside hidden :=
  List.filter_comm ..

/-- A key that is not hidden is outside exactly if it is there. -/
theorem any_keys_outside {key : Value} (h : key.asText?.any hidden = false) (table : Entries) :
    (table.outside hidden).keys.any (· == key) = table.keys.any (· == key) := by
  rw [Bool.eq_iff_iff, List.any_eq_true, List.any_eq_true]
  constructor
  · rintro ⟨other, hother, heq⟩
    exact ⟨other, (List.filter_sublist.map _).subset hother, heq⟩
  · rintro ⟨other, hother, heq⟩
    obtain ⟨value, hmem⟩ := Table.mem_keys_iff.mp hother
    refine ⟨other, Table.mem_keys_of_mem (List.mem_filter.mpr ⟨hmem, ?_⟩), heq⟩
    rw [Value.asText?_eq_of_beq heq, h, Bool.not_false]

/-- Without some judged entries and their arguments, the same keys are left over. -/
theorem unclaimed_outside
    (hhidden : ∀ key : Value, key.asText?.any hidden = true →
      (policy.judged rules).keys.any (· == key) = true) :
    policy.unclaimed (rules.outside hidden) (args.outside hidden) =
      policy.unclaimed rules args := by
  have hkeys : (args.outside hidden).keys = args.keys.filter (!·.asText?.any hidden) := by
    rw [Table.keys, Table.keys, Table.outside, List.filter_map]
    rfl
  rw [unclaimed, unclaimed, hkeys, List.filter_filter, judged_outside]
  refine List.filter_congr fun key _ => ?_
  cases hkey : key.asText?.any hidden with
  | true => rw [hhidden key hkey]; simp
  | false => rw [any_keys_outside hkey]; simp

end Policy

namespace Engine

variable {engine : Engine} {rules args : Entries} {verdicts : Table Value Verdict}
  {extra : List Violation} {hidden : String → Bool}

/-- **Judged entries can be taken out of an assessment, with their arguments.** The other verdicts
and what is left over stay the same. -/
theorem assess_outside (hmode : engine.mode ≠ .off) (hrules : TextKeyed rules)
    (hhidden : ∀ name, hidden name = true →
      engine.judges rules name = true ∧ name ∈ rules.named.keys)
    (h : engine.assess rules args = .ok (verdicts, extra)) :
    engine.assess (rules.outside hidden) (args.outside hidden) =
      .ok (verdicts.outside hidden, extra) := by
  obtain ⟨policy, hpolicy, hverdicts, allow, hallow, hextra⟩ := assess_eq_ok.mp h
  have hfollows := Policy.follows_of_ofMode hmode hpolicy
  have hsame : Policy.ofMode engine.mode (rules.outside hidden) = .ok policy := by
    rw [← hpolicy]
    refine Policy.ofMode_of_perm hrules (.of_eq (Directive.among_outside (fun name hname => ?_) _))
    exact isName_of_judges (hhidden name hname).1
  have hjudged : ∀ key : Value, key.asText?.any hidden = true →
      (policy.judged rules).keys.any (· == key) = true := by
    intro key hkey
    obtain ⟨name, hname, hhides⟩ := (Option.any_eq_true ..).mp hkey
    obtain ⟨hjudges, hthere⟩ := hhidden name hhides
    obtain ⟨raw, hraw⟩ := Table.mem_keys_iff.mp hthere
    obtain ⟨other, hother, hmem⟩ := Table.mem_named.mp hraw
    rw [hfollows.judged_eq hrules, List.any_eq_true]
    refine ⟨other, Table.mem_keys_of_mem (List.mem_filter.mpr ⟨hmem, ?_⟩),
      (Value.beq_iff_of_asText? hname).mpr hother⟩
    rwa [hother, Option.any_some]
  -- Outside of the hidden names, the arguments are the same.
  have hargument : ∀ key ∈ ((policy.judged rules).outside hidden).keys,
      argument (args.outside hidden) key = argument args key := by
    intro key hkey
    obtain ⟨raw, hmem⟩ := Table.mem_keys_iff.mp hkey
    have hvisible := (Bool.not_eq_true' _).mp (List.mem_filter.mp hmem).2
    rw [argument, argument, Table.get?_outside hvisible]
  refine assess_eq_ok.mpr ⟨policy, hsame, ?_, allow, hallow, ?_⟩
  · rw [Policy.judged_outside, judgeAll_congr hargument]
    exact judgeAll_filter hverdicts (!·.asText?.any hidden)
  · rwa [Policy.unclaimed_outside hjudged]

end Engine

/-! ### Entries that are no rules -/

namespace Engine

/-- An entry that cannot be used is isolated in a result. -/
structure Isolated (engine : Engine) (rules args : Entries) (result : CheckResult)
    (name reason : String) : Prop where
  /-- There is one violation for it, and it says why the entry cannot be used. -/
  reported : ∃ violation, result.violations.filter (·.argName = name) = [violation] ∧
    violation.reasons = [reason]
  /-- Its argument is left as it is. -/
  unchanged : result.changes.get? name = none ∧ result.args.get? name = args.named.get? name
  /-- Apart from that, the result is that of the call without the entry and its argument. -/
  otherwise : ∃ others, (engine.evaluate (.map (rules.outside (· = name)))
      (.map (args.outside (· = name)))).answer = .ok others ∧
    others.violations = result.violations.filter (·.argName ≠ name) ∧
    others.changes = result.changes ∧ others.args = result.args.filter (·.1 ≠ name)

variable {engine : Engine} {checkNames : Bool} {key entry value : Value} {verdict : Verdict}
  {reason : String}

/-- The verdict on an entry that is no rule is a violation with the reason, and no change. -/
theorem Judged.described_of_unusable (h : Judged engine checkNames key entry value verdict)
    (hentry : Rule.ofEntry entry = .ok (.error reason)) :
    ∃ violation, verdict = ⟨none, some violation⟩ ∧
      Violation.describe key entry value (.ok [reason]) = .ok violation := by
  cases h with
  | unusable parsed described =>
    obtain rfl := Except.error.inj (Except.ok.inj (parsed.symm.trans hentry))
    exact ⟨_, rfl, described⟩
  | missing parsed | exemptDefault parsed | default parsed | exempt parsed | checked parsed =>
    have h := Except.ok.inj (parsed.symm.trans hentry)
    contradiction

theorem Judged.of_unusable (h : Judged engine checkNames key entry value verdict)
    (hentry : Rule.ofEntry entry = .ok (.error reason)) :
    ∃ violation, verdict = ⟨none, some violation⟩ ∧ violation.reasons = [reason] := by
  obtain ⟨violation, rfl, hdescribed⟩ := h.described_of_unusable hentry
  exact ⟨violation, rfl, (Violation.describe_eq_ok hdescribed).1⟩

variable {ruleMap argMap : Value} {rules args : Entries} {result : CheckResult} {name : String}

/-- In an assessment, the verdict on an entry that cannot be used has no change. -/
theorem change_of_unusable (hmode : engine.mode ≠ .off) (hrules : TextKeyed rules)
    {verdicts : Table Value Verdict} {extra : List Violation}
    (h : engine.assess rules args = .ok (verdicts, extra))
    (hentry : rules.get? (.text name) = some entry)
    (hunusable : Rule.ofEntry entry = .ok (.error reason)) {found : Value × Verdict}
    (hfound : found ∈ verdicts) (hname : found.1.asText?.any (· = name) = true) :
    found.2.change = none := by
  obtain ⟨policy, hpolicy, hverdicts, -⟩ := assess_eq_ok.mp h
  obtain ⟨key, verdict⟩ := found
  obtain ⟨raw, hraw, hjudged⟩ := exists_judged_of_mem hverdicts hfound
  rw [(Policy.follows_of_ofMode hmode hpolicy).judged_eq hrules] at hraw
  obtain ⟨other, hother, -, hget⟩ := get?_of_mem_judgedEntries hrules hraw
  obtain rfl : other = name := by simpa [hother] using hname
  obtain rfl := Option.some.inj (hentry.symm.trans hget)
  obtain ⟨violation, rfl, -⟩ := hjudged.of_unusable hunusable
  rfl

/-- **An entry that cannot be used is isolated in every result.** -/
theorem isolated_of_evaluate (hmode : engine.mode ≠ .off) (hruleMap : ruleMap.asMap? = some rules)
    (hargMap : argMap.asMap? = some args) (hrules : TextKeyed rules) (hargs : TextKeyed args)
    (h : (engine.evaluate ruleMap argMap).answer = .ok result)
    (hjudges : engine.judges rules name = true) (hentry : rules.get? (.text name) = some entry)
    (hunusable : Rule.ofEntry entry = .ok (.error reason)) :
    engine.Isolated rules args result name reason := by
  obtain ⟨verdicts, extra, hassess, rfl⟩ :=
    (evaluate_eq_ok_iff_assess hmode hruleMap hargMap hrules hargs).mp h
  obtain ⟨policy, hpolicy, hverdicts, -⟩ := assess_eq_ok.mp hassess
  have haccount := account_of_assess hmode hrules hargs hassess
  have hkeyed := textKeyed_of_assess hrules hassess
  have hjudged : TextKeyed (policy.judged rules) :=
    hrules.of_keys_sublist (List.filter_sublist.map _)
  have hthere : name ∈ rules.named.keys := by
    rw [← Table.get?_named_text] at hentry
    exact Table.mem_keys_of_get? hentry
  have hchanges : changesOf (verdicts.outside (· = name)) = changesOf verdicts :=
    changesOf_outside fun found => change_of_unusable hmode hrules hassess hentry hunusable
  have hothers : engine.assess (rules.outside (· = name)) (args.outside (· = name)) =
      .ok (verdicts.outside (· = name), extra) := by
    refine assess_outside hmode hrules (fun other hother => ?_) hassess
    obtain rfl := of_decide_eq_true hother
    exact ⟨hjudges, hthere⟩
  have hrest := (evaluate_eq_ok_iff_assess hmode (Value.asMap?_map _) (Value.asMap?_map _)
    (hrules.outside (· = name)) (hargs.outside (· = name))).mpr ⟨_, _, hothers, rfl⟩
  obtain ⟨_, verdict, -, hverdict, hchange, hsole⟩ :=
    haccount.exists_sole_verdict hrules hargs hjudges hentry
  obtain ⟨violation, rfl, hreasons⟩ := hverdict.of_unusable hunusable
  refine ⟨⟨violation, hsole, hreasons⟩, ⟨hchange, ?_⟩, _, hrest, ?_, ?_, ?_⟩
  · rw [haccount.get?_args hrules, hchange]
    rfl
  · have hkept : extra.filter (·.argName ≠ name) = extra := by
      have hextra := List.filter_eq_nil_iff.mp (haccount.filter_leftOver hargs hjudges hentry)
      exact List.filter_eq_self.mpr (by simpa using hextra)
    rw [CheckResult.ofVerdicts, CheckResult.ofVerdicts, List.filter_append, hkept,
      hkeyed.outside_eq, ← filter_violationsOf hverdicts hjudged]
    simp only [decide_not]
  · rw [CheckResult.ofVerdicts, CheckResult.ofVerdicts, hchanges]
  · have hvisible : ∀ other ∈ (verdicts.outside (· = name)).named.keys,
        decide (other = name) = false := by
      intro other hother
      rw [Table.named_outside] at hother
      obtain ⟨verdict, hmem⟩ := Table.mem_keys_iff.mp hother
      exact (Bool.not_eq_true' _).mp (List.mem_filter.mp hmem).2
    have hsame := congrArg CheckResult.args (CheckResult.outside_ofVerdicts hvisible args extra)
    rw [← hsame]
    simp only [CheckResult.outside, CheckResult.ofVerdicts, hchanges, decide_not]

end Engine

end ArgRules
