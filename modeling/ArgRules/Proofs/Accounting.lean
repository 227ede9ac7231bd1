import ArgRules.Proofs.Account

/-!
# Every name is accounted for once

The violations of a result come in two parts. The first part has at most one violation for each
entry that is judged, in the order of the rule map. The second part has one violation for each
argument that is left over, in the order of the argument map, unless arguments without a rule are
allowed. No name is in both parts, since a name that is left over is that of no rule.

An argument whose name begins with an underscore is in the second part even if the rule map has an
entry under that name: such an entry is a directive.

## Main definitions

* `Accounted` — what it means that two parts account for every name once

## Main results

* `argNames_violationsOf` — the names of the first part are those of judged entries
* `Engine.accounted_of_evaluate` — every result accounts for every name once
-/

namespace ArgRules

/-- The violations of a result in two parts account for every name once. -/
structure Accounted (engine : Engine) (rules args : Entries) (first second : List Violation) :
    Prop where
  /-- No name has two violations. -/
  once : (argNames (first ++ second)).Nodup
  /-- The first part follows the rule map, and has names of entries that are judged only. -/
  judged : (argNames first).Sublist (rules.named.keys.filter (engine.judges rules))
  /-- The second part is complete, in the order of the argument map, or it is empty. -/
  leftOver : argNames second =
    if engine.allowsExtra rules then [] else args.named.keys.filter (engine.leavesOver rules)
  /-- The violations of the first part have reasons. -/
  reasons : ∀ violation ∈ first, violation.reasons ≠ []
  /-- A skipped name has no violation. -/
  skipped : ∀ name, engine.skips rules name = true → name ∉ argNames (first ++ second)
  /-- The name of a directive is never in the first part. An argument with such a name is in the
  second part, whatever the rule map has under it. -/
  directive : ∀ name, Directive.isName name = true → name ∉ argNames first ∧
    (name ∈ args.named.keys → engine.skips rules name = false → engine.allowsExtra rules = false →
      name ∈ argNames second)

/-! ### The first part -/

theorem Engine.keys_named_judgedEntries (engine : Engine) (rules : Entries) :
    (engine.judgedEntries rules).named.keys = rules.named.keys.filter (engine.judges rules) := by
  rw [Engine.judgedEntries]
  generalize engine.judges rules = judges
  induction rules with
  | nil => rfl
  | cons entry rest ih =>
    obtain ⟨key, raw⟩ := entry
    cases hkey : key.asText? with
    | none => simp [Table.named_cons_of_none hkey, hkey, ih]
    | some name =>
      rw [Table.named_cons_of_text hkey, Table.keys_cons, List.filter_cons, List.filter_cons,
        hkey, Option.any_some]
      split
      · rw [Table.named_cons_of_text hkey, Table.keys_cons, ih]
      · exact ih

/-- The violations of verdicts have names of the entries, at most one for each, and in order. -/
theorem argNames_violationsOf {engine : Engine} {checkNames : Bool} {args entries : Entries}
    {verdicts : Table Value Verdict} (hentries : TextKeyed entries)
    (h : List.Forall₂ (fun entry verdict => verdict.1 = entry.1 ∧
      Engine.Judged engine checkNames entry.1 entry.2 (Engine.argument args entry.1) verdict.2)
      entries verdicts) :
    (argNames (violationsOf verdicts)).Sublist entries.named.keys ∧
      ∀ violation ∈ violationsOf verdicts, violation.reasons ≠ [] := by
  induction h with
  | nil => exact ⟨.slnil, by simp [violationsOf]⟩
  | @cons entry verdict entries verdicts head _ ih =>
    obtain ⟨key, raw⟩ := entry
    obtain ⟨_, change, violation⟩ := verdict
    obtain ⟨rfl, hjudged⟩ := head
    obtain ⟨name, hname, -⟩ := hentries.head
    obtain ⟨hsub, hreasons⟩ := ih hentries.tail
    rw [Table.named_cons_of_text hname, Table.keys_cons]
    cases violation with
    | none => exact ⟨hsub.cons _, hreasons⟩
    | some violation =>
      obtain ⟨hsome, htext⟩ := hjudged.violation_spec rfl
      rw [Reading.text_of_asText? hname, Except.ok.injEq] at htext
      subst htext
      refine ⟨hsub.cons_cons _, fun v hv => ?_⟩
      rcases List.mem_cons.mp hv with rfl | hv
      · exact hsome
      · exact hreasons v hv

/-! ### Both parts -/

/-- **Every result accounts for every name once.** -/
theorem Engine.accounted_of_evaluate {engine : Engine} {ruleMap argMap : Value}
    {rules args : Entries} {result : CheckResult} (hmode : engine.mode ≠ .off)
    (hruleMap : ruleMap.asMap? = some rules) (hargMap : argMap.asMap? = some args)
    (hrules : TextKeyed rules) (hargs : TextKeyed args)
    (h : (engine.evaluate ruleMap argMap).answer = .ok result) :
    ∃ first second, result.violations = first ++ second ∧
      Accounted engine rules args first second := by
  obtain ⟨verdicts, extra, haccount⟩ :=
    exists_account_of_evaluate hmode hruleMap hargMap hrules hargs h
  refine ⟨violationsOf verdicts, extra, haccount.violations, ?_⟩
  obtain ⟨hfirst, hreasons⟩ := argNames_violationsOf
    (hrules.of_keys_sublist ((engine.judgedEntries_sublist rules).map _)) haccount.judged
  rw [engine.keys_named_judgedEntries] at hfirst
  have hsecond := haccount.argNames_leftOver hargs
  have hjudges : ∀ name ∈ argNames (violationsOf verdicts),
      name ∈ rules.named.keys ∧ engine.judges rules name = true :=
    fun name hname => List.mem_filter.mp (hfirst.subset hname)
  have hleaves : ∀ name ∈ argNames extra, engine.leavesOver rules name = true := by
    intro name hname
    rw [hsecond] at hname
    split at hname
    · contradiction
    · exact (List.mem_filter.mp hname).2
  have hsplit : argNames (violationsOf verdicts ++ extra) =
      argNames (violationsOf verdicts) ++ argNames extra :=
    List.map_append
  refine ⟨?_, hfirst, hsecond, hreasons, fun name hskips => ?_,
    fun name hdirective => ⟨fun hname => ?_, fun hmem hskips hextra => ?_⟩⟩
  · rw [hsplit, List.nodup_append]
    refine ⟨hfirst.nodup (hrules.distinct.filter _), ?_, ?_⟩
    · rw [hsecond]
      split
      · exact List.nodup_nil
      · exact hargs.distinct.filter _
    · rintro name hname _ hleft rfl
      obtain ⟨hmem, hjudge⟩ := hjudges name hname
      have hleave := hleaves name hleft
      simp [judges, leavesOver, Table.contains_iff.mpr hmem] at hjudge hleave
      simp [hjudge.1] at hleave
  · rw [hsplit, List.mem_append]
    rintro (hname | hname)
    · simpa [judges, hskips] using (hjudges name hname).2
    · simpa [leavesOver, hskips] using hleaves name hname
  · simpa [judges, hdirective] using (hjudges name hname).2
  · rw [hsecond, if_neg (by simp [hextra]), List.mem_filter]
    exact ⟨hmem, by simp [leavesOver, hskips, hdirective]⟩

/-- In the sample the first part has the shape, and the second part the weight. -/
theorem Engine.accounted_of_sample :
    (Engine.default.evaluate (.map Sample.rules) (.map Sample.args)).answer = .ok Sample.result ∧
      argNames Sample.result.violations = ["shape", "weight"] ∧
      ∃ first second, Sample.result.violations = first ++ second ∧
        Accounted Engine.default Sample.rules Sample.args first second :=
  ⟨Sample.evaluate_eq, rfl, accounted_of_evaluate (by decide) rfl rfl Sample.textKeyed_rules
    Sample.textKeyed_args Sample.evaluate_eq⟩

end ArgRules
