import ArgRules.Proofs.Account

/-!
# The ledger of changes

The changes of a result are a ledger of what an evaluation did to the argument map. Each entry has
what was there before and what is there now; whatever has no entry was left alone.

## Replaying and undoing

Replaying the ledger over the argument map gives the arguments of the result, entry by entry and in
the same order. Undoing it gives the argument map back, up to names that were not there: these now
have the mark of absence, which is what reading them had given before.

## Main definitions

* `Ledger` — what it means that changes are exact

## Main results

* `Account.get?_changes`, `Account.exists_verdict` — the change of a name is that of its verdict
* `Account.exists_judged_of_passed` — in a result that has passed, no verdict has a violation
* `Engine.ledger_of_evaluate` — the changes of every result are exact
-/

namespace ArgRules

/-! ### Looking up a verdict -/

/-- The change at a name is that of the verdict on it. -/
theorem get?_changesOf {verdicts : Table Value Verdict} (h : TextKeyed verdicts) (name : String) :
    (changesOf verdicts).get? (.text name) = (verdicts.get? (.text name)).bind (·.change) := by
  induction verdicts with
  | nil => rfl
  | cons entry rest ih =>
    obtain ⟨k, change, violation⟩ := entry
    obtain ⟨s, hs, hfresh⟩ := h.head
    rw [Table.get?_cons]
    cases change with
    | some change =>
      change Table.get? ((k, change) :: changesOf rest) (.text name) = _
      rw [Table.get?_cons, ih h.tail]
      split <;> rfl
    | none =>
      change (changesOf rest).get? (.text name) = _
      split
      · next heq =>
        have hsame := Value.beq_text_iff.mp heq
        obtain rfl := Option.some.inj (hs.symm.trans hsame)
        rw [← Table.get?_named_text, Table.get?_eq_none_iff.mpr]
        · rfl
        · rw [Table.keys_named]
          rw [Table.keys_named] at hfresh
          exact fun hmem => hfresh (((keys_changesOf_sublist rest).filterMap _).subset hmem)
      · exact ih h.tail

/-- The violations with a name are that of the verdict on it, if it has one. -/
theorem filter_violationsOf_name {verdicts : Table Value Verdict} (h : TextKeyed verdicts)
    (hnamed : ∀ entry ∈ verdicts, ∀ violation ∈ entry.2.violation,
      Reading.text entry.1 = .ok violation.argName) (name : String) :
    (violationsOf verdicts).filter (·.argName = name) =
      ((verdicts.get? (.text name)).bind (·.violation)).toList := by
  induction verdicts with
  | nil => rfl
  | cons entry rest ih =>
    obtain ⟨k, change, violation⟩ := entry
    obtain ⟨s, hs, hfresh⟩ := h.head
    have hrest := ih h.tail fun entry hentry => hnamed entry (List.mem_cons_of_mem _ hentry)
    rw [Table.get?_cons]
    by_cases heq : (k == .text name) = true
    · -- No verdict after this one has the name.
      obtain rfl := Option.some.inj (hs.symm.trans (Value.beq_text_iff.mp heq))
      have hnone : Table.get? rest (.text s) = none := by
        rw [← Table.get?_named_text]
        exact Table.get?_eq_none_iff.mpr hfresh
      rw [hnone] at hrest
      rw [if_pos heq]
      cases violation with
      | none => exact hrest
      | some violation =>
        have hfiled := hnamed _ List.mem_cons_self violation rfl
        rw [Reading.text_of_asText? hs, Except.ok.injEq] at hfiled
        change (violation :: violationsOf rest).filter (·.argName = s) = _
        rw [List.filter_cons_of_pos (by simp [← hfiled]), hrest]
        rfl
    · rw [if_neg heq, ← hrest]
      cases violation with
      | none => rfl
      | some violation =>
        have hfiled := hnamed _ List.mem_cons_self violation rfl
        rw [Reading.text_of_asText? hs, Except.ok.injEq] at hfiled
        change (violation :: violationsOf rest).filter (·.argName = name) = _
        refine List.filter_cons_of_neg ?_
        intro hname
        refine heq (Value.beq_text_iff.mpr ?_)
        rw [hs, hfiled, of_decide_eq_true hname]

/-- The entry of a name is judged or not, as the name says. -/
theorem Engine.get?_judgedEntries (engine : Engine) (rules : Entries) (name : String) :
    (engine.judgedEntries rules).get? (.text name) =
      if engine.judges rules name then rules.get? (.text name) else none := by
  rw [Engine.judgedEntries]
  generalize engine.judges rules = judges
  induction rules with
  | nil => simp
  | cons entry rest ih =>
    obtain ⟨k, raw⟩ := entry
    rw [Table.get?_cons]
    by_cases heq : (k == .text name) = true
    · have hk := Value.beq_text_iff.mp heq
      rw [List.filter_cons]
      cases hj : judges name <;> simp [hk, hj, heq, ih, Table.get?_cons]
    · rw [if_neg heq, ← ih, List.filter_cons]
      split
      · rw [Table.get?_cons, if_neg heq]
      · rfl

/-- A name that is judged is not that of a directive. -/
theorem Engine.isName_of_judges {engine : Engine} {rules : Entries} {name : String}
    (h : engine.judges rules name = true) : Directive.isName name = false := by
  simp only [judges, Bool.and_eq_true, Bool.not_eq_true'] at h
  exact h.1

/-- The argument of an entry that is judged is not left over. -/
theorem Engine.leavesOver_of_judges {engine : Engine} {rules : Entries} {name : String}
    (hjudges : engine.judges rules name = true) (hthere : name ∈ rules.named.keys) :
    engine.leavesOver rules name = false := by
  rw [leavesOver, isName_of_judges hjudges, Table.contains_iff.mpr hthere]
  simp

/-- A judged entry is what the rule map has under its name. -/
theorem Engine.get?_of_mem_judgedEntries {engine : Engine} {rules : Entries}
    (hrules : TextKeyed rules) {key raw : Value}
    (h : (key, raw) ∈ engine.judgedEntries rules) :
    ∃ name, key.asText? = some name ∧ engine.judges rules name = true ∧
      rules.get? (.text name) = some raw := by
  obtain ⟨hmem, hjudges⟩ := List.mem_filter.mp h
  obtain ⟨name, hname⟩ := hrules.isText key (Table.mem_keys_of_mem hmem)
  rw [hname, Option.any_some] at hjudges
  refine ⟨name, hname, hjudges, ?_⟩
  rw [← Table.get?_named_text]
  exact Table.get?_of_mem hrules.distinct (Table.mem_named.mpr ⟨key, hname, hmem⟩)

/-- What an argument map has under a name does not depend on how the name is written. -/
theorem Engine.argument_eq {key : Value} {name : String} (h : key.asText? = some name)
    (args : Entries) : argument args key = argument args (.text name) := by
  rw [argument, argument, ← Table.get?_named h, ← Table.get?_named_text]

namespace Account

variable {engine : Engine} {rules args : Entries} {verdicts : Table Value Verdict}
  {extra : List Violation} {result : CheckResult}

theorem textKeyed (h : Account engine rules args verdicts extra result)
    (hrules : TextKeyed rules) : TextKeyed verdicts := by
  refine hrules.of_keys_sublist ?_
  rw [Table.keys_of_forall₂ h.judged]
  exact (engine.judgedEntries_sublist rules).map _

/-- **The change of a name is that of its verdict,** and names without a verdict have none. -/
theorem get?_changes (h : Account engine rules args verdicts extra result)
    (hrules : TextKeyed rules) (name : String) :
    result.changes.get? name = none ∧
        (engine.judges rules name = true → rules.get? (.text name) = none) ∨
      ∃ key raw verdict, key.asText? = some name ∧ engine.judges rules name = true ∧
        rules.get? (.text name) = some raw ∧
        Engine.Judged engine (engine.checksNames rules) key raw
          (Engine.argument args (.text name)) verdict ∧
        result.changes.get? name = verdict.change := by
  rw [h.changes, Table.get?_named_text, get?_changesOf (h.textKeyed hrules)]
  have hentry := engine.get?_judgedEntries rules name
  rcases Table.get?_of_forall₂ h.judged (.text name) with
    ⟨hnone, hverdict⟩ | ⟨key, raw, verdict, heq, hraw, hverdict, hjudged⟩
  · refine Or.inl ⟨by rw [hverdict]; rfl, fun hjudges => ?_⟩
    rwa [hentry, if_pos hjudges] at hnone
  · have hkey := Value.beq_text_iff.mp heq
    rw [hentry, Option.ite_none_right_eq_some] at hraw
    rw [Engine.argument_eq hkey] at hjudged
    exact Or.inr ⟨key, raw, verdict, hkey, hraw.1, hraw.2, hjudged, by rw [hverdict]; rfl⟩

/-- A judged entry has a verdict, whose change is that of the name. -/
theorem exists_get?_verdicts (h : Account engine rules args verdicts extra result)
    (hrules : TextKeyed rules) {name : String} {raw : Value}
    (hjudges : engine.judges rules name = true) (hraw : rules.get? (.text name) = some raw) :
    ∃ key verdict, key.asText? = some name ∧ verdicts.get? (.text name) = some verdict ∧
      Engine.Judged engine (engine.checksNames rules) key raw
        (Engine.argument args (.text name)) verdict ∧
      result.changes.get? name = verdict.change := by
  have hentry := engine.get?_judgedEntries rules name
  rw [if_pos hjudges, hraw] at hentry
  rcases Table.get?_of_forall₂ h.judged (.text name) with
    ⟨hnone, -⟩ | ⟨key, found, verdict, heq, hfound, hverdict, hjudged⟩
  · rw [hentry] at hnone
    contradiction
  · obtain rfl := Option.some.inj (hfound.symm.trans hentry)
    have hkey := Value.beq_text_iff.mp heq
    rw [Engine.argument_eq hkey] at hjudged
    refine ⟨key, verdict, hkey, hverdict, hjudged, ?_⟩
    rw [h.changes, Table.get?_named_text, get?_changesOf (h.textKeyed hrules), hverdict]
    rfl

/-- A judged entry has a verdict, whose change and violation are in the result. -/
theorem exists_verdict (h : Account engine rules args verdicts extra result)
    (hrules : TextKeyed rules) {name : String} {raw : Value}
    (hjudges : engine.judges rules name = true) (hraw : rules.get? (.text name) = some raw) :
    ∃ key verdict, key.asText? = some name ∧
      Engine.Judged engine (engine.checksNames rules) key raw
        (Engine.argument args (.text name)) verdict ∧
      result.changes.get? name = verdict.change ∧
      ∀ violation ∈ verdict.violation, violation ∈ result.violations := by
  obtain ⟨key, verdict, hkey, hverdict, hjudged, hchange⟩ :=
    h.exists_get?_verdicts hrules hjudges hraw
  refine ⟨key, verdict, hkey, hjudged, hchange, fun violation hviolation => ?_⟩
  obtain ⟨other, -, hmem⟩ := Table.mem_of_get?_cons hverdict
  rw [h.violations]
  exact List.mem_append_left _ (List.mem_filterMap.mpr ⟨_, hmem, hviolation⟩)

/-- The violations with a name are that of its verdict and those of arguments left over. -/
theorem filter_violations (h : Account engine rules args verdicts extra result)
    (hrules : TextKeyed rules) (name : String) :
    result.violations.filter (·.argName = name) =
      ((verdicts.get? (.text name)).bind (·.violation)).toList ++
        extra.filter (·.argName = name) := by
  have hnamed : ∀ entry ∈ verdicts, ∀ violation ∈ entry.2.violation,
      Reading.text entry.1 = .ok violation.argName := by
    intro entry hentry violation hviolation
    obtain ⟨n, hn, rfl⟩ := List.getElem_of_mem hentry
    have hlength : n < (engine.judgedEntries rules).length := h.judged.length_eq ▸ hn
    obtain ⟨hkey, hjudged⟩ := h.judged.get hlength hn
    simp only [List.get_eq_getElem] at hkey hjudged
    rw [hkey]
    exact (hjudged.violation_spec hviolation).2
  rw [h.violations, List.filter_append, filter_violationsOf_name (h.textKeyed hrules) hnamed]

/-- The argument of a judged entry is not left over. -/
theorem filter_leftOver (h : Account engine rules args verdicts extra result)
    (hargs : TextKeyed args) {name : String} {raw : Value}
    (hjudges : engine.judges rules name = true) (hraw : rules.get? (.text name) = some raw) :
    extra.filter (·.argName = name) = [] := by
  refine List.filter_eq_nil_iff.mpr fun violation hviolation hname => ?_
  have hleft : name ∈ argNames extra :=
    of_decide_eq_true hname ▸ List.mem_map_of_mem hviolation
  have hthere : name ∈ rules.named.keys :=
    Table.mem_keys_of_get? (by rw [Table.get?_named_text, hraw])
  rw [h.argNames_leftOver hargs] at hleft
  split at hleft
  · simp at hleft
  · simpa [Engine.leavesOver_of_judges hjudges hthere] using (List.mem_filter.mp hleft).2

/-- **A judged entry has one verdict,** whose change is that of its name and whose violation is the
only one with its name. -/
theorem exists_sole_verdict (h : Account engine rules args verdicts extra result)
    (hrules : TextKeyed rules) (hargs : TextKeyed args) {name : String} {raw : Value}
    (hjudges : engine.judges rules name = true) (hraw : rules.get? (.text name) = some raw) :
    ∃ key verdict, key.asText? = some name ∧
      Engine.Judged engine (engine.checksNames rules) key raw
        (Engine.argument args (.text name)) verdict ∧
      result.changes.get? name = verdict.change ∧
      result.violations.filter (·.argName = name) = verdict.violation.toList := by
  obtain ⟨key, verdict, hkey, hverdict, hjudged, hchange⟩ :=
    h.exists_get?_verdicts hrules hjudges hraw
  refine ⟨key, verdict, hkey, hjudged, hchange, ?_⟩
  rw [h.filter_violations hrules, hverdict, h.filter_leftOver hargs hjudges hraw, List.append_nil]
  rfl

/-- In a result that has passed, the verdict on a judged entry has no violation. -/
theorem exists_judged_of_passed (h : Account engine rules args verdicts extra result)
    (hrules : TextKeyed rules) (hpassed : result.violations = []) {name : String} {raw : Value}
    (hjudges : engine.judges rules name = true) (hraw : rules.get? (.text name) = some raw) :
    ∃ key, key.asText? = some name ∧ Engine.Judged engine (engine.checksNames rules) key raw
      (Engine.argument args (.text name)) ⟨result.changes.get? name, none⟩ := by
  obtain ⟨key, ⟨change, violation⟩, hkey, hjudged, rfl, hviolation⟩ :=
    h.exists_verdict hrules hjudges hraw
  rw [hpassed] at hviolation
  obtain rfl : violation = none :=
    Option.eq_none_iff_forall_not_mem.mpr fun v hv => by simpa using hviolation v hv
  exact ⟨key, hkey, hjudged⟩

theorem nodup_changes (h : Account engine rules args verdicts extra result)
    (hrules : TextKeyed rules) : result.changes.keys.Nodup := by
  rw [h.changes]
  exact ((h.textKeyed hrules).of_keys_sublist (keys_changesOf_sublist verdicts)).distinct

/-- Replaying the changes over the argument map gives the arguments. -/
theorem replay (h : Account engine rules args verdicts extra result) :
    result.args = args.named.putAll (writesOf result.changes) := by
  rw [h.args, h.changes, writesOf, Table.named_map_snd, writesOf]

end Account

/-! ### Exact changes -/

/-- The changes of a result are exact. -/
structure Ledger (engine : Engine) (rules args : Entries) (result : CheckResult) : Prop where
  /-- What the arguments have under a name is what its change says, or what was there. -/
  after : ∀ name, (result.args.get? name).getD .undefined =
    match result.changes.get? name with
    | some change => change.after
    | none => Engine.argument args (.text name)
  /-- What a change says to have been there was there. -/
  before : ∀ name, ∀ change ∈ result.changes.get? name,
    change.before = Engine.argument args (.text name)
  /-- Replaying the changes over the argument map gives the arguments. -/
  replay : result.args = args.named.putAll (writesOf result.changes)
  /-- Undoing the changes gives the argument map back, up to names that were not there. -/
  undo : ∃ absent, (∀ entry ∈ absent, entry.2 = .undefined) ∧
    result.args.putAll (result.changes.map fun (name, change) => (name, change.before)) =
      args.named ++ absent
  /-- Wherever the arguments are not what they were, there is a change. -/
  complete : ∀ name, result.args.get? name ≠ args.named.get? name →
    name ∈ result.changes.keys
  /-- A default is put in exactly if the entry of the name is judged and is a rule with a default,
  and the argument is absent. -/
  default_iff : ∀ name,
    (∃ change ∈ result.changes.get? name, change.action = .default) ↔
      engine.judges rules name = true ∧ Engine.argument args (.text name) = .undefined ∧
        ∃ entry rule, rules.get? (.text name) = some entry ∧
          Rule.ofEntry entry = .ok (.ok rule) ∧ rule.frame.hasDefault = true
  /-- What is put in is the default of the rule. -/
  default_after : ∀ name, ∀ change ∈ result.changes.get? name, change.action = .default →
    ∃ entry rule, rules.get? (.text name) = some entry ∧ Rule.ofEntry entry = .ok (.ok rule) ∧
      change.after = rule.default
  /-- Only the number of a required argument is moved, if it is outside the limits of a rule on
  numbers that allows it, and to one of these limits. -/
  clamp : ∀ name, ∀ change ∈ result.changes.get? name, change.action = .clamp →
    engine.judges rules name = true ∧ ∃ entry rule n limit,
      rules.get? (.text name) = some entry ∧ Rule.ofEntry entry = .ok (.ok rule) ∧
      rule.frame.isOptional = false ∧ rule.frame.constraint.moves = true ∧
      (rule.frame.constraint.kind? = some .integer ∨ rule.frame.constraint.kind? = some .number) ∧
      Engine.argument args (.text name) = .number n ∧
      ¬ n.Within rule.frame.constraint.lower rule.frame.constraint.upper ∧
      change.after = .number limit ∧
      (rule.frame.constraint.lower = some limit ∨ rule.frame.constraint.upper = some limit)

theorem Constraint.kind_of_moves {constraint : Constraint} (h : constraint.moves = true) :
    constraint.kind? = some .integer ∨ constraint.kind? = some .number := by
  cases constraint <;> simp_all [moves, kind?]

namespace Account

variable {engine : Engine} {rules args : Entries} {verdicts : Table Value Verdict}
  {extra : List Violation} {result : CheckResult}

theorem before_eq (h : Account engine rules args verdicts extra result) (hrules : TextKeyed rules)
    {name : String} {change : Change} (hchange : result.changes.get? name = some change) :
    change.before = Engine.argument args (.text name) := by
  rcases h.get?_changes hrules name with ⟨hnone, -⟩ | ⟨_, _, _, -, -, -, hjudged, heq⟩
  · rw [hnone] at hchange
    contradiction
  · exact (hjudged.change_spec (heq ▸ hchange)).1

/-- What the arguments have under a name. -/
theorem get?_args (h : Account engine rules args verdicts extra result) (hrules : TextKeyed rules)
    (name : String) : result.args.get? name =
      ((result.changes.get? name).map (·.after)).or (args.named.get? name) := by
  have hd : (writesOf result.changes).keys.Nodup := by
    rw [writesOf, Table.keys_map_snd]
    exact h.nodup_changes hrules
  rw [h.replay, Table.get?_putAll hd, writesOf, Table.get?_map_snd]

theorem after_eq (h : Account engine rules args verdicts extra result) (hrules : TextKeyed rules)
    (name : String) : (result.args.get? name).getD .undefined =
      match result.changes.get? name with
      | some change => change.after
      | none => Engine.argument args (.text name) := by
  rw [h.get?_args hrules]
  cases result.changes.get? name with
  | some change => rfl
  | none => rw [Engine.argument, ← Table.get?_named_text]; rfl

/-- Undoing the changes. The keys of the argument map come first and in order, since changes only
add keys at the end, and every entry is read as it was. -/
theorem undo (h : Account engine rules args verdicts extra result) (hrules : TextKeyed rules)
    (hargs : TextKeyed args) :
    ∃ absent, (∀ entry ∈ absent, entry.2 = .undefined) ∧
      result.args.putAll (result.changes.map fun (name, change) => (name, change.before)) =
        args.named ++ absent := by
  generalize hundone : result.args.putAll
    (result.changes.map fun (name, change) => (name, change.before)) = undone
  have hread : ∀ name, (undone.get? name).getD .undefined =
      (args.named.get? name).getD .undefined := by
    intro name
    rw [← hundone, Table.get?_putAll (by rw [Table.keys_map_snd]; exact h.nodup_changes hrules),
      Table.get?_map_snd]
    have hafter := h.after_eq hrules name
    cases hchange : result.changes.get? name with
    | some change =>
      rw [Table.get?_named_text]
      exact h.before_eq hrules hchange
    | none =>
      rw [hchange] at hafter
      rw [Table.get?_named_text]
      exact hafter
  have hnodup : undone.keys.Nodup := by
    rw [← hundone, h.replay]
    exact Table.nodup_keys_putAll (Table.nodup_keys_putAll hargs.distinct _) _
  have hold : undone.keys = result.args.keys := by
    rw [← hundone]
    refine Table.keys_putAll_of_subset fun name hname => ?_
    rw [Table.keys_map_snd] at hname
    by_contra hmissing
    have hread := h.get?_args hrules name
    rw [Table.get?_eq_none_iff.mpr hmissing, eq_comm, Option.or_eq_none_iff,
      Option.map_eq_none_iff, Table.get?_eq_none_iff] at hread
    exact hread.1 hname
  obtain ⟨new, hnew⟩ := Table.exists_keys_putAll args.named (writesOf result.changes)
  rw [← h.replay, ← hold] at hnew
  exact Table.exists_append_of_getD_eq _ hnew hnodup hread

/-- A default is put in exactly where it is called for. -/
theorem default_iff (h : Account engine rules args verdicts extra result)
    (hrules : TextKeyed rules) (name : String) :
    (∃ change ∈ result.changes.get? name, change.action = .default) ↔
      engine.judges rules name = true ∧ Engine.argument args (.text name) = .undefined ∧
        ∃ entry rule, rules.get? (.text name) = some entry ∧
          Rule.ofEntry entry = .ok (.ok rule) ∧ rule.frame.hasDefault = true := by
  rcases h.get?_changes hrules name with
    ⟨hnone, hfree⟩ | ⟨_, entry, verdict, -, hjudges, hentry, hjudged, heq⟩
  · rw [hnone]
    refine ⟨by simp, fun ⟨hjudges, _, entry, _, hentry, _⟩ => ?_⟩
    rw [hfree hjudges] at hentry
    contradiction
  · rw [heq, hjudged.default_iff]
    simp only [hjudges, hentry, Option.some.injEq, exists_and_left, exists_eq_left', true_and]
    constructor
    · rintro ⟨rule, hparsed, habsent, hdefault⟩
      exact ⟨habsent, rule, hparsed, hdefault⟩
    · rintro ⟨habsent, rule, hparsed, hdefault⟩
      exact ⟨rule, hparsed, habsent, hdefault⟩

theorem default_after (h : Account engine rules args verdicts extra result)
    (hrules : TextKeyed rules) {name : String} {change : Change}
    (hchange : result.changes.get? name = some change) (haction : change.action = .default) :
    ∃ entry rule, rules.get? (.text name) = some entry ∧ Rule.ofEntry entry = .ok (.ok rule) ∧
      change.after = rule.default := by
  rcases h.get?_changes hrules name with ⟨hnone, -⟩ | ⟨_, entry, _, -, -, hentry, hjudged, heq⟩
  · rw [hnone] at hchange
    contradiction
  · obtain ⟨-, rule, hparsed, ⟨-, hafter⟩ | ⟨hclamp, -⟩⟩ := hjudged.change_spec (heq ▸ hchange)
    · exact ⟨entry, rule, hentry, hparsed, hafter⟩
    · rw [haction] at hclamp
      contradiction

/-- Only a number outside its limits is moved, and to one of them. -/
theorem clamp (h : Account engine rules args verdicts extra result)
    (hrules : TextKeyed rules) {name : String} {change : Change}
    (hchange : result.changes.get? name = some change) (haction : change.action = .clamp) :
    engine.judges rules name = true ∧ ∃ entry rule, rules.get? (.text name) = some entry ∧
      Rule.ofEntry entry = .ok (.ok rule) ∧ rule.frame.isOptional = false ∧
      rule.frame.constraint.MovesTo (Engine.argument args (.text name)) change.after := by
  rcases h.get?_changes hrules name with
    ⟨hnone, -⟩ | ⟨_, entry, _, -, hjudges, hentry, hjudged, heq⟩
  · rw [hnone] at hchange
    contradiction
  · obtain ⟨-, rule, hparsed, ⟨hdefault, -⟩ | ⟨-, hexamined, hmoves⟩⟩ :=
      hjudged.change_spec (heq ▸ hchange)
    · rw [haction] at hdefault
      contradiction
    · exact ⟨hjudges, entry, rule, hentry, hparsed, hexamined.2.1, hmoves⟩

end Account

/-- **The changes of every result are exact.** -/
theorem Engine.ledger_of_evaluate {engine : Engine} {ruleMap argMap : Value}
    {rules args : Entries} {result : CheckResult} (hmode : engine.mode ≠ .off)
    (hruleMap : ruleMap.asMap? = some rules) (hargMap : argMap.asMap? = some args)
    (hrules : TextKeyed rules) (hargs : TextKeyed args)
    (h : (engine.evaluate ruleMap argMap).answer = .ok result) :
    Ledger engine rules args result := by
  obtain ⟨verdicts, extra, haccount⟩ :=
    exists_account_of_evaluate hmode hruleMap hargMap hrules hargs h
  exact {
    after := haccount.after_eq hrules
    before := fun _ _ => haccount.before_eq hrules
    replay := haccount.replay
    undo := haccount.undo hrules hargs
    complete := fun name hne => by
      by_contra hmissing
      rw [haccount.get?_args hrules, Table.get?_eq_none_iff.mpr hmissing] at hne
      exact hne rfl
    default_iff := haccount.default_iff hrules
    default_after := fun _ _ => haccount.default_after hrules
    clamp := fun name change hchange haction => by
      obtain ⟨hjudges, entry, rule, hentry, hparsed, hrequired, n, limit, hvalue, hafter, hmoves,
        houtside, hlimit⟩ := haccount.clamp hrules hchange haction
      exact ⟨hjudges, entry, rule, n, limit, hentry, hparsed, hrequired, hmoves,
        Constraint.kind_of_moves hmoves, hvalue, houtside, hafter, hlimit⟩ }

/-- In the sample a number is moved and a default is put in. -/
theorem Engine.ledger_of_sample :
    (Engine.default.evaluate (.map Sample.rules) (.map Sample.args)).answer = .ok Sample.result ∧
      Ledger Engine.default Sample.rules Sample.args Sample.result :=
  ⟨Sample.evaluate_eq, ledger_of_evaluate (by decide) rfl rfl Sample.textKeyed_rules
    Sample.textKeyed_args Sample.evaluate_eq⟩

end ArgRules
