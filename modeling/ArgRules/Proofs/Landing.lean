import ArgRules.Proofs.Limits
import ArgRules.Proofs.EntryPoints
import ArgRules.Proofs.Spelling

/-!
# Where changes land

Keys can be any values, and a result files them by names that are texts. So what is checked under a
key is written under the name of that key: under the key itself if it is a text, and under the text
that it encodes if it is made of bytes. This module says where each change lands for any keys that
differ from each other, and what becomes of the other keys.

## Bytes

A map can hold bytes and the text that they encode, which are two keys with one name. In the
caller's map the change of the later rule is left under that name. In a result the two keys share
one place, which has the value of one of them. Keys with different names never meet.

## How it is shown

A pass writes to its working copy only at keys that have a name, since a result is made in the end
and all names are asked for. Such keys spell something, so what is written at them is read back at
them, and only at them (`Table.get?_put_of_spelling?`). So a pass judges every entry by itself, for
any keys that differ (`Engine.judgeAll_of_walk`).

## Main definitions

* `Engine.judgesKey` — whether an entry is judged, for any key
* `Engine.Changes` — the change that a judged entry makes
* `Engine.WrittenBack`, `Engine.Gathered` — where changes land in the caller's map and in a result

## Main results

* `Engine.exists_tally_of_evaluate` — what a result is made of, for any keys that differ
* `Engine.lands_by_name` — every change lands under the name of its key
-/

namespace ArgRules

variable {engine : Engine} {checkNames : Bool} {rules args : Entries}

/-! ### What is judged and what changes -/

/-- Whether an entry with a key is judged: the key is neither that of a directive nor, in normal
mode, listed to be skipped. -/
def Engine.judgesKey (engine : Engine) (rules : Entries) (key : Value) : Bool :=
  !(Directive.isKey key ||
    (decide (engine.mode = .normal) && (Directive.listed rules).any (· == key)))

/-- A judged entry with a key makes a change. -/
def Engine.Changes (engine : Engine) (rules args : Entries) (key : Value) (change : Change) :
    Prop :=
  ∃ raw verdict, (key, raw) ∈ rules ∧ engine.judgesKey rules key = true ∧
    engine.judge (engine.checksNames rules) key raw (Engine.argument args key) = .ok verdict ∧
    verdict.change = some change

/-- No entry that comes after the one with a key makes a change under the same name. -/
def Engine.ChangesLast (engine : Engine) (rules args : Entries) (key : Value) (name : String) :
    Prop :=
  ∀ other change, engine.Changes rules args other change → [key, other].Sublist rules.keys →
    Reading.text other ≠ .ok name

/-- The value that a key is left with: that of the change made at it, or else its own. -/
def Engine.Leaves (engine : Engine) (rules args : Entries) (key value : Value) : Prop :=
  (∃ other change, engine.Changes rules args other change ∧ (other == key) = true ∧
      change.after = value) ∨
    (∀ other change, engine.Changes rules args other change → (other == key) = false) ∧
      args.get? key = some value

/-! ### A pass judges every entry by itself, for any keys that differ -/

theorem mem_changesOf {verdicts : Table Value Verdict} {key : Value} {change : Change} :
    (key, change) ∈ changesOf verdicts ↔
      ∃ verdict, (key, verdict) ∈ verdicts ∧ verdict.change = some change := by
  simp only [changesOf, List.mem_filterMap, Option.map_eq_some_iff, Prod.mk.injEq, Prod.exists]
  constructor
  · rintro ⟨_, verdict, hmem, _, hchange, rfl, rfl⟩
    exact ⟨verdict, hmem, hchange⟩
  · rintro ⟨verdict, hmem, hchange⟩
    exact ⟨key, verdict, hmem, change, hchange, rfl, rfl⟩

namespace Engine

/-- The verdicts are those on the entries. -/
theorem mem_judgeAll {entries : Entries} {verdicts : Table Value Verdict}
    (h : engine.judgeAll checkNames args entries = .ok verdicts) {key : Value}
    {verdict : Verdict} :
    (key, verdict) ∈ verdicts ↔ ∃ raw, (key, raw) ∈ entries ∧
      engine.judge checkNames key raw (argument args key) = .ok verdict := by
  induction entries generalizing verdicts with
  | nil =>
    obtain rfl := pure_eq_ok.mp h
    simp
  | cons entry rest ih =>
    obtain ⟨name, raw⟩ := entry
    obtain ⟨own, others, hown, hothers, rfl⟩ := judgeAll_cons_eq_ok.mp h
    rw [List.mem_cons, ih hothers]
    constructor
    · rintro (heq | ⟨other, hmem, hjudge⟩)
      · obtain ⟨rfl, rfl⟩ := Prod.mk.inj heq
        exact ⟨raw, List.mem_cons_self .., hown⟩
      · exact ⟨other, List.mem_cons_of_mem _ hmem, hjudge⟩
    · rintro ⟨other, hmem, hjudge⟩
      rcases List.mem_cons.mp hmem with heq | hmem
      · obtain ⟨rfl, rfl⟩ := Prod.mk.inj heq
        rw [hown] at hjudge
        exact Or.inl (by rw [Except.ok.inj hjudge])
      · exact Or.inr ⟨other, hmem, hjudge⟩

/-- Every entry that is judged has a verdict. -/
theorem exists_judge_of_judgeAll {entries : Entries} {verdicts : Table Value Verdict}
    (h : engine.judgeAll checkNames args entries = .ok verdicts) {key raw : Value}
    (hmem : (key, raw) ∈ entries) :
    ∃ verdict, engine.judge checkNames key raw (argument args key) = .ok verdict := by
  induction entries generalizing verdicts with
  | nil => simp at hmem
  | cons entry rest ih =>
    obtain ⟨name, given⟩ := entry
    obtain ⟨own, others, hown, hothers, rfl⟩ := judgeAll_cons_eq_ok.mp h
    rcases List.mem_cons.mp hmem with heq | hmem
    · obtain ⟨rfl, rfl⟩ := Prod.mk.inj heq
      exact ⟨own, hown⟩
    · exact ih hothers hmem

/-- Recording a verdict at a key that can be filed leaves the arguments under other keys. -/
theorem argument_record_of_ne {pass : Pass} {name key : Value} {verdict : Verdict}
    (hfile : Fileable (changesOf [(name, verdict)])) (hne : (name == key) = false) :
    argument ((pass.claim name).record name verdict).args key = argument pass.args key := by
  obtain ⟨change, violation⟩ := verdict
  cases change with
  | none => rfl
  | some change =>
    obtain ⟨spelling, hname⟩ := hfile.spelled name (by simp [changesOf])
    have hread : (pass.args.put name change.after).get? key = pass.args.get? key := by
      rw [Table.get?_put_of_spelling? hname, if_neg (by simp [hne])]
    exact congrArg (Option.getD · Value.undefined) hread

/-- **A pass judges every entry by itself,** for any keys that differ, if all that it has noted can
be filed. The induction is on the entries to come, which the working copy has not been written
at. -/
theorem judgeAll_of_walk {pass final : Pass} (hrules : Table.Apart rules)
    (hargs : ∀ key ∈ rules.keys, argument pass.args key = argument args key)
    (hfile : Fileable final.changes) (h : engine.walk checkNames pass rules = .ok final) :
    ∃ verdicts, engine.judgeAll checkNames args
        (rules.filter fun entry => !(Directive.isKey entry.1 || pass.claims entry.1)) =
          .ok verdicts ∧ final = pass.recordAll verdicts := by
  induction rules generalizing pass with
  | nil =>
    obtain rfl := pure_eq_ok.mp h
    exact ⟨[], rfl, rfl⟩
  | cons entry rest ih =>
    obtain ⟨name, raw⟩ := entry
    obtain ⟨hfresh, hrest⟩ := Table.apart_cons.mp hrules
    obtain ⟨next, hstep, hwalk⟩ := bind_eq_ok.mp h
    rcases step_cases hstep with ⟨hpassed, rfl⟩ | ⟨hjudged, verdict, hverdict, rfl⟩
    · rw [List.filter_cons_of_neg (by simp [hpassed])]
      exact ih hrest (fun key hkey => hargs key (List.mem_cons_of_mem _ hkey)) hwalk
    · have hown : Fileable (changesOf [(name, verdict)]) := by
        obtain ⟨others, -, rfl⟩ := exists_recordAll_of_walk hwalk
        rw [Pass.recordAll_changes, Pass.record_changes, ← Table.putAll_append] at hfile
        exact fun key hkey => hfile.of_putAll key (by simp [hkey])
      -- the step writes at its own key, and every entry to come has another one
      have hkept : ∀ key ∈ Table.keys rest,
          argument ((pass.claim name).record name verdict).args key = argument args key := by
        intro key hkey
        rw [argument_record_of_ne hown (hfresh key hkey)]
        exact hargs key (List.mem_cons_of_mem _ hkey)
      obtain ⟨verdicts, hverdicts, rfl⟩ := ih hrest hkept hwalk
      have hfilter : (rest.filter fun entry => !(Directive.isKey entry.1 ||
            ((pass.claim name).record name verdict).claims entry.1)) =
          rest.filter fun entry => !(Directive.isKey entry.1 || pass.claims entry.1) := by
        refine List.filter_congr fun entry hentry => ?_
        rw [Pass.claims_record_claim, hfresh entry.1 (List.mem_map_of_mem hentry),
          Bool.false_or]
      rw [hfilter] at hverdicts
      rw [hargs name (List.mem_cons_self ..)] at hverdict
      rw [List.filter_cons_of_pos (by simpa using hjudged)]
      exact ⟨_, judgeAll_cons_eq_ok.mpr ⟨verdict, verdicts, hverdict, hverdicts, rfl⟩, rfl⟩

/-- The keys of the changes come in the order of the rules. -/
theorem keys_changesOf_of_judgeAll {judges : Value × Value → Bool}
    {verdicts : Table Value Verdict}
    (h : engine.judgeAll checkNames args (rules.filter judges) = .ok verdicts) :
    (changesOf verdicts).keys.Sublist rules.keys := by
  refine (keys_changesOf_sublist verdicts).trans ?_
  rw [keys_of_judgeAll h]
  exact List.filter_sublist.map _

end Engine

/-- What a result is made of: the verdicts on the judged entries, and the working copy and the
changes as these verdicts say. -/
structure Tally (engine : Engine) (rules args : Entries) (verdicts : Table Value Verdict)
    (result : CheckResult) : Prop where
  judged : engine.judgeAll (engine.checksNames rules) args
    (rules.filter fun entry => engine.judgesKey rules entry.1) = .ok verdicts
  apart : Table.Apart (changesOf verdicts)
  namedChanges : Fileable (changesOf verdicts)
  namedArgs : Fileable (args.putAll (writesOf (changesOf verdicts)))
  args : result.args = Table.ofList (args.putAll (writesOf (changesOf verdicts))).filed
  changes : result.changes = Table.ofList (changesOf verdicts).filed
  passed : result.passed = true → ∀ found ∈ verdicts, found.2.violation = none

/-- **What a result is made of,** for any keys that differ. -/
theorem Engine.exists_tally_of_evaluate {ruleMap : Value} {result : CheckResult}
    (hmode : engine.mode ≠ .off) (hruleMap : ruleMap.asMap? = some rules)
    (hrules : Table.Apart rules)
    (h : (engine.evaluate ruleMap (.map args)).answer = .ok result) :
    ∃ verdicts, Tally engine rules args verdicts result := by
  obtain ⟨evaluation, heval, hresult⟩ := (evaluate_eq_ok hmode hruleMap rfl).mp h
  obtain ⟨policy, hpolicy, heval⟩ := bind_eq_ok.mp heval
  obtain ⟨pass, _, extra, hpass, -, -, rfl⟩ := evaluateUnder_eq_ok.mp heval
  obtain ⟨⟨hfileArgs, hfileChanges⟩, rfl⟩ := CheckResult.ofEvaluation_eq_ok.mp hresult
  have hstart := Pass.claimAll_start args policy.skipped
  obtain ⟨verdicts, hverdicts, rfl⟩ := judgeAll_of_walk hrules
    (fun key _ => by rw [hstart.1]) hfileChanges hpass
  have hjudged : (fun entry : Value × Value => !(Directive.isKey entry.1 ||
        ((Pass.start args).claimAll policy.skipped).claims entry.1)) =
      fun entry => engine.judgesKey rules entry.1 := by
    funext entry
    rw [Pass.claimAll_claims, judgesKey, ← Policy.skips_of_ofMode hmode hpolicy]
    simp [Pass.claims, Pass.start, Policy.skips]
  rw [hjudged, (Policy.follows_of_ofMode hmode hpolicy).checkNames] at hverdicts
  have hargs : (((Pass.start args).claimAll policy.skipped).recordAll verdicts).args =
      args.putAll (writesOf (changesOf verdicts)) := by
    rw [Pass.recordAll_args, hstart.1]
  have hchanges : (((Pass.start args).claimAll policy.skipped).recordAll verdicts).changes =
      Table.ofList (changesOf verdicts) := by
    rw [Pass.recordAll_changes, hstart.2.1, Table.ofList]
  have hviolations : (((Pass.start args).claimAll policy.skipped).recordAll verdicts).violations =
      violationsOf verdicts := by
    rw [Pass.recordAll_violations, hstart.2.2, List.nil_append]
  have hapart : Table.Apart (changesOf verdicts) :=
    hrules.of_sublist (keys_changesOf_of_judgeAll hverdicts)
  rw [Table.ofList_of_apart hapart] at hchanges
  simp only [hargs, hchanges, hviolations] at hfileArgs hfileChanges ⊢
  refine ⟨verdicts, hverdicts, hapart, hfileChanges, hfileArgs, rfl, rfl, fun hpassed => ?_⟩
  -- a result that has passed has no violations, so no verdict has one
  have hnone : violationsOf verdicts = [] := by
    rw [CheckResult.passed, List.isEmpty_iff] at hpassed
    exact (List.append_eq_nil_iff.mp hpassed).1
  simpa [violationsOf] using hnone

/-! ### What the tally says -/

namespace Tally

variable {verdicts : Table Value Verdict} {result : CheckResult}

/-- The changes of the verdicts are those that judged entries make. -/
theorem mem_changesOf_iff (h : Tally engine rules args verdicts result) {key : Value}
    {change : Change} :
    (key, change) ∈ changesOf verdicts ↔ engine.Changes rules args key change := by
  rw [mem_changesOf]
  constructor
  · rintro ⟨verdict, hmem, hchange⟩
    obtain ⟨raw, hentry, hjudge⟩ := (Engine.mem_judgeAll h.judged).mp hmem
    obtain ⟨hrule, hjudges⟩ := List.mem_filter.mp hentry
    exact ⟨raw, verdict, hrule, hjudges, hjudge, hchange⟩
  · rintro ⟨raw, verdict, hrule, hjudges, hjudge, hchange⟩
    have hentry : (key, raw) ∈ rules.filter fun entry => engine.judgesKey rules entry.1 :=
      List.mem_filter.mpr ⟨hrule, hjudges⟩
    exact ⟨verdict, (Engine.mem_judgeAll h.judged).mpr ⟨raw, hentry, hjudge⟩, hchange⟩

/-- What a judged entry has for a verdict. -/
theorem exists_verdict (h : Tally engine rules args verdicts result) {key raw : Value}
    (hrule : (key, raw) ∈ rules) (hjudges : engine.judgesKey rules key = true) :
    ∃ verdict, (key, verdict) ∈ verdicts ∧
      engine.judge (engine.checksNames rules) key raw (Engine.argument args key) =
        .ok verdict := by
  have hentry : (key, raw) ∈ rules.filter fun entry => engine.judgesKey rules entry.1 :=
    List.mem_filter.mpr ⟨hrule, hjudges⟩
  obtain ⟨verdict, hverdict⟩ := Engine.exists_judge_of_judgeAll h.judged hentry
  exact ⟨verdict, (Engine.mem_judgeAll h.judged).mpr ⟨raw, hentry, hverdict⟩, hverdict⟩

/-- The change that a verdict on a judged entry has is one that the entry makes. -/
theorem changes_of_verdict (h : Tally engine rules args verdicts result) {key : Value}
    {verdict : Verdict} (hmem : (key, verdict) ∈ verdicts) {change : Change}
    (hchange : verdict.change = some change) : engine.Changes rules args key change :=
  h.mem_changesOf_iff.mp (mem_changesOf.mpr ⟨verdict, hmem, hchange⟩)

/-- Every change has a name. -/
theorem exists_name (h : Tally engine rules args verdicts result) {key : Value} {change : Change}
    (hchanges : engine.Changes rules args key change) : ∃ name, Reading.text key = .ok name :=
  h.namedChanges key (Table.mem_keys_of_mem (h.mem_changesOf_iff.mpr hchanges))

/-- What is read in the working copy is the value that the key is left with. -/
theorem leaves_of_get? (h : Tally engine rules args verdicts result) {key value : Value}
    (hread : (args.putAll (writesOf (changesOf verdicts))).get? key = some value) :
    engine.Leaves rules args key value := by
  have hkeys : (writesOf (changesOf verdicts)).keys = (changesOf verdicts).keys :=
    Table.keys_map_snd ..
  have hspelled : Table.Spelled (writesOf (changesOf verdicts)) := by
    rw [Table.Spelled, hkeys]
    exact h.namedChanges.spelled
  have hapart : Table.Apart (writesOf (changesOf verdicts)) := by
    rw [Table.Apart, hkeys]
    exact h.apart
  rw [Table.get?_putAll_of_spelled hspelled hapart] at hread
  cases hwritten : (writesOf (changesOf verdicts)).get? key with
  | some written =>
    rw [hwritten, Option.some_or] at hread
    obtain ⟨other, hother, hmem⟩ := Table.mem_of_get?_cons hwritten
    obtain ⟨⟨_, change⟩, hchange, heq⟩ := List.mem_map.mp hmem
    obtain ⟨rfl, rfl⟩ := Prod.mk.inj heq
    exact Or.inl ⟨_, change, h.mem_changesOf_iff.mp hchange, hother, Option.some.inj hread⟩
  | none =>
    rw [hwritten, Option.none_or] at hread
    refine Or.inr ⟨fun other change hchanges => ?_, hread⟩
    refine Table.get?_eq_none_iff_forall.mp hwritten other ?_
    rw [hkeys]
    exact Table.mem_keys_of_mem (h.mem_changesOf_iff.mpr hchanges)

/-- What is filed under a name in the list of changes. -/
theorem mem_filed_iff (h : Tally engine rules args verdicts result) {name : String}
    {change : Change} : (name, change) ∈ (changesOf verdicts).filed ↔
      ∃ key, Reading.text key = .ok name ∧ engine.Changes rules args key change := by
  simp only [Table.mem_filed, h.mem_changesOf_iff]

/-- The last change under a name is the one that is noted under it. -/
theorem get?_changes (h : Tally engine rules args verdicts result) {key : Value}
    {change : Change} {name : String} (hchanges : engine.Changes rules args key change)
    (hname : Reading.text key = .ok name) (hlast : engine.ChangesLast rules args key name) :
    result.changes.get? name = some change := by
  obtain ⟨before, after, hsplit⟩ := List.append_of_mem (h.mem_changesOf_iff.mpr hchanges)
  rw [h.changes, hsplit, Table.filed_append, Table.filed_cons hname]
  refine Table.get?_ofList_append_cons fun hafter => ?_
  obtain ⟨later, hlater⟩ := Table.mem_keys_iff.mp hafter
  obtain ⟨other, hother, hmem⟩ := Table.mem_filed.mp hlater
  have hchange : (other, later) ∈ changesOf verdicts := by
    rw [hsplit]
    exact List.mem_append_right _ (List.mem_cons_of_mem _ hmem)
  -- the entry of the other key comes later, in the changes and so among the rules
  have hpair : [key, other].Sublist (changesOf verdicts).keys := by
    rw [hsplit, Table.keys_append, Table.keys_cons]
    refine List.Sublist.trans ?_ (List.sublist_append_right ..)
    exact (List.singleton_sublist.mpr (Table.mem_keys_of_mem hmem)).cons_cons key
  have hkeys := Engine.keys_changesOf_of_judgeAll h.judged
  exact hlast other later (h.mem_changesOf_iff.mp hchange) (hpair.trans hkeys) hother

/-- Every name among the changes is that of a key at which there was a change. -/
theorem exists_changes_of_mem_keys (h : Tally engine rules args verdicts result) {name : String}
    (hname : name ∈ result.changes.keys) :
    ∃ key change, Reading.text key = .ok name ∧ engine.Changes rules args key change := by
  rw [h.changes] at hname
  have hfiled : name ∈ (changesOf verdicts).filed.keys :=
    (Table.mem_keys_putAll hname).resolve_left (by simp)
  obtain ⟨change, hmem⟩ := Table.mem_keys_iff.mp hfiled
  obtain ⟨key, hkey, hchanges⟩ := h.mem_filed_iff.mp hmem
  exact ⟨key, change, hkey, hchanges⟩

/-- An entry whose argument is absent makes the change to its default, if it has one. -/
theorem changes_default (h : Tally engine rules args verdicts result) {key raw : Value}
    {rule : Rule} (hrule : (key, raw) ∈ rules) (hjudges : engine.judgesKey rules key = true)
    (hparsed : Rule.ofEntry raw = .ok (.ok rule))
    (habsent : Engine.argument args key = .undefined)
    (hstocked : rule.frame.hasDefault = true) :
    ∃ change, engine.Changes rules args key change ∧ change.action = .default ∧
      change.after = rule.default := by
  obtain ⟨verdict, hmem, hjudge⟩ := h.exists_verdict hrule hjudges
  have hjudged := Engine.judged_of_judge hjudge
  obtain ⟨change, hchange, haction⟩ := hjudged.default_iff.mpr ⟨rule, hparsed, habsent, hstocked⟩
  obtain ⟨-, found, hfound, hcases⟩ := hjudged.change_spec hchange
  obtain rfl := Except.ok.inj (Except.ok.inj (hfound.symm.trans hparsed))
  refine ⟨change, h.changes_of_verdict hmem hchange, haction, ?_⟩
  rcases hcases with ⟨-, hafter⟩ | ⟨hclamp, -⟩
  · exact hafter
  · simp [haction] at hclamp

/-- An entry with a number for its argument makes the change to the number that it is clamped to,
if that is another one. -/
theorem changes_clamp (h : Tally engine rules args verdicts result)
    (hpassed : result.passed = true) {key raw : Value} {rule : Rule} {n : Number}
    (hrule : (key, raw) ∈ rules) (hjudges : engine.judgesKey rules key = true)
    (hparsed : Rule.ofEntry raw = .ok (.ok rule)) (hrequired : rule.frame.isOptional = false)
    (hargument : Engine.argument args key = .number n) (hnan : n.isNan = false)
    (hmoved : n.clamped rule.frame.constraint.lower rule.frame.constraint.upper ≠ n) :
    ∃ change, engine.Changes rules args key change ∧
      change.after =
        .number (n.clamped rule.frame.constraint.lower rule.frame.constraint.upper) := by
  obtain ⟨verdict, hmem, hjudge⟩ := h.exists_verdict hrule hjudges
  have hnone : verdict.violation = none := h.passed hpassed (key, verdict) hmem
  rw [hargument] at hjudge
  obtain ⟨hleft, -⟩ :=
    (Engine.judged_of_judge hjudge).number_eq_clamped hparsed hrequired hnan hnone
  cases hchange : verdict.change with
  | some change =>
    rw [hchange, Option.map_some, Option.getD_some] at hleft
    exact ⟨change, h.changes_of_verdict hmem hchange, hleft⟩
  | none =>
    rw [hchange, Option.map_none, Option.getD_none] at hleft
    exact absurd (Value.number.inj hleft).symm hmoved

end Tally

/-! ### Names as keys -/

namespace Table

variable {α : Type} {table : Table String α}

theorem keys_texts (table : Table String α) : table.texts.keys = table.keys.map Value.text := by
  simp [texts, keys, Function.comp_def]

theorem spelled_texts (table : Table String α) : Spelled table.texts := by
  intro key hkey
  obtain ⟨name, hname⟩ := isText_texts table key hkey
  exact ⟨_, Value.spelling?_of_asText? hname⟩

theorem apart_texts (h : table.keys.Nodup) : Apart table.texts := by
  rw [Apart, keys_texts, List.pairwise_map]
  refine h.imp fun hne => ?_
  rw [Value.beq_text]
  exact decide_eq_false hne

theorem get?_texts (table : Table String α) (name : String) :
    table.texts.get? (.text name) = table.get? name := by
  rw [← get?_named_text, named_texts]

end Table

/-! ### Landing -/

namespace Engine

/-- Where the changes of an evaluation land in the caller's map. -/
structure WrittenBack (engine : Engine) (rules args written : Entries) : Prop where
  /-- An absent argument with a default is changed to it. -/
  defaults : ∀ key raw rule, (key, raw) ∈ rules → engine.judgesKey rules key = true →
    Rule.ofEntry raw = .ok (.ok rule) → argument args key = .undefined →
    rule.frame.hasDefault = true → ∃ change, engine.Changes rules args key change ∧
      change.action = .default ∧ change.after = rule.default
  /-- The number of a required argument is changed to the one that it is clamped to. -/
  clamps : ∀ key raw rule n, (key, raw) ∈ rules → engine.judgesKey rules key = true →
    Rule.ofEntry raw = .ok (.ok rule) → rule.frame.isOptional = false →
    argument args key = .number n → n.isNan = false →
    n.clamped rule.frame.constraint.lower rule.frame.constraint.upper ≠ n →
    ∃ change, engine.Changes rules args key change ∧ change.after =
      .number (n.clamped rule.frame.constraint.lower rule.frame.constraint.upper)
  /-- Every change has a name: that of the key. -/
  named : ∀ key change, engine.Changes rules args key change →
    ∃ name, Reading.text key = .ok name
  /-- A change lands under its name, unless a later one has the same name. -/
  lands : ∀ key change name, engine.Changes rules args key change →
    Reading.text key = .ok name → engine.ChangesLast rules args key name →
    Table.get? written (.text name) = some change.after
  /-- Under a text lands what is changed under that text itself. -/
  itself : ∀ key change name, engine.Changes rules args key change →
    key.asText? = some name → engine.ChangesLast rules args key name →
    Table.get? written key = some change.after
  /-- Every other key keeps its value. -/
  kept : ∀ key, (∀ other change name, engine.Changes rules args other change →
      Reading.text other = .ok name → (Value.text name == key) = false) →
    Table.get? written key = args.get? key
  /-- No key is added but names of changes, and a text among the keys of the rules is added only if
  a default was put in. -/
  added : ∀ key ∈ Table.keys written, key ∈ args.keys ∨ args.get? key = none ∧
    ∃ other change name, engine.Changes rules args other change ∧
      Reading.text other = .ok name ∧ key = .text name ∧
      (other.asText? = some name → change.action = .default)

/-- Where the arguments of an evaluation are in its result. -/
structure Gathered (engine : Engine) (rules args : Entries) (result : CheckResult) : Prop where
  /-- Every key of the argument map has a place, under its name. -/
  placed : ∀ key ∈ args.keys, ∃ name value, Reading.text key = .ok name ∧
    result.args.get? name = some value
  /-- The place of a key that shares its name with no other one has the value that the key is left
  with. -/
  apart : ∀ key ∈ args.keys, ∀ name, Reading.text key = .ok name →
    (∀ other, (other ∈ args.keys ∨ ∃ change, engine.Changes rules args other change) →
      Reading.text other = .ok name → (other == key) = true) →
    ∃ value, engine.Leaves rules args key value ∧ result.args.get? name = some value
  /-- Every place is that of a key, and has the value that this key is left with. -/
  origin : ∀ name value, result.args.get? name = some value →
    ∃ key, (key ∈ args.keys ∨ ∃ change, engine.Changes rules args key change) ∧
      Reading.text key = .ok name ∧ engine.Leaves rules args key value

variable {verdicts : Table Value Verdict} {result : CheckResult}

theorem writtenBack_of_tally (h : Tally engine rules args verdicts result)
    (hpassed : result.passed = true) :
    engine.WrittenBack rules args (args.putAll (writesOf result.changes).texts) := by
  have hkeys : (writesOf result.changes).keys = result.changes.keys := Table.keys_map_snd ..
  have hdistinct : (writesOf result.changes).keys.Nodup := by
    have hnone : (Table.keys ([] : Table String Change)).Nodup := List.nodup_nil
    rw [hkeys, h.changes]
    exact Table.nodup_keys_putAll hnone _
  have hread (key : Value) : (args.putAll (writesOf result.changes).texts).get? key =
      ((writesOf result.changes).texts.get? key).or (args.get? key) :=
    Table.get?_putAll_of_spelled (Table.spelled_texts _) (Table.apart_texts hdistinct) args key
  have hlands {key : Value} {change : Change} {name : String}
      (hchanges : engine.Changes rules args key change) (hname : Reading.text key = .ok name)
      (hlast : engine.ChangesLast rules args key name) :
      (args.putAll (writesOf result.changes).texts).get? (.text name) = some change.after := by
    have hnoted := h.get?_changes hchanges hname hlast
    rw [hread, Table.get?_texts, writesOf, Table.get?_map_snd, hnoted, Option.map_some,
      Option.some_or]
  refine ⟨?defaults, ?clamps, ?named, ?lands, ?itself, ?kept, ?added⟩
  case defaults =>
    intro key raw rule hrule hjudges hparsed habsent hstocked
    exact h.changes_default hrule hjudges hparsed habsent hstocked
  case clamps =>
    intro key raw rule n hrule hjudges hparsed hrequired hargument hnan hmoved
    exact h.changes_clamp hpassed hrule hjudges hparsed hrequired hargument hnan hmoved
  case named =>
    intro key change hchanges
    exact h.exists_name hchanges
  case lands =>
    intro key change name hchanges hname hlast
    exact hlands hchanges hname hlast
  case itself =>
    intro key change name hchanges htext hlast
    rw [← Table.get?_named htext, Table.get?_named_text]
    exact hlands hchanges (Reading.text_of_asText? htext) hlast
  case kept =>
    intro key hother
    have hnone : (writesOf result.changes).texts.get? key = none := by
      refine Table.get?_eq_none_iff_forall.mpr fun text htext => ?_
      rw [Table.keys_texts, hkeys] at htext
      obtain ⟨name, hname, rfl⟩ := List.mem_map.mp htext
      obtain ⟨other, change, hfiled, hchanges⟩ := h.exists_changes_of_mem_keys hname
      exact hother other change name hchanges hfiled
    rw [hread, hnone, Option.none_or]
  case added =>
    intro key hkey
    rcases Table.mem_keys_putAll_new hkey with hold | ⟨hnew, hnone⟩
    · exact Or.inl hold
    · rw [Table.keys_texts, hkeys] at hnew
      obtain ⟨name, hname, rfl⟩ := List.mem_map.mp hnew
      obtain ⟨other, change, hfiled, hchanges⟩ := h.exists_changes_of_mem_keys hname
      refine Or.inr ⟨hnone, other, change, name, hchanges, hfiled, rfl, fun htext => ?_⟩
      -- the argument is absent, and what is absent is not clamped
      obtain ⟨raw, verdict, -, -, hjudge, hchange⟩ := hchanges
      have habsent : argument args other = .undefined := by
        rw [argument, ← Table.get?_named htext, Table.get?_named_text, hnone, Option.getD_none]
      obtain ⟨-, _, -, hcases⟩ := (judged_of_judge hjudge).change_spec hchange
      rcases hcases with ⟨haction, -⟩ | ⟨-, hexamined, -⟩
      · exact haction
      · exact absurd habsent hexamined.1

theorem gathered_of_tally (hargs : Table.Apart args)
    (h : Tally engine rules args verdicts result) : engine.Gathered rules args result := by
  have hapart : Table.Apart (args.putAll (writesOf (changesOf verdicts))) := hargs.putAll _
  have hspelled := h.namedArgs.spelled
  have hkeys {key : Value} (hkey : key ∈ (args.putAll (writesOf (changesOf verdicts))).keys) :
      key ∈ args.keys ∨ ∃ change, engine.Changes rules args key change := by
    refine (Table.mem_keys_putAll hkey).imp_right fun hwritten => ?_
    rw [writesOf, Table.keys_map_snd] at hwritten
    obtain ⟨change, hmem⟩ := Table.mem_keys_iff.mp hwritten
    exact ⟨change, h.mem_changesOf_iff.mp hmem⟩
  -- what is filed under a name is an entry of the working copy, and is found there
  have horigin {name : String} {value : Value} (hmem : (name, value) ∈
      (args.putAll (writesOf (changesOf verdicts))).filed) :
      ∃ key, (key ∈ args.keys ∨ ∃ change, engine.Changes rules args key change) ∧
        Reading.text key = .ok name ∧
        (args.putAll (writesOf (changesOf verdicts))).get? key = some value := by
    obtain ⟨key, hname, hentry⟩ := Table.mem_filed.mp hmem
    exact ⟨key, hkeys (Table.mem_keys_of_mem hentry), hname,
      Table.get?_of_mem_of_spelled hspelled hapart hentry⟩
  have hplaced {key : Value} (hkey : key ∈ args.keys) : ∃ name value,
      Reading.text key = .ok name ∧
      (name, value) ∈ (args.putAll (writesOf (changesOf verdicts))).filed ∧
      result.args.get? name = some value := by
    have hkey := Table.mem_keys_putAll_of_mem hkey (writesOf (changesOf verdicts))
    obtain ⟨name, hname⟩ := h.namedArgs key hkey
    obtain ⟨held, hheld⟩ := Table.mem_keys_iff.mp hkey
    have hfiled : name ∈ (args.putAll (writesOf (changesOf verdicts))).filed.keys :=
      Table.mem_keys_of_mem (Table.mem_filed.mpr ⟨key, hname, hheld⟩)
    obtain ⟨value, hmem, hvalue⟩ := Table.exists_get?_ofList hfiled
    exact ⟨name, value, hname, hmem, h.args ▸ hvalue⟩
  refine ⟨?placed, ?apart, ?origin⟩
  case placed =>
    intro key hkey
    obtain ⟨name, value, hname, -, hvalue⟩ := hplaced hkey
    exact ⟨name, value, hname, hvalue⟩
  case apart =>
    intro key hkey name hname hunique
    obtain ⟨found, value, hfound, hmem, hvalue⟩ := hplaced hkey
    obtain rfl := Except.ok.inj (hfound.symm.trans hname)
    obtain ⟨other, hother, hsame, hread⟩ := horigin hmem
    -- the one entry under the name is at a key that equals this one
    obtain ⟨spelling, hspells⟩ := Reading.exists_spelling? hname
    have hspellsOther := (Value.beq_iff_of_spelling? hspells).mp (hunique other hother hsame)
    rw [Table.get?_congr_of_spelling? hspells hspellsOther] at hread
    exact ⟨value, h.leaves_of_get? hread, hvalue⟩
  case origin =>
    intro name value hvalue
    rw [h.args] at hvalue
    obtain ⟨key, hkey, hname, hread⟩ := horigin (Table.mem_of_get?_ofList hvalue)
    exact ⟨key, hkey, hname, h.leaves_of_get? hread⟩

/-- **Every change lands under the name of its key,** and every argument has a place under the name
of its own, for any keys that differ. -/
theorem lands_by_name {ruleMap : Value} (hmode : engine.mode ≠ .off)
    (hruleMap : ruleMap.asMap? = some rules) (hrules : Table.Apart rules)
    (hargs : Table.Apart args) :
    ((engine.validate ruleMap (.map args)).2.answer = .ok () →
      ∃ written, (engine.validate ruleMap (.map args)).1 = .map written ∧
        engine.WrittenBack rules args written) ∧
    ∀ result, (engine.evaluate ruleMap (.map args)).answer = .ok result →
      engine.Gathered rules args result := by
  constructor
  · intro hreturns
    cases hcheck : (engine.check ruleMap (.map args)).answer with
    | error stop =>
      rw [validate_of_error hmode hcheck] at hreturns
      contradiction
    | ok result =>
      obtain ⟨hresult, hpassed⟩ := check_eq_ok.mp hcheck
      obtain ⟨verdicts, htally⟩ := exists_tally_of_evaluate hmode hruleMap hrules hresult
      refine ⟨_, ?_, writtenBack_of_tally htally hpassed⟩
      rw [validate_of_ok hmode hcheck]
  · intro result hresult
    obtain ⟨verdicts, htally⟩ := exists_tally_of_evaluate hmode hruleMap hrules hresult
    exact gathered_of_tally hargs htally

end Engine

/-- A rule map with bytes as one of its keys: a default for the bytes, and an upper limit for the
text. -/
def Sample.mixedRules : Entries :=
  [(.bytes [0x6e], .map [(.text "kind", .text "integer"), (.text "default", .int 5)]),
    (.text "size", .map [(.text "kind", .text "number"), (.text "max_num", .int 6),
      (.text "autobound", .bool true)])]

/-- In the sample the default lands under the text that the bytes encode. -/
theorem Engine.lands_by_name_sample :
    (Engine.default.validate (.map Sample.mixedRules) (.map [(.text "size", .int 10)])).2.answer =
        .ok () ∧
      (Engine.default.validate (.map Sample.mixedRules) (.map [(.text "size", .int 10)])).1 =
        .map [(.text "size", .int 6), (.text "n", .int 5)] ∧
      Engine.default.WrittenBack Sample.mixedRules [(.text "size", .int 10)]
        [(.text "size", .int 6), (.text "n", .int 5)] := by
  have hrules : Table.Apart Sample.mixedRules := by
    refine Table.apart_cons.mpr ⟨?_, Table.apart_cons.mpr ⟨by simp, Table.apart_nil⟩⟩
    simp only [Table.keys_cons, Table.keys_nil, List.mem_singleton, forall_eq]
    rfl
  have hargs : Table.Apart [(Value.text "size", Value.int 10)] :=
    Table.apart_cons.mpr ⟨by simp, Table.apart_nil⟩
  have hmode : Engine.default.mode ≠ .off := by decide
  have hruleMap : (Value.map Sample.mixedRules).asMap? = some Sample.mixedRules := rfl
  obtain ⟨written, hwritten, hlands⟩ := (lands_by_name hmode hruleMap hrules hargs).1 rfl
  obtain rfl : written = [(.text "size", .int 6), (.text "n", .int 5)] :=
    (Value.map.inj hwritten).symm
  exact ⟨rfl, rfl, hlands⟩

/-- **A default does not land under bytes:** `validate` returns, and under the bytes for which the
default was put in there is nothing. -/
theorem Engine.default_not_under_bytes :
    (Engine.default.validate (.map [(.bytes [0x6e], .map [(.text "kind", .text "integer"),
        (.text "default", .int 5)])]) (.map [])).2.answer = .ok () ∧
      (Engine.default.validate (.map [(.bytes [0x6e], .map [(.text "kind", .text "integer"),
        (.text "default", .int 5)])]) (.map [])).1 = .map [(.text "n", .int 5)] ∧
      Table.get? [(Value.text "n", Value.int 5)] (.bytes [0x6e]) = none := by
  refine ⟨?_, ?_, ?_⟩
  · rfl
  · rfl
  · rfl

end ArgRules
