import ArgRules.Proofs.Assessment

/-!
# The account of a result

A result is made of verdicts: one for each entry that is judged, in the order of the rule map, and
the violations of the arguments that are left over. `Account` says how, in terms of the rule map and
the argument map alone, with no policy, no pass and no filing in it.

## What the directives ask for

The three directives are stated here as three questions about an engine and a rule map: whether a
name is skipped, whether names are checked, and whether arguments without a rule are allowed. Each
has an answer for every rule map, also for one whose directives stop the evaluation.

## Main definitions

* `Engine.skips`, `Engine.checksNames`, `Engine.allowsExtra` — what the directives ask for
* `Engine.judges` — whether a name is that of a rule that is judged
* `Engine.leavesOver` — whether an argument is left over
* `Account` — how a result is made
* `Sample.rules`, `Sample.args`, `Sample.result` — two maps and their result

## Main results

* `Policy.follows_of_ofMode` — the policy of an evaluation is what the directives ask for
* `Engine.exists_account_of_evaluate` — every result has an account
* `Account.argNames_leftOver` — which names are left over, and in which order
-/

namespace ArgRules

/-! ### What the directives ask for -/

namespace Directive

/-- The value of a directive; null if it is not there. -/
def value (rules : Entries) (key : Value) : Value := (rules.get? key).getD .null

/-- The keys that a rule map lists to be skipped: the items of the directive, if it counts as
true. -/
def listed (rules : Entries) : List Value :=
  if (value rules skipKeys).truth.toOption = some true then (value rules skipKeys).listing.items
  else []

end Directive

namespace Engine

variable (engine : Engine) (rules : Entries)

/-- Whether a name is skipped: in normal mode, if it is listed. -/
def skips (name : String) : Bool :=
  engine.mode = .normal && (Directive.listed rules).any (·.asText? = some name)

/-- Whether names are checked: in strict mode, or if the rule map asks for it. -/
def checksNames : Bool :=
  engine.mode = .strict || (Directive.value rules Directive.checkNames).truth.toOption = some true

/-- Whether arguments without a rule are allowed: in normal mode, if the rule map allows them. -/
def allowsExtra : Bool :=
  engine.mode = .normal &&
    (Directive.value rules Directive.allowExtraKeys).truth.toOption = some true

/-- Whether a name is neither that of a directive nor skipped; an entry with such a name is
judged. -/
def judges (name : String) : Bool := !Directive.isName name && !engine.skips rules name

/-- Whether an argument is left over: its name is not skipped, and there is no rule for it. -/
def leavesOver (name : String) : Bool :=
  !engine.skips rules name && (Directive.isName name || !(rules.named.contains name))

/-- The entries that are judged, in order. -/
def judgedEntries : Entries := rules.filter fun entry => entry.1.asText?.any (engine.judges rules)

end Engine

namespace Policy

/-- A policy is what the directives ask for. -/
structure Follows (policy : Policy) (engine : Engine) (rules : Entries) : Prop where
  skips : ∀ {key : Value} {name : String}, key.asText? = some name →
    policy.skips key = engine.skips rules name
  checkNames : policy.checkNames = engine.checksNames rules
  allowExtra : ∀ allow, policy.allowExtra = .ok allow → allow = engine.allowsExtra rules

/-- The keys that are skipped are those that the directive lists. -/
theorem skippedKeys_eq_ok {rules : Entries} {keys : List Value}
    (h : skippedKeys (Directive.value rules Directive.skipKeys) = .ok keys) :
    keys = Directive.listed rules := by
  rw [skippedKeys] at h
  obtain ⟨isTrue, htrue, h⟩ := bind_eq_ok.mp h
  rw [Directive.listed, htrue]
  split at h
  · next hfalse =>
    obtain rfl : isTrue = false := by simpa using hfalse
    exact (pure_eq_ok.mp h).symm
  · next hcounts =>
    obtain rfl : isTrue = true := by simpa using hcounts
    obtain ⟨-, -, h⟩ := bind_eq_ok.mp h
    obtain ⟨-, -, h⟩ := bind_eq_ok.mp h
    exact (pure_eq_ok.mp h).symm

/-- A policy skips the keys that are listed, in normal mode. -/
theorem skips_of_ofMode {engine : Engine} {rules : Entries} {policy : Policy}
    (hmode : engine.mode ≠ .off) (h : ofMode engine.mode rules = .ok policy) (key : Value) :
    policy.skips key = (decide (engine.mode = .normal) &&
      (Directive.listed rules).any (· == key)) := by
  rw [ofMode] at h
  split at h
  · next hstrict =>
    obtain rfl := pure_eq_ok.mp h
    simp [skips, strict, hstrict]
  · next hnot =>
    have hnormal : engine.mode = .normal := by
      cases hm : engine.mode <;> simp_all
    rw [ofRules] at h
    obtain ⟨keys, hkeys, h⟩ := bind_eq_ok.mp h
    obtain ⟨checked, -, h⟩ := bind_eq_ok.mp h
    obtain rfl := pure_eq_ok.mp h
    obtain rfl := skippedKeys_eq_ok hkeys
    rw [skips, decide_eq_true hnormal, Bool.true_and]

/-- **The policy of an evaluation is what the directives ask for.** -/
theorem follows_of_ofMode {engine : Engine} {rules : Entries} {policy : Policy}
    (hmode : engine.mode ≠ .off) (h : ofMode engine.mode rules = .ok policy) :
    policy.Follows engine rules := by
  have hskips {key : Value} {name : String} (hname : key.asText? = some name) :
      policy.skips key = engine.skips rules name := by
    rw [skips_of_ofMode hmode h, Engine.skips]
    congr 2
    funext listed
    rw [Bool.eq_iff_iff, decide_eq_true_iff]
    exact Value.beq_iff_of_asText? hname
  rw [ofMode] at h
  split at h
  · next hstrict =>
    obtain rfl := pure_eq_ok.mp h
    refine ⟨hskips, ?_, fun allow hallow => ?_⟩
    · simp [strict, Engine.checksNames, hstrict]
    · simp [← Except.ok.inj hallow, Engine.allowsExtra, hstrict]
  · next hnot =>
    have hnormal : engine.mode = .normal := by
      cases hm : engine.mode <;> simp_all
    rw [ofRules] at h
    obtain ⟨keys, -, h⟩ := bind_eq_ok.mp h
    obtain ⟨checked, hchecked, h⟩ := bind_eq_ok.mp h
    obtain rfl := pure_eq_ok.mp h
    refine ⟨hskips, ?_, fun allow hallow => ?_⟩
    · have htruth : (Directive.value rules Directive.checkNames).truth = .ok checked := hchecked
      simp [Engine.checksNames, hnormal, htruth, Except.toOption]
    · have htruth : (Directive.value rules Directive.allowExtraKeys).truth = .ok allow := hallow
      simp [Engine.allowsExtra, hnormal, htruth, Except.toOption]

end Policy

/-! ### What is judged and what is left over -/

section

variable {policy : Policy} {engine : Engine} {rules args : Entries}

theorem Policy.Follows.judged_eq (hfollows : policy.Follows engine rules)
    (hrules : TextKeyed rules) : policy.judged rules = engine.judgedEntries rules := by
  refine List.filter_congr fun entry hentry => ?_
  obtain ⟨name, hname⟩ := hrules.isText entry.1 (List.mem_map_of_mem hentry)
  simp [Engine.judges, Directive.isKey, hname, hfollows.skips hname]

/-- Among the names that are not skipped, those of judged entries are those of rules. -/
theorem Policy.Follows.unclaimed_eq (hfollows : policy.Follows engine rules)
    (hrules : TextKeyed rules) (hargs : TextKeyed args) :
    policy.unclaimed rules args =
      args.keys.filter fun key => key.asText?.any (engine.leavesOver rules) := by
  refine List.filter_congr fun key hkey => ?_
  obtain ⟨name, hname⟩ := hargs.isText key hkey
  have hany : (policy.judged rules).keys.any (· == key) =
      (engine.judges rules name && rules.named.contains name) := by
    rw [hfollows.judged_eq hrules, Bool.eq_iff_iff, Bool.and_eq_true, List.any_eq_true]
    constructor
    · rintro ⟨other, hother, heq⟩
      have hsame := (Value.beq_iff_of_asText? hname).mp heq
      obtain ⟨entry, hentry, rfl⟩ := List.mem_map.mp hother
      obtain ⟨hmem, hjudges⟩ := List.mem_filter.mp hentry
      rw [hsame, Option.any_some] at hjudges
      exact ⟨hjudges, Table.contains_iff.mpr
        (Table.mem_keys_of_mem (Table.mem_named.mpr ⟨_, hsame, hmem⟩))⟩
    · rintro ⟨hjudges, hcontains⟩
      obtain ⟨raw, hraw⟩ := Table.mem_keys_iff.mp (Table.contains_iff.mp hcontains)
      obtain ⟨other, hother, hmem⟩ := Table.mem_named.mp hraw
      refine ⟨other, Table.mem_keys_of_mem (List.mem_filter.mpr ⟨hmem, ?_⟩),
        (Value.beq_iff_of_asText? hname).mpr hother⟩
      rwa [hother, Option.any_some]
  rw [hany, hfollows.skips hname, hname, Option.any_some, Engine.leavesOver, Engine.judges]
  cases engine.skips rules name <;> cases Directive.isName name <;> simp

end

/-! ### The account -/

/-- How a result is made of the verdicts on the entries that are judged, in order, and the
violations of the arguments that are left over. -/
structure Account (engine : Engine) (rules args : Entries) (verdicts : Table Value Verdict)
    (extra : List Violation) (result : CheckResult) : Prop where
  judged : List.Forall₂ (fun entry verdict => verdict.1 = entry.1 ∧
    Engine.Judged engine (engine.checksNames rules) entry.1 entry.2
      (Engine.argument args entry.1) verdict.2) (engine.judgedEntries rules) verdicts
  leftOver : Engine.unexpectedAll (if engine.allowsExtra rules then [] else
    args.keys.filter fun key => key.asText?.any (engine.leavesOver rules)) = .ok extra
  args : result.args = args.named.putAll (writesOf (changesOf verdicts)).named
  changes : result.changes = (changesOf verdicts).named
  violations : result.violations = violationsOf verdicts ++ extra

theorem Engine.judgedEntries_sublist (engine : Engine) (rules : Entries) :
    (engine.judgedEntries rules).Sublist rules :=
  List.filter_sublist

namespace Engine

variable {engine : Engine} {ruleMap argMap : Value} {rules args : Entries} {result : CheckResult}

/-- An assessment is an account of its result. -/
theorem account_of_assess (hmode : engine.mode ≠ .off) (hrules : TextKeyed rules)
    (hargs : TextKeyed args) {verdicts : Table Value Verdict} {extra : List Violation}
    (h : engine.assess rules args = .ok (verdicts, extra)) :
    Account engine rules args verdicts extra (.ofVerdicts args verdicts extra) := by
  obtain ⟨policy, hpolicy, hverdicts, allow, hallow, hextra⟩ := assess_eq_ok.mp h
  have hfollows := Policy.follows_of_ofMode hmode hpolicy
  rw [hfollows.judged_eq hrules, hfollows.checkNames] at hverdicts
  rw [hfollows.unclaimed_eq hrules hargs, hfollows.allowExtra allow hallow] at hextra
  exact ⟨judgeAll_eq_ok hverdicts, hextra, rfl, rfl, rfl⟩

/-- **Every result has an account.** -/
theorem exists_account_of_evaluate (hmode : engine.mode ≠ .off)
    (hruleMap : ruleMap.asMap? = some rules) (hargMap : argMap.asMap? = some args)
    (hrules : TextKeyed rules) (hargs : TextKeyed args)
    (h : (engine.evaluate ruleMap argMap).answer = .ok result) :
    ∃ verdicts extra, Account engine rules args verdicts extra result := by
  obtain ⟨verdicts, extra, hassess, rfl⟩ :=
    (evaluate_eq_ok_iff_assess hmode hruleMap hargMap hrules hargs).mp h
  exact ⟨verdicts, extra, account_of_assess hmode hrules hargs hassess⟩

end Engine

/-! ### The names of what is left over -/

/-- The names of violations, in order. -/
def argNames (violations : List Violation) : List String := violations.map (·.argName)

/-- The violations of unexpected names have these names, one for each and in order. -/
theorem Engine.argNames_unexpectedAll {keys : List Value} {violations : List Violation}
    (hkeys : ∀ key ∈ keys, ∃ name, key.asText? = some name)
    (h : unexpectedAll keys = .ok violations) :
    argNames violations = keys.filterMap Value.asText? := by
  induction keys generalizing violations with
  | nil =>
    obtain rfl := pure_eq_ok.mp h
    rfl
  | cons key rest ih =>
    obtain ⟨name, hname⟩ := hkeys key (by simp)
    obtain ⟨violation, hviolation, h⟩ := bind_eq_ok.mp h
    obtain ⟨others, hothers, h⟩ := bind_eq_ok.mp h
    obtain rfl := pure_eq_ok.mp h
    have hfiled := Violation.unexpected_eq_ok hviolation
    rw [Reading.text_of_asText? hname, Except.ok.injEq] at hfiled
    have hrest := ih (fun k hk => hkeys k (List.mem_cons_of_mem _ hk)) hothers
    rw [List.filterMap_cons_some hname, ← hrest, hfiled]
    rfl

/-- The keys whose names are left over. -/
theorem filterMap_filter_any (leaves : String → Bool) (keys : List Value) :
    (keys.filter fun key => key.asText?.any leaves).filterMap Value.asText? =
      (keys.filterMap Value.asText?).filter leaves := by
  induction keys with
  | nil => rfl
  | cons key rest ih =>
    cases hkey : key.asText? with
    | none => simp [hkey, ih]
    | some name => cases hl : leaves name <;> simp [hkey, hl, ih]

theorem Account.argNames_leftOver {engine : Engine} {rules args : Entries}
    {verdicts : Table Value Verdict} {extra : List Violation} {result : CheckResult}
    (h : Account engine rules args verdicts extra result) (hargs : TextKeyed args) :
    argNames extra = if engine.allowsExtra rules then [] else
      args.named.keys.filter (engine.leavesOver rules) := by
  have hextra := h.leftOver
  split at hextra
  · next hallowed =>
    rw [if_pos hallowed, ← pure_eq_ok.mp hextra]
    rfl
  · next hrefused =>
    rw [if_neg hrefused, Engine.argNames_unexpectedAll ?_ hextra, filterMap_filter_any,
      ← Table.keys_named]
    exact fun key hkey => hargs.isText key (List.mem_filter.mp hkey).1

/-! ### A sample -/

namespace Sample

/-- A rule map with a skipped name, a number that may be moved, a required argument without a
default, and one with a default. -/
def rules : Entries :=
  [(Directive.skipKeys, .list [.text "note"]),
    (.text "size", .map [(.text "kind", .text "number"), (.text "max_num", .int 6),
      (.text "autobound", .bool true)]),
    (.text "shape", .map [(.text "kind", .text "boolean")]),
    (.text "colour", .map [(.text "kind", .text "string"), (.text "default", .text "red")])]

/-- An argument map with a number out of bounds, a skipped name, no shape, and an argument without
a rule. -/
def args : Entries := [(.text "size", .int 10), (.text "note", .null), (.text "weight", .null)]

theorem textKeyed_rules : TextKeyed rules :=
  ⟨by simp [rules, Directive.skipKeys, Value.asText?], by decide⟩

theorem textKeyed_args : TextKeyed args := ⟨by simp [args, Value.asText?], by decide⟩

/-- The result of the two maps. -/
def result : CheckResult where
  args := [("size", .int 6), ("note", .null), ("weight", .null), ("colour", .text "red")]
  changes :=
    [("size", ⟨.clamp, .int 10, .int 6⟩), ("colour", ⟨.default, .undefined, .text "red"⟩)]
  violations :=
    [⟨"shape", some "boolean", false, "", ["is required but not provided."],
        "Argument |shape| data type |boolean|  is required but not provided."⟩,
      ⟨"weight", none, false, "", ["unexpected argument"],
        "Unexpected argument |weight| provided."⟩]

theorem evaluate_eq : (Engine.default.evaluate (.map rules) (.map args)).answer = .ok result := by
  rfl

end Sample

end ArgRules
