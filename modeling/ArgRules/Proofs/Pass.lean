import ArgRules.Evaluation
import ArgRules.Proofs.Judgement
import ArgRules.Proofs.Names

/-!
# A pass judges every entry by itself

A pass over a rule map carries a working copy of the argument map, and each entry is judged with
what the working copy holds. This module shows that for a rule map with texts as keys nothing of
that matters: the entries that are judged are those that are neither directives nor skipped, each is
judged with the value in the caller's map, and the outcome is what the verdicts say.

## The invariant

A step claims one name, and it writes to the working copy at that name only. So at the name of every
entry that is still to come, the working copy is the caller's map, and the name is claimed only if
it is skipped. That is what the induction in `walk_eq` carries along.

## Main definitions

* `Policy.judged`, `Policy.unclaimed` — the entries that are judged, and the keys without a rule
* `Engine.judgeAll` — the verdicts on entries, each by itself
* `Evaluation.ofVerdicts` — the outcome that verdicts describe
* `Pass.recordAll` — a pass after several verdicts

## Main results

* `Engine.walk_eq` — a pass judges every entry by itself
* `Engine.evaluateUnder_eq` — an evaluation is what the verdicts say
* `Engine.exists_recordAll_of_walk` — for any keys, a pass records verdicts in order
-/

namespace ArgRules

/-! ### What is judged -/

namespace Policy

/-- Whether a policy skips a key. -/
def skips (policy : Policy) (key : Value) : Bool := policy.skipped.any (· == key)

/-- The entries of a rule map that are judged, in order. -/
def judged (policy : Policy) (rules : Entries) : Entries :=
  rules.filter fun entry => !(Directive.isKey entry.1 || policy.skips entry.1)

/-- The keys of an argument map that no judged entry speaks of and that are not skipped, in
order. -/
def unclaimed (policy : Policy) (rules args : Entries) : List Value :=
  args.keys.filter fun key => !(policy.judged rules).keys.any (· == key) && !policy.skips key

end Policy

/-- The changes of verdicts. -/
def changesOf (verdicts : List (Value × Verdict)) : Table Value Change :=
  verdicts.filterMap fun entry => entry.2.change.map (entry.1, ·)

/-- The violations of verdicts. -/
def violationsOf (verdicts : List (Value × Verdict)) : List Violation :=
  verdicts.filterMap (·.2.violation)

theorem violationsOf_cons_eq_nil_iff {name : Value} {verdict : Verdict}
    {rest : List (Value × Verdict)} : violationsOf ((name, verdict) :: rest) = [] ↔
      verdict.violation = none ∧ violationsOf rest = [] := by
  rw [violationsOf, List.filterMap_eq_nil_iff, List.forall_mem_cons, ← List.filterMap_eq_nil_iff]
  rfl

/-- The writes that changes make. -/
def writesOf {κ : Type} (changes : Table κ Change) : Table κ Value :=
  changes.map fun (name, change) => (name, change.after)

/-- The outcome that verdicts describe. -/
def Evaluation.ofVerdicts (args : Entries) (verdicts : List (Value × Verdict))
    (extra : List Violation) : Evaluation where
  args := args.putAll (writesOf (changesOf verdicts))
  changes := Table.ofList (changesOf verdicts)
  violations := violationsOf verdicts ++ extra

namespace Engine

/-- The verdicts on entries, each by itself. -/
def judgeAll (engine : Engine) (checkNames : Bool) (args entries : Entries) :
    Except Fault (List (Value × Verdict)) :=
  entries.mapM fun entry => do
    return (entry.1, ← engine.judge checkNames entry.1 entry.2 (argument args entry.1))

theorem judgeAll_cons (engine : Engine) (checkNames : Bool) (args : Entries) (name raw : Value)
    (rest : Entries) : engine.judgeAll checkNames args ((name, raw) :: rest) = (do
      let verdict ← engine.judge checkNames name raw (argument args name)
      let others ← engine.judgeAll checkNames args rest
      return (name, verdict) :: others) := by
  simp [judgeAll, List.mapM_cons]

theorem judgeAll_cons_eq_ok {engine : Engine} {checkNames : Bool} {args : Entries}
    {name raw : Value} {rest : Entries} {verdicts : List (Value × Verdict)} :
    engine.judgeAll checkNames args ((name, raw) :: rest) = .ok verdicts ↔
      ∃ verdict others, engine.judge checkNames name raw (argument args name) = .ok verdict ∧
        engine.judgeAll checkNames args rest = .ok others ∧
        verdicts = (name, verdict) :: others := by
  rw [judgeAll_cons]
  constructor
  · intro h
    obtain ⟨verdict, hverdict, h⟩ := bind_eq_ok.mp h
    obtain ⟨others, hothers, h⟩ := bind_eq_ok.mp h
    exact ⟨verdict, others, hverdict, hothers, (pure_eq_ok.mp h).symm⟩
  · rintro ⟨verdict, others, hverdict, hothers, rfl⟩
    exact bind_eq_ok.mpr ⟨verdict, hverdict, bind_eq_ok.mpr ⟨others, hothers, rfl⟩⟩

/-- Verdicts on entries come one for each entry, in order. -/
theorem judgeAll_eq_ok {engine : Engine} {checkNames : Bool} {args entries : Entries}
    {verdicts : List (Value × Verdict)}
    (h : engine.judgeAll checkNames args entries = .ok verdicts) :
    List.Forall₂ (fun entry verdict => verdict.1 = entry.1 ∧
      Judged engine checkNames entry.1 entry.2 (argument args entry.1) verdict.2)
      entries verdicts := by
  induction entries generalizing verdicts with
  | nil =>
    obtain rfl := pure_eq_ok.mp h
    exact .nil
  | cons entry rest ih =>
    obtain ⟨verdict, others, hverdict, hothers, rfl⟩ := judgeAll_cons_eq_ok.mp h
    exact .cons ⟨rfl, judged_of_judge hverdict⟩ (ih hothers)

/-- Entries have verdicts if each of them has one. -/
theorem exists_judgeAll {engine : Engine} {checkNames : Bool} {args entries : Entries}
    {P : Value → Verdict → Prop}
    (h : ∀ entry ∈ entries, ∃ verdict,
      engine.judge checkNames entry.1 entry.2 (argument args entry.1) = .ok verdict ∧
        P entry.1 verdict) :
    ∃ verdicts, engine.judgeAll checkNames args entries = .ok verdicts ∧
      ∀ found ∈ verdicts, P found.1 found.2 := by
  induction entries with
  | nil => exact ⟨[], rfl, by simp⟩
  | cons entry rest ih =>
    obtain ⟨verdict, hverdict, hholds⟩ := h entry (List.mem_cons_self ..)
    obtain ⟨others, hothers, hall⟩ := ih fun other hother =>
      h other (List.mem_cons_of_mem _ hother)
    refine ⟨_, judgeAll_cons_eq_ok.mpr ⟨verdict, others, hverdict, hothers, rfl⟩, ?_⟩
    exact List.forall_mem_cons.mpr ⟨hholds, hall⟩

theorem keys_of_judgeAll {engine : Engine} {checkNames : Bool} {args entries : Entries}
    {verdicts : List (Value × Verdict)}
    (h : engine.judgeAll checkNames args entries = .ok verdicts) :
    Table.keys verdicts = entries.keys :=
  Table.keys_of_forall₂ (judgeAll_eq_ok h)

/-- Entries are judged alike if their arguments are the same. -/
theorem judgeAll_congr {engine : Engine} {checkNames : Bool} {args given entries : Entries}
    (h : ∀ key ∈ entries.keys, argument given key = argument args key) :
    engine.judgeAll checkNames given entries = engine.judgeAll checkNames args entries := by
  induction entries with
  | nil => rfl
  | cons entry rest ih =>
    obtain ⟨name, raw⟩ := entry
    rw [judgeAll_cons, judgeAll_cons, h name (by simp),
      ih fun key hkey => h key (List.mem_cons_of_mem _ hkey)]

theorem judgeAll_append_eq_ok {engine : Engine} {checkNames : Bool} {args first second : Entries}
    {verdicts : List (Value × Verdict)} :
    engine.judgeAll checkNames args (first ++ second) = .ok verdicts ↔
      ∃ own others, engine.judgeAll checkNames args first = .ok own ∧
        engine.judgeAll checkNames args second = .ok others ∧ verdicts = own ++ others := by
  rw [judgeAll, judgeAll, judgeAll, List.mapM_append, bind_eq_ok]
  constructor
  · rintro ⟨own, hown, h⟩
    obtain ⟨others, hothers, h⟩ := bind_eq_ok.mp h
    exact ⟨own, others, hown, hothers, (pure_eq_ok.mp h).symm⟩
  · rintro ⟨own, others, hown, hothers, rfl⟩
    exact ⟨own, hown, bind_eq_ok.mpr ⟨others, hothers, rfl⟩⟩

/-- **Entries can be judged in any order,** and their verdicts come in that order. -/
theorem judgeAll_perm {engine : Engine} {checkNames : Bool} {args entries given : Entries}
    (hperm : entries.Perm given) {verdicts : List (Value × Verdict)}
    (h : engine.judgeAll checkNames args entries = .ok verdicts) :
    ∃ others, engine.judgeAll checkNames args given = .ok others ∧ verdicts.Perm others := by
  induction hperm generalizing verdicts with
  | nil => exact ⟨verdicts, h, .rfl⟩
  | cons entry _ ih =>
    obtain ⟨name, raw⟩ := entry
    obtain ⟨verdict, rest, hverdict, hrest, rfl⟩ := judgeAll_cons_eq_ok.mp h
    obtain ⟨others, hothers, hsame⟩ := ih hrest
    exact ⟨(name, verdict) :: others,
      judgeAll_cons_eq_ok.mpr ⟨verdict, others, hverdict, hothers, rfl⟩, hsame.cons _⟩
  | swap first second _ =>
    -- Neither judgement reads what the other one finds, so only the order of the verdicts changes.
    obtain ⟨name, raw⟩ := first
    obtain ⟨other, entry⟩ := second
    obtain ⟨v, _, hv, htail, rfl⟩ := judgeAll_cons_eq_ok.mp h
    obtain ⟨w, rest, hw, hrest, rfl⟩ := judgeAll_cons_eq_ok.mp htail
    exact ⟨(name, w) :: (other, v) :: rest,
      judgeAll_cons_eq_ok.mpr ⟨w, _, hw, judgeAll_cons_eq_ok.mpr ⟨v, rest, hv, hrest, rfl⟩, rfl⟩,
      .swap ..⟩
  | trans _ _ ihFirst ihSecond =>
    obtain ⟨between, hbetween, hfirst⟩ := ihFirst h
    obtain ⟨others, hothers, hsecond⟩ := ihSecond hbetween
    exact ⟨others, hothers, hfirst.trans hsecond⟩

end Engine

/-! ### Recording verdicts -/

namespace Pass

/-- A pass after several verdicts. -/
def recordAll (pass : Pass) (verdicts : List (Value × Verdict)) : Pass :=
  verdicts.foldl (fun pass entry => (pass.claim entry.1).record entry.1 entry.2) pass

@[simp] theorem recordAll_nil (pass : Pass) : pass.recordAll [] = pass := rfl

@[simp] theorem recordAll_cons (pass : Pass) (name : Value) (verdict : Verdict)
    (rest : List (Value × Verdict)) : pass.recordAll ((name, verdict) :: rest) =
      ((pass.claim name).record name verdict).recordAll rest := rfl

theorem record_args (pass : Pass) (name : Value) (verdict : Verdict) :
    (pass.record name verdict).args =
      pass.args.putAll (writesOf (changesOf [(name, verdict)])) := by
  obtain ⟨change, violation⟩ := verdict
  cases change <;> rfl

theorem record_changes (pass : Pass) (name : Value) (verdict : Verdict) :
    (pass.record name verdict).changes = pass.changes.putAll (changesOf [(name, verdict)]) := by
  obtain ⟨change, violation⟩ := verdict
  cases change <;> rfl

theorem record_violations (pass : Pass) (name : Value) (verdict : Verdict) :
    (pass.record name verdict).violations =
      pass.violations ++ violationsOf [(name, verdict)] := by
  obtain ⟨change, violation⟩ := verdict
  cases change <;> cases violation <;> rfl

@[simp] theorem record_unseen (pass : Pass) (name : Value) (verdict : Verdict) :
    (pass.record name verdict).unseen = pass.unseen := by
  obtain ⟨change, violation⟩ := verdict
  cases change <;> rfl

theorem claims_record_claim (pass : Pass) (name : Value) (verdict : Verdict) (key : Value) :
    ((pass.claim name).record name verdict).claims key =
      ((name == key) || pass.claims key) := by
  obtain ⟨change, violation⟩ := verdict
  cases change <;> rfl

theorem recordAll_args (pass : Pass) (verdicts : List (Value × Verdict)) :
    (pass.recordAll verdicts).args = pass.args.putAll (writesOf (changesOf verdicts)) := by
  induction verdicts generalizing pass with
  | nil => rfl
  | cons entry rest ih =>
    obtain ⟨name, verdict⟩ := entry
    rw [recordAll_cons, ih, record_args, ← Table.putAll_append, writesOf, writesOf, writesOf,
      ← List.map_append, changesOf, changesOf, changesOf, ← List.filterMap_append]
    rfl

theorem recordAll_changes (pass : Pass) (verdicts : List (Value × Verdict)) :
    (pass.recordAll verdicts).changes = pass.changes.putAll (changesOf verdicts) := by
  induction verdicts generalizing pass with
  | nil => rfl
  | cons entry rest ih =>
    obtain ⟨name, verdict⟩ := entry
    rw [recordAll_cons, ih, record_changes, ← Table.putAll_append, changesOf, changesOf, changesOf,
      ← List.filterMap_append]
    rfl

theorem recordAll_violations (pass : Pass) (verdicts : List (Value × Verdict)) :
    (pass.recordAll verdicts).violations = pass.violations ++ violationsOf verdicts := by
  induction verdicts generalizing pass with
  | nil => simp [violationsOf]
  | cons entry rest ih =>
    obtain ⟨name, verdict⟩ := entry
    rw [recordAll_cons, ih, record_violations, List.append_assoc, violationsOf, violationsOf,
      violationsOf, ← List.filterMap_append]
    rfl

theorem recordAll_unseen (pass : Pass) (verdicts : List (Value × Verdict)) :
    (pass.recordAll verdicts).unseen =
      pass.unseen.filter fun key => !(Table.keys verdicts).any (· == key) := by
  induction verdicts generalizing pass with
  | nil => simp
  | cons entry rest ih =>
    obtain ⟨name, verdict⟩ := entry
    rw [recordAll_cons, ih, record_unseen, claim, List.filter_filter]
    simp [Bool.and_comm]

end Pass

/-! ### Claiming what is skipped -/

namespace Pass

theorem claimAll_start (args : Entries) (names : List Value) :
    ((start args).claimAll names).args = args ∧ ((start args).claimAll names).changes = [] ∧
      ((start args).claimAll names).violations = [] := by
  suffices ∀ pass : Pass, (pass.claimAll names).args = pass.args ∧
      (pass.claimAll names).changes = pass.changes ∧
      (pass.claimAll names).violations = pass.violations from this (start args)
  induction names with
  | nil => exact fun _ => ⟨rfl, rfl, rfl⟩
  | cons name rest ih => exact fun pass => ih (pass.claim name)

theorem claimAll_claims (pass : Pass) (names : List Value) (key : Value) :
    (pass.claimAll names).claims key = (names.any (· == key) || pass.claims key) := by
  induction names generalizing pass with
  | nil => rfl
  | cons name rest ih =>
    rw [claimAll, List.foldl_cons, ← claimAll, ih, List.any_cons]
    simp only [claims, claim, List.any_cons, ← Bool.or_assoc]
    rw [Bool.or_comm (rest.any _)]

theorem claimAll_unseen (pass : Pass) (names : List Value) :
    (pass.claimAll names).unseen = pass.unseen.filter fun key => !names.any (· == key) := by
  induction names generalizing pass with
  | nil => simp [claimAll]
  | cons name rest ih =>
    rw [claimAll, List.foldl_cons, ← claimAll, ih, claim, List.filter_filter]
    simp [Bool.and_comm]

end Pass

/-! ### The walk -/

namespace Engine

variable {engine : Engine} {checkNames : Bool}

/-- A step passes over a directive and over a claimed name. -/
theorem step_of_passed {pass : Pass} {name entry : Value}
    (h : (Directive.isKey name || pass.claims name) = true) :
    engine.step checkNames pass name entry = .ok pass := by
  rw [step, if_pos h]
  rfl

/-- Otherwise it claims the name and records the verdict. -/
theorem step_of_judged {pass : Pass} {name entry : Value} {verdict : Verdict}
    (h : (Directive.isKey name || pass.claims name) = false)
    (hjudge : engine.judge checkNames name entry (argument pass.args name) = .ok verdict) :
    engine.step checkNames pass name entry = .ok ((pass.claim name).record name verdict) := by
  rw [step, if_neg (by rw [h]; exact Bool.false_ne_true)]
  exact bind_eq_ok.mpr ⟨verdict, hjudge, rfl⟩

/-- What a step can do. -/
theorem step_cases {pass next : Pass} {name entry : Value}
    (h : engine.step checkNames pass name entry = .ok next) :
    (Directive.isKey name || pass.claims name) = true ∧ next = pass ∨
      (Directive.isKey name || pass.claims name) = false ∧
        ∃ verdict, engine.judge checkNames name entry (argument pass.args name) = .ok verdict ∧
          next = (pass.claim name).record name verdict := by
  cases hpassed : Directive.isKey name || pass.claims name with
  | true =>
    rw [step_of_passed hpassed] at h
    exact Or.inl ⟨rfl, (Except.ok.inj h).symm⟩
  | false =>
    rw [step, if_neg (by rw [hpassed]; exact Bool.false_ne_true)] at h
    obtain ⟨verdict, hverdict, h⟩ := bind_eq_ok.mp h
    exact Or.inr ⟨rfl, verdict, hverdict, (pure_eq_ok.mp h).symm⟩

/-- **For any keys, a pass records verdicts in order,** each on an entry of its own. -/
theorem exists_recordAll_of_walk {pass final : Pass} {rules : Entries}
    (h : engine.walk checkNames pass rules = .ok final) :
    ∃ verdicts, (Table.keys verdicts).Sublist rules.keys ∧ final = pass.recordAll verdicts := by
  induction rules generalizing pass with
  | nil =>
    obtain rfl := pure_eq_ok.mp h
    exact ⟨[], by simp, rfl⟩
  | cons entry rest ih =>
    obtain ⟨name, raw⟩ := entry
    obtain ⟨next, hstep, h⟩ := bind_eq_ok.mp h
    obtain ⟨verdicts, hsub, rfl⟩ := ih h
    rcases step_cases hstep with ⟨-, rfl⟩ | ⟨-, verdict, -, rfl⟩
    · exact ⟨verdicts, hsub.cons _, rfl⟩
    · exact ⟨(name, verdict) :: verdicts, hsub.cons_cons _, rfl⟩

/-- Where arguments without a rule are allowed, what follows goes on with none of them. -/
theorem ite_unexpectedAll_eq_ok {β : Type} {allow : Bool} {keys : List Value}
    {next : List Violation → Except Fault β} {b : β} :
    (if allow = true then pure [] >>= next else unexpectedAll keys >>= next) = .ok b ↔
      ∃ extra, unexpectedAll (if allow = true then [] else keys) = .ok extra ∧
        next extra = .ok b := by
  rw [← bind_eq_ok]
  cases allow <;> rfl

/-- What an evaluation under a policy is made of. -/
theorem evaluateUnder_eq_ok {policy : Policy} {rules args : Entries} {evaluation : Evaluation} :
    engine.evaluateUnder policy rules args = .ok evaluation ↔
      ∃ pass allow extra,
        engine.walk policy.checkNames ((Pass.start args).claimAll policy.skipped) rules =
          .ok pass ∧
        policy.allowExtra = .ok allow ∧
        unexpectedAll (if allow = true then [] else pass.unseen) = .ok extra ∧
        evaluation = ⟨pass.args, pass.changes, pass.violations ++ extra⟩ := by
  simp only [evaluateUnder, bind_eq_ok, ite_unexpectedAll_eq_ok, pure_eq_ok]
  constructor
  · rintro ⟨pass, hpass, allow, hallow, extra, hextra, rfl⟩
    exact ⟨pass, allow, extra, hpass, hallow, hextra, rfl⟩
  · rintro ⟨pass, allow, extra, hpass, hallow, hextra, rfl⟩
    exact ⟨pass, hpass, allow, hallow, extra, hextra, rfl⟩

/-- Writing at one name changes no argument under another one. -/
theorem argument_putAll_of_ne {args : Entries} {name key : Value} {s t : String}
    (hs : name.asText? = some s) (ht : key.asText? = some t) (hne : s ≠ t)
    (change : Option Change) (violation : Option Violation) :
    argument (args.putAll (writesOf (changesOf [(name, ⟨change, violation⟩)]))) key =
      argument args key := by
  cases change with
  | none => rfl
  | some change =>
    change argument (args.put name change.after) key = argument args key
    rw [argument, argument, ← Table.get?_named ht, ← Table.get?_named ht, Table.named_put hs,
      Table.get?_put_of_ne _ _ hne]

/-- **A pass judges every entry by itself.** The induction is on the entries to come, whose names
the working copy has not been written to. -/
theorem walk_eq {pass : Pass} {rules args : Entries} (hrules : TextKeyed rules)
    (hargs : ∀ key ∈ rules.keys, argument pass.args key = argument args key) :
    engine.walk checkNames pass rules =
      (engine.judgeAll checkNames args
        (rules.filter fun entry => !(Directive.isKey entry.1 || pass.claims entry.1))).map
        pass.recordAll := by
  induction rules generalizing pass with
  | nil => rfl
  | cons entry rest ih =>
    obtain ⟨name, raw⟩ := entry
    rw [walk, step]
    split
    · next hpassed =>
      rw [List.filter_cons_of_neg (by simp [hpassed]),
        ← ih hrules.tail fun key hkey => hargs key (List.mem_cons_of_mem _ hkey)]
      rfl
    · next hjudged =>
      obtain ⟨s, hs, hfresh⟩ := hrules.head
      have hother : ∀ key ∈ Table.keys rest, ∃ t, key.asText? = some t ∧ s ≠ t := by
        intro key hkey
        obtain ⟨t, ht⟩ := hrules.tail.isText key hkey
        refine ⟨t, ht, ?_⟩
        rintro rfl
        obtain ⟨value, hmem⟩ := Table.mem_keys_iff.mp hkey
        exact hfresh (Table.mem_keys_of_mem (Table.mem_named.mpr ⟨key, ht, hmem⟩))
      rw [List.filter_cons_of_pos (by simpa using hjudged), hargs name (by simp), judgeAll_cons]
      cases engine.judge checkNames name raw (argument args name) with
      | error fault => rfl
      | ok verdict =>
        -- The step writes at its own name, and every entry to come has another one.
        have hkept : ∀ key ∈ Table.keys rest,
            argument ((pass.claim name).record name verdict).args key = argument args key := by
          intro key hkey
          obtain ⟨t, ht, hne⟩ := hother key hkey
          rw [Pass.record_args]
          exact (argument_putAll_of_ne hs ht hne _ _).trans
            (hargs key (List.mem_cons_of_mem _ hkey))
        have hrest := ih hrules.tail hkept
        have hfilter : (rest.filter fun entry => !(Directive.isKey entry.1 ||
              ((pass.claim name).record name verdict).claims entry.1)) =
            rest.filter fun entry => !(Directive.isKey entry.1 || pass.claims entry.1) := by
          refine List.filter_congr fun entry hentry => ?_
          obtain ⟨t, ht, hne⟩ := hother entry.1 (List.mem_map_of_mem hentry)
          have hfree : (name == entry.1) = false := by
            rw [Bool.eq_false_iff, ne_eq, Value.beq_iff_of_asText? ht, hs, Option.some.injEq]
            exact hne
          rw [Pass.claims_record_claim, hfree, Bool.false_or]
        rw [hfilter] at hrest
        refine (show _ = engine.walk checkNames _ rest from rfl).trans (hrest.trans ?_)
        simp only [bind, Except.bind]
        cases engine.judgeAll checkNames args _ <;> rfl

/-- The start of a walk under a policy: what is skipped is claimed, and nothing else. -/
theorem walk_start {policy : Policy} {rules args : Entries} (hrules : TextKeyed rules) :
    engine.walk checkNames ((Pass.start args).claimAll policy.skipped) rules =
      (engine.judgeAll checkNames args (policy.judged rules)).map
        ((Pass.start args).claimAll policy.skipped).recordAll := by
  rw [walk_eq hrules fun key _ => by rw [(Pass.claimAll_start args policy.skipped).1]]
  congr 2
  refine List.filter_congr fun entry _ => ?_
  rw [Pass.claimAll_claims, Pass.claims, Pass.start, List.any_nil, Bool.or_false, Policy.skips]

/-- **An evaluation is what the verdicts say,** and a pass over a rule map with texts as keys can
be forgotten about. -/
theorem evaluateUnder_eq {policy : Policy} {rules args : Entries} (hrules : TextKeyed rules) :
    engine.evaluateUnder policy rules args = (do
      let verdicts ← engine.judgeAll policy.checkNames args (policy.judged rules)
      let extra ← if ← policy.allowExtra then pure []
        else unexpectedAll (policy.unclaimed rules args)
      return Evaluation.ofVerdicts args verdicts extra) := by
  rw [evaluateUnder, walk_start hrules]
  cases hverdicts : engine.judgeAll policy.checkNames args (policy.judged rules) with
  | error fault => rfl
  | ok verdicts =>
    obtain ⟨hargs, hchanges, hviolations⟩ := Pass.claimAll_start args policy.skipped
    have hunseen : (((Pass.start args).claimAll policy.skipped).recordAll verdicts).unseen =
        policy.unclaimed rules args := by
      rw [Pass.recordAll_unseen, Pass.claimAll_unseen, List.filter_filter,
        keys_of_judgeAll hverdicts]
      rfl
    simp only [Except.map, bind, Except.bind]
    rw [hunseen, Pass.recordAll_args, Pass.recordAll_changes, Pass.recordAll_violations, hargs,
      hchanges, hviolations]
    rfl

end Engine

end ArgRules
