import ArgRules.Proofs.Strictness

/-!
# Leniency

A rule map can be made more lenient without touching its rules: its directives may skip more names,
no longer have names checked, or allow arguments without a rule. Here it is shown that nothing is
found wrong under the lenient rule map that was not found wrong before, that an evaluation does not
stop where it did not stop before, and that arguments which are not skipped are changed in the same
way. Normal mode is lenient in this sense when it is compared with strict mode.

## Two passes side by side

The two passes do not do the same: an entry may be judged in one of them only, if its name is
skipped in the other one. `Relaxed` says what they have in common all the same. Outside the names that the
lenient pass skips, their working copies and their changes agree, and every violation of the lenient
pass is covered by one of the other pass. A step keeps this, whichever of the passes judges the
entry, and so do all steps together.

Where both passes judge an entry, they differ in the reasons against its name at most. A judgement
that stops at an exempt value, or at an argument that is missing, stops there in both.

## Any keys

The keys of the rule maps can be any values here. What is skipped are texts, and therefore a key
that is written to is hidden from the lenient pass, or it is no key that is.

## Main definitions

* `Violation.Covers`, `Covered` — a violation has all the reasons of another one
* `Relaxed` — what two passes have in common
* `Policy.Relaxes` — a policy is more lenient than another one
* `Directive.Plain` — the directives are booleans and lists of texts
* `Engine.MoreLenient` — a rule map is more lenient than another one with the same rules
* `Softens` — a result is that of a more lenient rule map

## Main results

* `Engine.Judged.lenient` — without checked names there are no more reasons
* `Relaxed.step`, `Relaxed.walk` — what passes have in common is kept
* `Engine.evaluateUnder_lenient` — the same for evaluations
* `Engine.softens_of_lenient` — a lenient rule map has a softer result
-/

namespace ArgRules

/-! ### Covering -/

/-- A violation covers another one: it is of the same name, and it has all of its reasons, in
order. -/
structure Violation.Covers (violation lenient : Violation) : Prop where
  argName : violation.argName = lenient.argName
  reasons : lenient.reasons.Sublist violation.reasons

/-- Every violation of one list is covered by one of another list. -/
def Covered (lenient violations : List Violation) : Prop :=
  ∀ v ∈ lenient, ∃ w ∈ violations, w.Covers v

namespace Covered

variable {first second lenient others : List Violation}

theorem of_subset (h : ∀ v ∈ lenient, v ∈ first) : Covered lenient first :=
  fun v hv => ⟨v, h v hv, rfl, .refl _⟩

theorem refl (violations : List Violation) : Covered violations violations :=
  of_subset fun _ => id

theorem append (h : Covered lenient first) (hothers : Covered others second) :
    Covered (lenient ++ others) (first ++ second) := by
  intro v hv
  rcases List.mem_append.mp hv with hv | hv
  · obtain ⟨w, hw, hcovers⟩ := h v hv
    exact ⟨w, List.mem_append_left _ hw, hcovers⟩
  · obtain ⟨w, hw, hcovers⟩ := hothers v hv
    exact ⟨w, List.mem_append_right _ hw, hcovers⟩

theorem append_right (h : Covered lenient first) : Covered lenient (first ++ second) :=
  fun v hv => (h v hv).imp fun _ hw => ⟨List.mem_append_left _ hw.1, hw.2⟩

end Covered

/-- A verdict covers another one: it has the same change, and its violation covers the other. -/
structure Verdict.Covers (verdict lenient : Verdict) : Prop where
  change : lenient.change = verdict.change
  violation : Covered lenient.violation.toList verdict.violation.toList

theorem Verdict.Covers.refl (verdict : Verdict) : verdict.Covers verdict := ⟨rfl, .refl _⟩

/-! ### Verdicts without checked names -/

/-- Whether a violation can be described does not depend on the reasons. -/
theorem Violation.exists_describe {name entry value : Value} {reasons : List String}
    {violation : Violation} (h : describe name entry value (.ok reasons) = .ok violation)
    (others : List String) : ∃ v, describe name entry value (.ok others) = .ok v := by
  simp only [describe, bind_eq_ok, Except.ok.injEq, pure_eq_ok] at h ⊢
  obtain ⟨header, hheader, shown, hshown, nameText, hname, _, rfl, filed, hfiled, -⟩ := h
  exact ⟨_, header, hheader, shown, hshown, nameText, hname, _, rfl, filed, hfiled, rfl⟩

/-- Fewer reasons make a violation that is covered, or none. -/
theorem Verdict.violationFor_of_sublist {name value : Value} {rule : Rule}
    {reasons fewer : List String} {violation : Option Violation}
    (h : violationFor name rule value reasons = .ok violation) (hsub : fewer.Sublist reasons) :
    ∃ lenient, violationFor name rule value fewer = .ok lenient ∧
      Covered lenient.toList violation.toList := by
  by_cases hnone : fewer = []
  · subst hnone
    exact ⟨none, rfl, .of_subset (by simp)⟩
  · have hsome : reasons ≠ [] := by
      rintro rfl
      exact hnone (List.sublist_nil.mp hsub)
    rw [violationFor, if_neg (by simpa using hsome)] at h
    obtain ⟨v, hv, h⟩ := bind_eq_ok.mp h
    obtain rfl := pure_eq_ok.mp h
    obtain ⟨w, hw⟩ := Violation.exists_describe hv fewer
    refine ⟨some w, ?_, ?_⟩
    · rw [violationFor, if_neg (by simpa using hnone)]
      exact bind_eq_ok.mpr ⟨w, hw, rfl⟩
    · obtain ⟨hvreasons, hvname⟩ := Violation.describe_eq_ok hv
      obtain ⟨hwreasons, hwname⟩ := Violation.describe_eq_ok hw
      have hname : v.argName = w.argName := Except.ok.inj (hvname.symm.trans hwname)
      simpa [Covered] using ⟨hname, by rwa [hvreasons, hwreasons]⟩

namespace Engine

variable {engine : Engine} {checkNames lenientNames : Bool} {name entry value : Value}
  {verdict : Verdict}

/-- **Without checked names there are no more reasons,** and there is the same change. The ways in
which a judgement can end are the same. -/
theorem Judged.lenient (hnames : lenientNames = true → checkNames = true)
    (h : Judged engine checkNames name entry value verdict) :
    ∃ lenient, Judged engine lenientNames name entry value lenient ∧ verdict.Covers lenient := by
  cases lenientNames with
  | true =>
    rw [hnames rfl] at h
    exact ⟨verdict, h, .refl verdict⟩
  | false =>
    cases h with
    | unusable parsed described => exact ⟨_, .unusable parsed described, .refl _⟩
    | missing parsed absent bare required described =>
      exact ⟨_, .missing parsed absent bare required described, .refl _⟩
    | exemptDefault parsed absent stocked named exempt =>
      exact ⟨_, .exemptDefault parsed absent stocked rfl exempt, .refl _⟩
    | default parsed absent stocked named exempt described =>
      obtain ⟨_, hdescribed, hcovered⟩ :=
        Verdict.violationFor_of_sublist described (List.nil_sublist _)
      exact ⟨_, .default parsed absent stocked rfl exempt hdescribed, rfl, hcovered⟩
    | exempt parsed present named exempt =>
      exact ⟨_, .exempt parsed present rfl exempt, .refl _⟩
    | checked parsed present named exempt examined described =>
      obtain ⟨_, hdescribed, hcovered⟩ :=
        Verdict.violationFor_of_sublist described (List.sublist_append_right _ _)
      exact ⟨_, .checked parsed present rfl exempt examined hdescribed, rfl, hcovered⟩

theorem judge_lenient (hnames : lenientNames = true → checkNames = true)
    (h : engine.judge checkNames name entry value = .ok verdict) :
    ∃ lenient, engine.judge lenientNames name entry value = .ok lenient ∧
      verdict.Covers lenient := by
  obtain ⟨lenient, hjudged, hcovers⟩ := (judged_of_judge h).lenient hnames
  exact ⟨lenient, judge_of_judged hjudged, hcovers⟩

end Engine

/-! ### Two passes side by side -/

/-- What a pass has in common with a more lenient one, which hides some names from itself. -/
structure Relaxed (hidden : String → Bool) (pass lenient : Pass) : Prop where
  /-- Outside the hidden names, the working copies agree. -/
  args : lenient.args.outside hidden = pass.args.outside hidden
  /-- Outside the hidden names, the changes agree. -/
  changes : lenient.changes.outside hidden = pass.changes.outside hidden
  violations : Covered lenient.violations pass.violations
  /-- What the lenient pass has not met is not hidden, and the other pass has not met it either. -/
  unseen : ∀ key ∈ lenient.unseen, key.asText?.any hidden = false ∧ key ∈ pass.unseen
  /-- To the lenient pass the hidden names are claimed as well. -/
  claims : ∀ key, lenient.claims key = (key.asText?.any hidden || pass.claims key)

namespace Relaxed

variable {engine : Engine} {checkNames lenientNames : Bool} {hidden : String → Bool}
  {pass lenient next : Pass} {name entry : Value}

/-- A name that equals a hidden one is hidden. -/
theorem hidden_of_beq {key : Value} (hname : name.asText?.any hidden = true)
    (h : (name == key) = true) : key.asText?.any hidden = true := by
  rwa [← Value.asText?_eq_of_beq h]

/-- Outside the hidden names, both passes have the same argument. -/
theorem argument_eq (h : Relaxed hidden pass lenient) (hname : name.asText?.any hidden = false) :
    Engine.argument lenient.args name = Engine.argument pass.args name := by
  rw [Engine.argument, Engine.argument, ← Table.get?_outside hname lenient.args, h.args,
    Table.get?_outside hname]

/-- The other pass records a verdict on a hidden name. -/
theorem record_hidden (h : Relaxed hidden pass lenient) (hname : name.asText?.any hidden = true)
    (verdict : Verdict) :
    Relaxed hidden ((pass.claim name).record name verdict) lenient := by
  obtain ⟨change, violation⟩ := verdict
  have hunseen : ∀ key ∈ lenient.unseen, key.asText?.any hidden = false ∧
      key ∈ (pass.claim name).unseen := by
    intro key hkey
    obtain ⟨hvisible, hmem⟩ := h.unseen key hkey
    -- The claim removes keys that equal a hidden name, and such keys are hidden themselves.
    refine ⟨hvisible, List.mem_filter.mpr ⟨hmem, ?_⟩⟩
    rw [Bool.not_eq_true', ← Bool.not_eq_true]
    intro hbeq
    rw [hidden_of_beq hname hbeq] at hvisible
    contradiction
  have hclaims : ∀ key, lenient.claims key =
      (key.asText?.any hidden || (name == key || pass.claims key)) := by
    intro key
    rw [h.claims]
    cases hbeq : name == key with
    | false => rw [Bool.false_or]
    | true => rw [hidden_of_beq hname hbeq, Bool.true_or, Bool.true_or]
  cases change with
  | none => exact ⟨h.args, h.changes, h.violations.append_right, hunseen, hclaims⟩
  | some change =>
    exact ⟨h.args.trans (Table.outside_put_of_hidden hname _ _).symm,
      h.changes.trans (Table.outside_put_of_hidden hname _ _).symm, h.violations.append_right,
      hunseen, hclaims⟩

/-- Both passes record a verdict, and one covers the other. -/
theorem record (h : Relaxed hidden pass lenient) (hname : name.asText?.any hidden = false)
    {verdict softer : Verdict} (hcovers : verdict.Covers softer) :
    Relaxed hidden ((pass.claim name).record name verdict)
      ((lenient.claim name).record name softer) := by
  obtain ⟨_, violation⟩ := verdict
  obtain ⟨change, soft⟩ := softer
  obtain ⟨rfl, hviolation⟩ := hcovers
  have hunseen : ∀ key ∈ (lenient.claim name).unseen, key.asText?.any hidden = false ∧
      key ∈ (pass.claim name).unseen := by
    intro key hkey
    obtain ⟨hmem, hfree⟩ := List.mem_filter.mp hkey
    obtain ⟨hvisible, hmem⟩ := h.unseen key hmem
    exact ⟨hvisible, List.mem_filter.mpr ⟨hmem, hfree⟩⟩
  have hclaims : ∀ key, (name == key || lenient.claims key) =
      (key.asText?.any hidden || (name == key || pass.claims key)) := by
    intro key
    rw [h.claims, Bool.or_left_comm]
  have hviolations := h.violations.append hviolation
  cases change with
  | none => exact ⟨h.args, h.changes, hviolations, hunseen, hclaims⟩
  | some change =>
    refine ⟨?_, ?_, hviolations, hunseen, hclaims⟩
    · exact (Table.outside_put hname _ _).trans
        ((congrArg (Table.put · name _) h.args).trans (Table.outside_put hname _ _).symm)
    · exact (Table.outside_put hname _ _).trans
        ((congrArg (Table.put · name _) h.changes).trans (Table.outside_put hname _ _).symm)

/-- **A step keeps what two passes have in common.** An entry with a hidden name is judged by the
other pass at most; every other entry is judged by both or by none. -/
theorem step (h : Relaxed hidden pass lenient) (hnames : lenientNames = true → checkNames = true)
    (hstep : engine.step checkNames pass name entry = .ok next) :
    ∃ softer, engine.step lenientNames lenient name entry = .ok softer ∧
      Relaxed hidden next softer := by
  have hpassed : (Directive.isKey name || lenient.claims name) =
      (name.asText?.any hidden || (Directive.isKey name || pass.claims name)) := by
    rw [h.claims, Bool.or_left_comm]
  cases hhidden : name.asText?.any hidden with
  | true =>
    -- The lenient pass stands still, whatever the other one does.
    refine ⟨lenient, Engine.step_of_passed (by rw [hpassed, hhidden, Bool.true_or]), ?_⟩
    rcases Engine.step_cases hstep with ⟨-, rfl⟩ | ⟨-, verdict, -, rfl⟩
    · exact h
    · exact h.record_hidden hhidden verdict
  | false =>
    -- The passes agree on whether the entry is judged, and on the argument it is judged with.
    rw [hhidden, Bool.false_or] at hpassed
    rcases Engine.step_cases hstep with ⟨hskip, rfl⟩ | ⟨hjudged, verdict, hverdict, rfl⟩
    · exact ⟨lenient, Engine.step_of_passed (hpassed.trans hskip), h⟩
    · obtain ⟨softer, hsofter, hcovers⟩ := Engine.judge_lenient hnames hverdict
      rw [← h.argument_eq hhidden] at hsofter
      exact ⟨_, Engine.step_of_judged (hpassed.trans hjudged) hsofter, h.record hhidden hcovers⟩

/-- **All steps together keep what two passes have in common.** -/
theorem walk (h : Relaxed hidden pass lenient) (hnames : lenientNames = true → checkNames = true)
    {rules : Entries} (hwalk : engine.walk checkNames pass rules = .ok next) :
    ∃ softer, engine.walk lenientNames lenient rules = .ok softer ∧ Relaxed hidden next softer := by
  induction rules generalizing pass lenient with
  | nil =>
    obtain rfl := pure_eq_ok.mp hwalk
    exact ⟨lenient, rfl, h⟩
  | cons entry rest ih =>
    obtain ⟨name, raw⟩ := entry
    obtain ⟨middle, hstep, hrest⟩ := bind_eq_ok.mp hwalk
    obtain ⟨between, hsofter, hmiddle⟩ := h.step hnames hstep
    obtain ⟨softer, hwalk, hfinal⟩ := ih hmiddle hrest
    exact ⟨softer, bind_eq_ok.mpr ⟨between, hsofter, hwalk⟩, hfinal⟩

end Relaxed

/-! ### Evaluations under two policies -/

/-- Whether a policy hides a name: it skips it. -/
def Policy.hides (policy : Policy) (name : String) : Bool := policy.skips (.text name)

/-- A policy is more lenient than another one, and what it skips are texts. -/
structure Policy.Relaxes (lenient policy : Policy) : Prop where
  texts : ∀ key ∈ lenient.skipped, ∃ name, key.asText? = some name
  skips : ∀ key, policy.skips key = true → lenient.skips key = true
  checkNames : lenient.checkNames = true → policy.checkNames = true
  allowExtra : ∀ allow, policy.allowExtra = .ok allow →
    ∃ more, lenient.allowExtra = .ok more ∧ (allow = true → more = true)

namespace Policy

/-- A policy that skips texts skips a key exactly if it hides its name. -/
theorem skips_eq_hides {policy : Policy}
    (htexts : ∀ key ∈ policy.skipped, ∃ name, key.asText? = some name) (key : Value) :
    policy.skips key = key.asText?.any policy.hides := by
  have hiff : policy.skips key = true ↔ ∃ k ∈ policy.skipped, (k == key) = true :=
    List.any_eq_true
  cases hkey : key.asText? with
  | none =>
    rw [Option.any_none, ← Bool.not_eq_true, hiff]
    rintro ⟨k, hk, hbeq⟩
    obtain ⟨name, hname⟩ := htexts k hk
    rw [Value.asText?_eq_of_beq hbeq, hkey] at hname
    contradiction
  | some name =>
    rw [Option.any_some, hides, Bool.eq_iff_iff, hiff, skips, List.any_eq_true]
    simp only [Value.beq_iff_of_asText? hkey, Value.beq_text_iff]

end Policy

/-- At the start of two passes nothing has been judged, and what is skipped is claimed. -/
theorem Relaxed.start {lenient policy : Policy} (h : lenient.Relaxes policy) (args : Entries) :
    Relaxed lenient.hides ((Pass.start args).claimAll policy.skipped)
      ((Pass.start args).claimAll lenient.skipped) := by
  obtain ⟨hargs, hchanges, hviolations⟩ := Pass.claimAll_start args policy.skipped
  obtain ⟨hargs', hchanges', hviolations'⟩ := Pass.claimAll_start args lenient.skipped
  have hskips := Policy.skips_eq_hides h.texts
  refine ⟨by rw [hargs, hargs'], by rw [hchanges, hchanges'], ?_, fun key hkey => ?_,
    fun key => ?_⟩
  · rw [hviolations, hviolations']
    exact .refl []
  · rw [Pass.claimAll_unseen, List.mem_filter] at hkey
    obtain ⟨hmem, hfree⟩ := hkey
    have hfree : lenient.skips key = false := Bool.not_eq_true' _ |>.mp hfree
    refine ⟨by rw [← hskips, hfree], ?_⟩
    rw [Pass.claimAll_unseen, List.mem_filter]
    refine ⟨hmem, ?_⟩
    rw [Bool.not_eq_true', ← Bool.not_eq_true]
    intro hskipped
    rw [h.skips key hskipped] at hfree
    contradiction
  · have hnone : (Pass.start args).claims key = false := rfl
    rw [Pass.claimAll_claims, Pass.claimAll_claims, hnone, Bool.or_false, Bool.or_false]
    change lenient.skips key = (_ || policy.skips key)
    rw [← hskips]
    cases hskipped : policy.skips key with
    | true => rw [h.skips key hskipped, Bool.or_true]
    | false => rw [Bool.or_false]

namespace Engine

variable {engine : Engine}

/-- Each unexpected name has its violation. -/
theorem exists_unexpected_of_mem {keys : List Value} {violations : List Violation}
    (h : unexpectedAll keys = .ok violations) {key : Value} (hkey : key ∈ keys) :
    ∃ v ∈ violations, Violation.unexpected key = .ok v := by
  induction keys generalizing violations with
  | nil => simp at hkey
  | cons first rest ih =>
    obtain ⟨v, hv, h⟩ := bind_eq_ok.mp h
    obtain ⟨others, hothers, h⟩ := bind_eq_ok.mp h
    obtain rfl := pure_eq_ok.mp h
    rcases List.mem_cons.mp hkey with rfl | hkey
    · exact ⟨v, List.mem_cons_self .., hv⟩
    · obtain ⟨w, hw, hunexpected⟩ := ih hothers hkey
      exact ⟨w, List.mem_cons_of_mem _ hw, hunexpected⟩

/-- With fewer unexpected names there are no other violations. -/
theorem unexpectedAll_of_subset {keys fewer : List Value} {violations : List Violation}
    (h : unexpectedAll keys = .ok violations) (hsub : ∀ key ∈ fewer, key ∈ keys) :
    ∃ lenient, unexpectedAll fewer = .ok lenient ∧ ∀ v ∈ lenient, v ∈ violations := by
  induction fewer with
  | nil => exact ⟨[], rfl, by simp⟩
  | cons key rest ih =>
    obtain ⟨v, hv, hunexpected⟩ := exists_unexpected_of_mem h (hsub key (List.mem_cons_self ..))
    obtain ⟨others, hothers, hmem⟩ := ih fun k hk => hsub k (List.mem_cons_of_mem _ hk)
    refine ⟨v :: others, bind_eq_ok.mpr ⟨v, hunexpected, bind_eq_ok.mpr ⟨others, hothers, rfl⟩⟩,
      fun w hw => ?_⟩
    rcases List.mem_cons.mp hw with rfl | hw
    · exact hv
    · exact hmem w hw

/-- **An evaluation under a more lenient policy** does not stop where the other one does not. What
it finds is covered, and outside what it skips it has the same arguments and changes. -/
theorem evaluateUnder_lenient {lenient policy : Policy} {rules given args : Entries}
    {evaluation : Evaluation} (hrelaxes : lenient.Relaxes policy)
    (hrules : Directive.without given = Directive.without rules)
    (heval : engine.evaluateUnder policy rules args = .ok evaluation) :
    ∃ softer, engine.evaluateUnder lenient given args = .ok softer ∧
      Covered softer.violations evaluation.violations ∧
      softer.args.outside lenient.hides = evaluation.args.outside lenient.hides ∧
      softer.changes.outside lenient.hides = evaluation.changes.outside lenient.hides := by
  -- The directives may stand at different places, so both passes are taken over the rules alone.
  rw [← evaluateUnder_without, ← hrules] at heval
  obtain ⟨pass, allow, extra, hwalk, hallow, hextra, rfl⟩ := evaluateUnder_eq_ok.mp heval
  obtain ⟨soft, hsoft, hrelaxed⟩ := (Relaxed.start hrelaxes args).walk hrelaxes.checkNames hwalk
  obtain ⟨more, hmore, hallowed⟩ := hrelaxes.allowExtra allow hallow
  have hfewer : ∀ key ∈ (if more = true then [] else soft.unseen),
      key ∈ if allow = true then [] else pass.unseen := by
    intro key hkey
    split at hkey
    · contradiction
    · next hrefused =>
      rw [if_neg fun hyes => hrefused (hallowed hyes)]
      exact (hrelaxed.unseen key hkey).2
  obtain ⟨left, hleft, hmem⟩ := unexpectedAll_of_subset hextra hfewer
  refine ⟨⟨soft.args, soft.changes, soft.violations ++ left⟩, ?_,
    hrelaxed.violations.append (.of_subset hmem), hrelaxed.args, hrelaxed.changes⟩
  rw [← evaluateUnder_without]
  exact evaluateUnder_eq_ok.mpr ⟨soft, more, left, hsoft, hmore, hleft, rfl⟩

end Engine

/-! ### Results of lenient rule maps -/

/-- A result is that of a more lenient rule map, which hides some names. -/
structure Softens (hidden : String → Bool) (result softer : CheckResult) : Prop where
  /-- Every violation is one of a name that had one before, with no new reasons. -/
  violations : Covered softer.violations result.violations
  args : ∀ name, hidden name = false → softer.args.get? name = result.args.get? name
  changes : ∀ name, hidden name = false → softer.changes.get? name = result.changes.get? name

/-- What has passed before passes. -/
theorem Softens.passed {hidden : String → Bool} {result softer : CheckResult}
    (h : Softens hidden result softer) (hpassed : result.passed = true) :
    softer.passed = true := by
  rw [CheckResult.passed, List.isEmpty_iff] at hpassed ⊢
  refine List.eq_nil_iff_forall_not_mem.mpr fun v hv => ?_
  obtain ⟨w, hw, -⟩ := h.violations v hv
  rw [hpassed] at hw
  contradiction

/-- If an evaluation can be filed, so can one with more hidden names. -/
theorem CheckResult.softens_of_outside {hidden : String → Bool} {evaluation softer : Evaluation}
    {result : CheckResult} (hfile : ofEvaluation evaluation = .ok result)
    (hviolations : Covered softer.violations evaluation.violations)
    (hargs : softer.args.outside hidden = evaluation.args.outside hidden)
    (hchanges : softer.changes.outside hidden = evaluation.changes.outside hidden) :
    ∃ filed, ofEvaluation softer = .ok filed ∧ Softens hidden result filed := by
  obtain ⟨⟨hfileArgs, hfileChanges⟩, rfl⟩ := ofEvaluation_eq_ok.mp hfile
  refine ⟨_, ofEvaluation_eq_ok.mpr
    ⟨⟨hfileArgs.of_outside_eq hargs, hfileChanges.of_outside_eq hchanges⟩, rfl⟩, ?_⟩
  refine ⟨hviolations, fun name hname => ?_, fun name hname => ?_⟩
  · rw [← Table.get?_ofList_filed_outside hname, hargs, Table.get?_ofList_filed_outside hname]
  · rw [← Table.get?_ofList_filed_outside hname, hchanges, Table.get?_ofList_filed_outside hname]

/-- The directives of a rule map are what they should be: two booleans and a list of texts. Each of
them may be missing. -/
structure Directive.Plain (rules : Entries) : Prop where
  checkNames : ∀ value ∈ rules.get? checkNames, ∃ b, value = .bool b
  allowExtraKeys : ∀ value ∈ rules.get? allowExtraKeys, ∃ b, value = .bool b
  skipKeys : ∀ value ∈ rules.get? skipKeys, ∃ keys, value = .list keys ∧
    ∀ key ∈ keys, ∃ name, key.asText? = some name

/-- A rule map is at least as lenient as another one with the same rules. -/
structure Engine.MoreLenient (engine : Engine) (lenient rules : Entries) : Prop where
  sameRules : Directive.without lenient = Directive.without rules
  checkNames : engine.checksNames lenient = true → engine.checksNames rules = true
  allowExtra : engine.allowsExtra rules = true → engine.allowsExtra lenient = true
  skips : ∀ name, engine.skips rules name = true → engine.skips lenient name = true

namespace Policy

/-- A boolean directive can be asked. -/
theorem exists_directive_of_bool {rules : Entries} {key : Value}
    (h : ∀ value ∈ rules.get? key, ∃ b, value = .bool b) :
    ∃ answer, directive rules key = .ok answer := by
  rw [directive]
  cases hget : rules.get? key with
  | none => exact ⟨false, rfl⟩
  | some value =>
    obtain ⟨b, rfl⟩ := h value hget
    exact ⟨b, Value.truth_bool b⟩

theorem checkKeys_of_texts {keys : List Value}
    (h : ∀ key ∈ keys, ∃ name, key.asText? = some name) : Value.checkKeys keys = .ok () := by
  induction keys with
  | nil => rfl
  | cons key rest ih =>
    obtain ⟨name, hname⟩ := h key (List.mem_cons_self ..)
    have hkey : key.checkKey = .ok () := by
      cases key <;> simp [Value.asText?] at hname <;> simp [Value.checkKey]
    rw [Value.checkKeys, hkey]
    exact ih fun k hk => h k (List.mem_cons_of_mem _ hk)

/-- Plain directives have a policy, and it skips texts. -/
theorem exists_ofRules_of_plain {rules : Entries} (h : Directive.Plain rules) :
    ∃ policy, ofRules rules = .ok policy ∧ (∃ allow, policy.allowExtra = .ok allow) ∧
      ∀ key ∈ policy.skipped, ∃ name, key.asText? = some name := by
  obtain ⟨checked, hchecked⟩ := exists_directive_of_bool h.checkNames
  have hallow := exists_directive_of_bool h.allowExtraKeys
  obtain ⟨keys, hkeys, htexts⟩ : ∃ keys,
      skippedKeys ((rules.get? Directive.skipKeys).getD .null) = .ok keys ∧
        ∀ key ∈ keys, ∃ name, key.asText? = some name := by
    cases hget : rules.get? Directive.skipKeys with
    | none => exact ⟨[], rfl, by simp⟩
    | some value =>
      obtain ⟨keys, rfl, htexts⟩ := h.skipKeys value hget
      cases keys with
      | nil => exact ⟨[], rfl, by simp⟩
      | cons key rest =>
        refine ⟨key :: rest, ?_, htexts⟩
        exact bind_eq_ok.mpr ⟨true, rfl,
          bind_eq_ok.mpr ⟨(), checkKeys_of_texts htexts, bind_eq_ok.mpr ⟨(), rfl, rfl⟩⟩⟩
  exact ⟨_, bind_eq_ok.mpr ⟨keys, hkeys, bind_eq_ok.mpr ⟨checked, hchecked, rfl⟩⟩, hallow, htexts⟩

/-- Among policies of plain directives, the one of a more lenient rule map is more lenient. -/
theorem relaxes_of_moreLenient {engine : Engine} {rules given : Entries} {policy lenient : Policy}
    (h : engine.MoreLenient given rules) (hpolicy : policy.Follows engine rules)
    (hlenient : lenient.Follows engine given)
    (hpolicyTexts : ∀ key ∈ policy.skipped, ∃ name, key.asText? = some name)
    (hlenientTexts : ∀ key ∈ lenient.skipped, ∃ name, key.asText? = some name)
    (hallow : ∃ allow, lenient.allowExtra = .ok allow) : lenient.Relaxes policy := by
  refine ⟨hlenientTexts, fun key hskips => ?_, fun hchecks => ?_, fun allow hallowed => ?_⟩
  · rw [skips_eq_hides hpolicyTexts] at hskips
    obtain ⟨name, hname, -⟩ := (Option.any_eq_true ..).mp hskips
    rw [hname, Option.any_some, hides, hpolicy.skips rfl] at hskips
    rw [hlenient.skips hname]
    exact h.skips name hskips
  · rw [hlenient.checkNames] at hchecks
    rw [hpolicy.checkNames]
    exact h.checkNames hchecks
  · obtain ⟨more, hmore⟩ := hallow
    refine ⟨more, hmore, fun hyes => ?_⟩
    rw [hlenient.allowExtra more hmore]
    rw [hpolicy.allowExtra allow hallowed] at hyes
    exact h.allowExtra hyes

/-- Every policy that skips texts is more lenient than that of strict mode. -/
theorem relaxes_strict {lenient : Policy}
    (htexts : ∀ key ∈ lenient.skipped, ∃ name, key.asText? = some name)
    (hallow : ∃ allow, lenient.allowExtra = .ok allow) : lenient.Relaxes strict := by
  refine ⟨htexts, fun _ hskips => ?_, fun _ => rfl, fun allow hallowed => ?_⟩
  · exact absurd hskips Bool.false_ne_true
  · obtain ⟨more, hmore⟩ := hallow
    obtain rfl := Except.ok.inj hallowed
    exact ⟨more, hmore, fun hyes => absurd hyes Bool.false_ne_true⟩

end Policy

namespace Engine

variable {engine : Engine} {mode : Mode} {ruleMap lenientMap argMap : Value}
  {rules given args : Entries} {result : CheckResult}

/-- The result of a mode is softened by normal mode under a more lenient policy. -/
theorem softens_of_relaxes {policy lenient : Policy} (hmode : mode ≠ .off)
    (hnormal : engine.mode = .normal) (hruleMap : ruleMap.asMap? = some rules)
    (hlenientMap : lenientMap.asMap? = some given) (hargMap : argMap.asMap? = some args)
    (hpolicy : Policy.ofMode mode rules = .ok policy)
    (hlenient : Policy.ofRules given = .ok lenient) (hrelaxes : lenient.Relaxes policy)
    (hrules : Directive.without given = Directive.without rules)
    (h : ((engine.inMode mode).evaluate ruleMap argMap).answer = .ok result) :
    ∃ softer, (engine.evaluate lenientMap argMap).answer = .ok softer ∧
      Softens lenient.hides result softer := by
  obtain ⟨evaluation, heval, hfile⟩ := (evaluate_eq_ok hmode hruleMap hargMap).mp h
  obtain ⟨_, hsame, heval⟩ := bind_eq_ok.mp heval
  obtain rfl := Except.ok.inj (hpolicy.symm.trans hsame)
  rw [evaluateUnder_inMode] at heval
  obtain ⟨softer, hsofter, hcovered, hargs, hchanges⟩ :=
    evaluateUnder_lenient hrelaxes hrules heval
  obtain ⟨filed, hfiled, hsoftens⟩ :=
    CheckResult.softens_of_outside hfile hcovered hargs hchanges
  have hofMode : Policy.ofMode engine.mode given = .ok lenient := by
    rw [hnormal]
    exact hlenient
  refine ⟨filed, (evaluate_eq_ok (by simp [hnormal]) hlenientMap hargMap).mpr
    ⟨softer, bind_eq_ok.mpr ⟨lenient, hofMode, hsofter⟩, hfiled⟩, hsoftens⟩

/-- **A lenient rule map has a softer result,** and so has normal mode in comparison with strict
mode: what strict mode accepts it accepts as well. -/
theorem softens_of_lenient (hnormal : engine.mode = .normal)
    (hruleMap : ruleMap.asMap? = some rules) (hlenientMap : lenientMap.asMap? = some given)
    (hargMap : argMap.asMap? = some args) (hplain : Directive.Plain rules)
    (hgiven : Directive.Plain given) (hmore : engine.MoreLenient given rules) :
    (∀ result, (engine.evaluate ruleMap argMap).answer = .ok result →
        ∃ softer, (engine.evaluate lenientMap argMap).answer = .ok softer ∧
          Softens (engine.skips given) result softer) ∧
      ∀ result, ((engine.inMode .strict).evaluate lenientMap argMap).answer = .ok result →
        ∃ softer, (engine.evaluate lenientMap argMap).answer = .ok softer ∧
          Softens (engine.skips given) result softer ∧
          (result.passed = true → softer.passed = true) := by
  obtain ⟨policy, hpolicy, -, htexts⟩ := Policy.exists_ofRules_of_plain hplain
  obtain ⟨lenient, hlenient, hallow, hlenientTexts⟩ := Policy.exists_ofRules_of_plain hgiven
  have hofMode {rules : Entries} : Policy.ofMode engine.mode rules = Policy.ofRules rules := by
    rw [hnormal]
    rfl
  have hon : engine.mode ≠ .off := by simp [hnormal]
  have hfollows := Policy.follows_of_ofMode hon (hofMode.trans hpolicy)
  have hlenientFollows := Policy.follows_of_ofMode hon (hofMode.trans hlenient)
  have hhides : lenient.hides = engine.skips given := funext fun _ => hlenientFollows.skips rfl
  rw [← hhides]
  refine ⟨fun result hresult => ?_, fun result hresult => ?_⟩
  · exact softens_of_relaxes hon hnormal hruleMap hlenientMap hargMap (hofMode.trans hpolicy)
      hlenient (Policy.relaxes_of_moreLenient hmore hfollows hlenientFollows htexts hlenientTexts
        hallow) hmore.sameRules hresult
  · obtain ⟨softer, hsofter, hsoftens⟩ := softens_of_relaxes (by simp) hnormal hlenientMap
      hlenientMap hargMap rfl hlenient (Policy.relaxes_strict hlenientTexts hallow) rfl hresult
    exact ⟨softer, hsofter, hsoftens, hsoftens.passed⟩

end Engine

/-- The rules of the sample, with names checked. -/
def Sample.exacting : Entries :=
  [(Directive.checkNames, .bool true),
    (.text "size_num", .map [(.text "kind", .text "number"), (.text "max_num", .int 6),
      (.text "autobound", .bool true)]),
    (.text "shape", .map [(.text "kind", .text "boolean")]),
    (.text "colour", .map [(.text "kind", .text "string"), (.text "default", .text "red")])]

/-- The same rules, without names checked and without the shape. -/
def Sample.eased : Entries :=
  [(.text "size_num", .map [(.text "kind", .text "number"), (.text "max_num", .int 6),
      (.text "autobound", .bool true)]),
    (.text "shape", .map [(.text "kind", .text "boolean")]),
    (Directive.skipKeys, .list [.text "shape"]),
    (.text "colour", .map [(.text "kind", .text "string"), (.text "default", .text "red")])]

/-- In the sample the weight remains, and the shape and the colour are no longer wrong. -/
theorem Engine.softens_of_lenient_sample :
    Directive.Plain Sample.exacting ∧ Directive.Plain Sample.eased ∧
      Engine.default.MoreLenient Sample.eased Sample.exacting ∧
      ∃ result softer strictly,
        (Engine.default.evaluate (.map Sample.exacting) (.map Sample.measured)).answer =
          .ok result ∧ argNames result.violations = ["shape", "colour", "weight"] ∧
        (Engine.default.evaluate (.map Sample.eased) (.map Sample.measured)).answer =
          .ok softer ∧ argNames softer.violations = ["weight"] ∧
        ((Engine.default.inMode .strict).evaluate (.map Sample.eased)
          (.map Sample.measured)).answer = .ok strictly ∧
        Softens (Engine.default.skips Sample.eased) result softer ∧
        Softens (Engine.default.skips Sample.eased) strictly softer := by
  have hplain : Directive.Plain Sample.exacting := by
    refine ⟨fun value h => ⟨true, (Option.some.inj h).symm⟩, fun value h => ?_, fun value h => ?_⟩
    · cases h
    · cases h
  have hgiven : Directive.Plain Sample.eased := by
    refine ⟨fun value h => ?_, fun value h => ?_, fun value h => ?_⟩
    · cases h
    · cases h
    · exact ⟨[.text "shape"], (Option.some.inj h).symm, by simp [Value.asText?]⟩
  have hmore : Engine.default.MoreLenient Sample.eased Sample.exacting := by
    refine ⟨rfl, fun _ => by decide, fun h => ?_, fun name h => ?_⟩
    · exact absurd h (by decide)
    · exact absurd h Bool.false_ne_true
  obtain ⟨hsofter, hstrict⟩ := @softens_of_lenient Engine.default (.map Sample.exacting)
    (.map Sample.eased) (.map Sample.measured) _ _ _ rfl rfl rfl rfl hplain hgiven hmore
  have hnames : (Engine.default.evaluate (.map Sample.exacting)
      (.map Sample.measured)).answer.toOption.map (argNames ·.violations) =
        some ["shape", "colour", "weight"] := by
    decide +kernel
  have hsofterNames : (Engine.default.evaluate (.map Sample.eased)
      (.map Sample.measured)).answer.toOption.map (argNames ·.violations) = some ["weight"] := by
    decide +kernel
  have hstrictNames : ((Engine.default.inMode .strict).evaluate (.map Sample.eased)
      (.map Sample.measured)).answer.toOption.map (argNames ·.violations) =
        some ["shape", "colour", "weight"] := by
    decide +kernel
  obtain ⟨result, hresult, hviolations⟩ := exists_of_toOption_map hnames
  obtain ⟨strictly, hstrictly, -⟩ := exists_of_toOption_map hstrictNames
  obtain ⟨softer, heval, hleft⟩ := exists_of_toOption_map hsofterNames
  obtain ⟨_, hsame, hsoftens⟩ := hsofter result hresult
  obtain rfl := Except.ok.inj (heval.symm.trans hsame)
  obtain ⟨_, hsame, hstrictSoftens, -⟩ := hstrict strictly hstrictly
  obtain rfl := Except.ok.inj (heval.symm.trans hsame)
  exact ⟨hplain, hgiven, hmore, result, softer, strictly, hresult, hviolations, heval, hleft,
    hstrictly, hsoftens, hstrictSoftens⟩

end ArgRules
