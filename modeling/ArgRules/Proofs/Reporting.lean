import ArgRules.Proofs.Account
import ArgRules.Proofs.EntryPoints
import ArgRules.Proofs.Unusable

/-!
# One story

A call that finds violations tells of them in five places: the result of the evaluation lists them,
the failure carries them, its data list their messages, its text writes these out, and an event
notes them. Here it is proved that all of these tell the same, in the same order, and that a call
notes exactly the events that belong to its ending.

## The endings

A call of `normalize` or `validate` returns, or it ends with a failure, or it stops at a fault, of
which nothing is said here. `Engine.Story` lists the endings that are left, with the events of each.
An engine that is switched off notes nothing. Otherwise an evaluation is noted once when it is
complete, and a failure once when it is made; what is no map is refused before either.

## What a message is made of

A message is made when a violation is, and it is kept with the violation. It says nothing that the
other fields do not say: `Violation.wording` makes it from these again. Only the name is shown as
the key of the map is shown, and a member of the modes is shown in its own way.

## Main definitions

* `Violation.wording`, `Violation.Worded` — the message, made from the other fields
* `Failure.Lists` — a failure tells of violations in all of its places
* `Outcome.ending`, `Engine.Story` — the endings of a call, with their events

## Main results

* `Engine.worded_of_evaluate` — the messages of a result are worded by fields
* `Engine.events_of_evaluate` — a result is noted once, with its numbers
* `Engine.calls_tell_story` — both calls note the events of their ending
-/

namespace ArgRules

/-! ### Messages -/

namespace Violation

/-- The reason against an argument that no rule speaks of. -/
def unexpectedReason : String := "unexpected argument"

/-- The message of a violation, made from its other fields, with the name as it is shown. -/
def wording (violation : Violation) (shown : String) : String :=
  if violation.kind = none ∧ violation.reasons = [unexpectedReason] then
    "Unexpected argument |" ++ shown ++ "| provided."
  else
    messageText ⟨violation.kind, violation.isOptional⟩ shown violation.valuePreview
      violation.reasons

/-- The message of a violation is the one that its other fields say, the name being one of some
keys. -/
structure Worded (keys : List Value) (violation : Violation) : Prop where
  message : ∃ key ∈ keys, key.asText? = some violation.argName ∧
    ∃ shown, key.display = .ok shown ∧ violation.message = violation.wording shown
  /-- Where the keys are plain texts, the name is shown as it is filed. -/
  plain : (∀ key ∈ keys, ∃ name, key = .text name) →
    violation.message = violation.wording violation.argName

variable {keys : List Value} {key : Value} {violation : Violation} {name shown : String}

theorem worded_of_shown (hmem : key ∈ keys) (hname : key.asText? = some name)
    (hfiled : Reading.text key = .ok violation.argName) (hshown : key.display = .ok shown)
    (hmessage : violation.message = violation.wording shown) : violation.Worded keys := by
  obtain rfl : name = violation.argName :=
    Except.ok.inj ((Reading.text_of_asText? hname).symm.trans hfiled)
  refine ⟨⟨key, hmem, hname, shown, hshown, hmessage⟩, fun hplain => ?_⟩
  obtain ⟨s, rfl⟩ := hplain key hmem
  obtain rfl : s = violation.argName := Option.some.inj hname
  obtain rfl : violation.argName = shown := Except.ok.inj hshown
  exact hmessage

/-- The message of a violation that is described is worded by its fields, unless it looks like that
of an argument without a rule. -/
theorem worded_of_describe {entry value : Value} {reasons : List String} (hmem : key ∈ keys)
    (hname : key.asText? = some name)
    (h : describe key entry value (.ok reasons) = .ok violation)
    (hother : ∀ header, Header.ofEntry entry = .ok header →
      header.kind ≠ none ∨ reasons ≠ [unexpectedReason]) : violation.Worded keys := by
  have hfiled := (describe_eq_ok h).2
  simp only [describe, bind_eq_ok, Except.ok.injEq, pure_eq_ok] at h
  obtain ⟨header, hheader, preview, -, shown, hshown, _, rfl, filed, -, rfl⟩ := h
  refine worded_of_shown hmem hname hfiled hshown ?_
  rw [wording, if_neg (not_and_or.mpr (hother header hheader))]

theorem worded_of_unexpected (hmem : key ∈ keys) (hname : key.asText? = some name)
    (h : unexpected key = .ok violation) : violation.Worded keys := by
  have hfiled := unexpected_eq_ok h
  simp only [unexpected, bind_eq_ok, pure_eq_ok] at h
  obtain ⟨shown, hshown, filed, -, rfl⟩ := h
  refine worded_of_shown hmem hname hfiled hshown ?_
  rw [wording, if_pos ⟨rfl, rfl⟩]

end Violation

/-- No reason why an entry cannot be used is that against an argument without a rule. -/
theorem Rule.Unusable.ne_unexpected {entry : Value} {reason : String}
    (h : Rule.Unusable entry reason) : reason ≠ Violation.unexpectedReason := by
  -- The reasons begin with different characters.
  cases h with
  | kindless => decide
  | unsupported =>
    rw [Rule.unsupportedReason, String.append_assoc]
    exact Text.append_ne (by decide) (by decide) _
  | malformed => exact Text.append_ne (by decide) (by decide) _

namespace Engine

variable {engine : Engine} {checkNames : Bool} {keys : List Value} {key entry value : Value}
  {name : String} {verdict : Verdict} {violation : Violation}

/-- **The message of every verdict is worded by the fields of its violation.** If the entry is a
rule, there is a kind. -/
theorem Judged.worded (h : Judged engine checkNames key entry value verdict) (hmem : key ∈ keys)
    (hname : key.asText? = some name) (hviolation : verdict.violation = some violation) :
    violation.Worded keys := by
  rcases h.exists_describe hviolation with
    ⟨reason, parsed, described⟩ | ⟨rule, shown, reasons, -, -, described⟩
  · refine Violation.worded_of_describe hmem hname described fun _ _ => Or.inr ?_
    simpa using (Rule.unusable_iff.mp parsed).ne_unexpected
  · refine Violation.worded_of_describe hmem hname described fun header hheader => Or.inl ?_
    exact Violation.Header.kind_ne_none hheader

theorem worded_of_unexpectedAll {names : List Value} {extra : List Violation}
    (hsub : ∀ key ∈ names, key ∈ keys ∧ ∃ name, key.asText? = some name)
    (h : unexpectedAll names = .ok extra) : ∀ violation ∈ extra, violation.Worded keys := by
  induction names generalizing extra with
  | nil =>
    obtain rfl := pure_eq_ok.mp h
    simp
  | cons key rest ih =>
    obtain ⟨⟨hmem, name, hname⟩, hrest⟩ := List.forall_mem_cons.mp hsub
    obtain ⟨first, hfirst, h⟩ := bind_eq_ok.mp h
    obtain ⟨others, hothers, h⟩ := bind_eq_ok.mp h
    obtain rfl := pure_eq_ok.mp h
    exact List.forall_mem_cons.mpr
      ⟨Violation.worded_of_unexpected hmem hname hfirst, ih hrest hothers⟩

theorem worded_of_judged {args entries : Entries} {verdicts : Table Value Verdict}
    (h : List.Forall₂ (fun entry verdict => verdict.1 = entry.1 ∧
      Judged engine checkNames entry.1 entry.2 (argument args entry.1) verdict.2)
      entries verdicts)
    (hsub : ∀ key ∈ entries.keys, key ∈ keys ∧ ∃ name, key.asText? = some name) :
    ∀ violation ∈ violationsOf verdicts, violation.Worded keys := by
  induction h with
  | nil => simp [violationsOf]
  | @cons entry found rest others head _ ih =>
    obtain ⟨⟨hmem, name, hname⟩, hrest⟩ := List.forall_mem_cons.mp hsub
    intro violation hviolation
    obtain ⟨made, hmade, hsome⟩ := List.mem_filterMap.mp hviolation
    rcases List.mem_cons.mp hmade with rfl | hlater
    · exact head.2.worded hmem hname hsome
    · exact ih hrest violation (List.mem_filterMap.mpr ⟨made, hlater, hsome⟩)

variable {ruleMap argMap : Value} {rules args : Entries} {result : CheckResult}

/-- **The messages of a result are worded by the fields of its violations.** -/
theorem worded_of_evaluate (hmode : engine.mode ≠ .off) (hruleMap : ruleMap.asMap? = some rules)
    (hargMap : argMap.asMap? = some args) (hrules : TextKeyed rules) (hargs : TextKeyed args)
    (h : (engine.evaluate ruleMap argMap).answer = .ok result) :
    ∀ violation ∈ result.violations, violation.Worded (rules.keys ++ args.keys) := by
  obtain ⟨verdicts, extra, haccount⟩ :=
    exists_account_of_evaluate hmode hruleMap hargMap hrules hargs h
  rw [haccount.violations]
  refine List.forall_mem_append.mpr ⟨worded_of_judged haccount.judged fun key hkey => ?_,
    worded_of_unexpectedAll (fun key hkey => ?_) haccount.leftOver⟩
  · have hrule : key ∈ rules.keys := ((engine.judgedEntries_sublist rules).map _).subset hkey
    exact ⟨List.mem_append_left _ hrule, hrules.isText key hrule⟩
  · have harg : key ∈ args.keys := by
      split at hkey
      · simp at hkey
      · exact (List.mem_filter.mp hkey).1
    exact ⟨List.mem_append_right _ harg, hargs.isText key harg⟩

/-! ### The events of an evaluation -/

/-- There are as many changes on record as are filed. -/
theorem length_changes {verdicts : Table Value Verdict} (h : TextKeyed verdicts)
    (extra : List Violation) : (Evaluation.ofVerdicts args verdicts extra).changes.length =
      (CheckResult.ofVerdicts args verdicts extra).changes.length := by
  have hkeyed : TextKeyed (Table.ofList (changesOf verdicts)) :=
    TextKeyed.nil.putAll h.changesOf.isText
  have hnamed : (Table.ofList (changesOf verdicts)).named = (changesOf verdicts).named := by
    rw [Table.ofList, Table.named_putAll h.changesOf.isText, Table.named_nil]
    exact Table.ofList_eq_self h.changesOf.distinct
  have hlength := hkeyed.length_named
  rw [hnamed] at hlength
  exact hlength.symm

/-- **A result is noted once,** with its numbers. -/
theorem events_of_evaluate (hmode : engine.mode ≠ .off) (hruleMap : ruleMap.asMap? = some rules)
    (hargMap : argMap.asMap? = some args) (hrules : TextKeyed rules) (hargs : TextKeyed args)
    (h : (engine.evaluate ruleMap argMap).answer = .ok result) :
    (engine.evaluate ruleMap argMap).events = [.evaluationComplete engine.mode result.passed
      result.violations.length result.changes.length] := by
  rw [evaluate_eq_evaluateFiled hmode hruleMap hargMap, evaluateFiled_eq_assess hrules hargs] at h ⊢
  cases hassess : engine.assess rules args with
  | error fault => simp [hassess] at h
  | ok found =>
    obtain ⟨verdicts, extra⟩ := found
    simp only [hassess, Except.ok.injEq] at h
    subst h
    rw [← length_changes (textKeyed_of_assess hrules hassess) extra]
    rfl

/-- What is not two maps is refused. -/
theorem evaluate_of_noMap (hmode : engine.mode ≠ .off)
    (h : ruleMap.isMap = false ∨ argMap.isMap = false) :
    engine.evaluate ruleMap argMap = refuse ruleMap argMap := by
  rw [evaluate, if_neg hmode]
  cases hrules : ruleMap.asMap? with
  | none => rfl
  | some rules =>
    cases hargs : argMap.asMap? with
    | none => rfl
    | some args => simp [Value.isMap, hrules, hargs] at h

/-- The evaluation of two maps stops only at a fault. -/
theorem exists_fault_of_evaluate {stop : Stop} (hmode : engine.mode ≠ .off)
    (hruleMap : ruleMap.asMap? = some rules) (hargMap : argMap.asMap? = some args)
    (h : (engine.evaluate ruleMap argMap).answer = .error stop) : ∃ fault, stop = .fault fault := by
  rw [evaluate_eq_evaluateFiled hmode hruleMap hargMap, evaluateFiled_answer] at h
  cases hfound : engine.evaluateMaps rules args >>= CheckResult.ofEvaluation with
  | ok result => simp [hfound, Except.mapError] at h
  | error fault =>
    rw [hfound] at h
    exact ⟨fault, (Except.error.inj h).symm⟩

end Engine

/-! ### Failures -/

namespace Failure

theorem messageLines_texts (messages : List String) :
    messageLines (messages.map .text) = .ok (messages.map ("  - " ++ ·)) := by
  induction messages with
  | nil => rfl
  | cons message rest ih =>
    refine bind_eq_ok.mpr ⟨message, Value.display_text message, ?_⟩
    exact bind_eq_ok.mpr ⟨_, ih, rfl⟩

/-- What a failure that lists violations is described as. -/
def headline : String := "argcheck:ValidationFailure: Did not pass validation criteria"

/-- A failure tells of violations: it carries them, and its data, its messages and its text list
their messages in their order. -/
structure Lists (failure : Failure) (listed : List Violation) : Prop where
  kind : failure.kind = .validationFailure
  violations : failure.violations = listed
  data : failure.datum? messagesKey = some (.list (listed.map fun v => .text v.message))
  messages : failure.messages = .ok (listed.map fun v => .text v.message)
  text : failure.text = .ok (String.intercalate "\n"
    (headline :: listed.map fun v => "  - " ++ v.message))

theorem lists_validationFailure (ruleMap args : Value) (violations : List Violation) :
    (validationFailure ruleMap args violations).Lists violations where
  kind := rfl
  violations := rfl
  data := by simp [datum?, validationFailure, Value.asMap?, Table.get?, Value.beq_text]
  messages := messages_validationFailure ruleMap args violations
  text := by
    have hlines := messageLines_texts (violations.map (·.message))
    rw [List.map_map, List.map_map] at hlines
    have hmessages := messages_validationFailure ruleMap args violations
    exact bind_eq_ok.mpr ⟨_, hmessages, bind_eq_ok.mpr ⟨_, hlines, rfl⟩⟩

theorem datum?_badInput (ruleMap argMap : Value) :
    (badInput ruleMap argMap).datum? messagesKey = none := by
  simp [datum?, badInput, Value.asMap?, Table.get?, Value.beq_text, messagesKey, ruleMapKey,
    argMapKey]

end Failure

/-! ### The story of a call -/

/-- The failure among the reasons why a call gives no result. -/
def Stop.failure? : Stop → Option Failure
  | .failure found => some found
  | .fault _ => none

/-- How an outcome ends, unless it is a fault: without a failure, or with one. -/
def Outcome.ending {α : Type} (outcome : Outcome α) : Option (Option Failure) :=
  match outcome.answer with
  | .ok _ => some none
  | .error stop => stop.failure?.map some

section

variable {α : Type} {outcome : Outcome α}

theorem Outcome.ending_of_ok {a : α} (h : outcome.answer = .ok a) : outcome.ending = some none := by
  rw [ending, h]

theorem Outcome.ending_of_error {stop : Stop} (h : outcome.answer = .error stop) :
    outcome.ending = stop.failure?.map some := by
  rw [ending, h]

end

namespace Engine

/-- The endings of a call, without a failure or with one, each with the events that are noted. -/
inductive Story (engine : Engine) (ruleMap argMap : Value) : Option Failure → List Event → Prop
  /-- An engine that is switched off notes nothing. -/
  | silent (off : engine.mode = .off) : Story engine ruleMap argMap none []
  /-- What is not two maps is refused, and there are no messages. -/
  | refused {failure : Failure} (on : engine.mode ≠ .off)
      (noMap : ruleMap.isMap = false ∨ argMap.isMap = false) (kind : failure.kind = .badInput)
      (unlisted : failure.datum? Failure.messagesKey = none) (empty : failure.messages = .ok []) :
      Story engine ruleMap argMap (some failure) [.badInput ruleMap.typeName argMap.typeName]
  /-- Two maps are evaluated, and there are no violations. -/
  | passed {rules args : Entries} {result : CheckResult} (on : engine.mode ≠ .off)
      (ruled : ruleMap.asMap? = some rules) (given : argMap.asMap? = some args)
      (evaluated : (engine.evaluate ruleMap argMap).answer = .ok result)
      (nothing : result.violations = []) :
      Story engine ruleMap argMap none
        [.evaluationComplete engine.mode true 0 result.changes.length]
  /-- Two maps are evaluated, and there are violations, which the failure and its event list. -/
  | failed {rules args : Entries} {result : CheckResult} {failure : Failure}
      (on : engine.mode ≠ .off) (ruled : ruleMap.asMap? = some rules)
      (given : argMap.asMap? = some args)
      (evaluated : (engine.evaluate ruleMap argMap).answer = .ok result)
      (found : 1 ≤ result.violations.length) (lists : failure.Lists result.violations)
      (worded : ∀ violation ∈ result.violations, violation.Worded (rules.keys ++ args.keys)) :
      Story engine ruleMap argMap (some failure)
        [.evaluationComplete engine.mode false result.violations.length result.changes.length,
          .validationFailed "argcheck:ValidationFailure" result.violations.length
            (result.violations.map (·.message))]

variable {engine : Engine} {ruleMap argMap : Value} {rules args : Entries} {result : CheckResult}
  {failure? : Option Failure}

/-- The story of a check of two maps. -/
theorem story_of_maps (hmode : engine.mode ≠ .off) (hruleMap : ruleMap.asMap? = some rules)
    (hargMap : argMap.asMap? = some args) (hrules : TextKeyed rules) (hargs : TextKeyed args)
    (h : (engine.check ruleMap argMap).ending = some failure?) :
    Story engine ruleMap argMap failure? (engine.check ruleMap argMap).events := by
  rw [check, Outcome.andThen] at h ⊢
  cases hanswer : (engine.evaluate ruleMap argMap).answer with
  | error stop =>
    -- Two maps are not refused, and a fault is no ending.
    obtain ⟨fault, rfl⟩ := exists_fault_of_evaluate hmode hruleMap hargMap hanswer
    rw [hanswer] at h
    contradiction
  | ok result =>
    rw [hanswer] at h
    simp only [events_of_evaluate hmode hruleMap hargMap hrules hargs hanswer]
    by_cases hpassed : result.passed = true
    · have hnone : result.violations = [] := List.isEmpty_iff.mp hpassed
      simp only [insist, if_pos hpassed] at h ⊢
      obtain rfl : none = failure? := Option.some.inj h
      rw [hpassed, hnone]
      exact .passed hmode hruleMap hargMap hanswer hnone
    · have hsome : 1 ≤ result.violations.length :=
        List.length_pos_iff.mpr fun hnone => hpassed (List.isEmpty_iff.mpr hnone)
      simp only [insist, if_neg hpassed] at h ⊢
      obtain rfl := Option.some.inj h
      rw [Bool.eq_false_iff.mpr hpassed]
      exact .failed hmode hruleMap hargMap hanswer hsome (Failure.lists_validationFailure ..)
        (worded_of_evaluate hmode hruleMap hargMap hrules hargs hanswer)

/-- The story of a check of what is not two maps. -/
theorem story_of_noMap (hmode : engine.mode ≠ .off)
    (hnoMap : ruleMap.isMap = false ∨ argMap.isMap = false)
    (h : (engine.check ruleMap argMap).ending = some failure?) :
    Story engine ruleMap argMap failure? (engine.check ruleMap argMap).events := by
  rw [check, evaluate_of_noMap hmode hnoMap] at h ⊢
  obtain rfl := Option.some.inj h
  exact .refused hmode hnoMap rfl (Failure.datum?_badInput ..) (Failure.messages_badInput ..)

theorem story_of_check (hmode : engine.mode ≠ .off)
    (hrules : ∀ rules ∈ ruleMap.asMap?, TextKeyed rules)
    (hargs : ∀ args ∈ argMap.asMap?, TextKeyed args)
    (h : (engine.check ruleMap argMap).ending = some failure?) :
    Story engine ruleMap argMap failure? (engine.check ruleMap argMap).events := by
  cases hruleMap : ruleMap.asMap? with
  | none => exact story_of_noMap hmode (Or.inl (by rw [Value.isMap, hruleMap]; rfl)) h
  | some rules =>
    cases hargMap : argMap.asMap? with
    | none => exact story_of_noMap hmode (Or.inr (by rw [Value.isMap, hargMap]; rfl)) h
    | some args =>
      exact story_of_maps hmode hruleMap hargMap (hrules rules hruleMap) (hargs args hargMap) h

/-- `normalize` ends as the check does, with its events. -/
theorem normalize_eq_check (hmode : engine.mode ≠ .off) (ruleMap argMap : Value) :
    (engine.normalize ruleMap argMap).ending = (engine.check ruleMap argMap).ending ∧
      (engine.normalize ruleMap argMap).events = (engine.check ruleMap argMap).events := by
  rw [normalize, if_neg hmode]
  refine ⟨?_, rfl⟩
  cases h : (engine.check ruleMap argMap).answer with
  | ok result => rw [Outcome.ending_of_ok h, Outcome.ending_of_ok (by rw [Outcome.map, h]; rfl)]
  | error stop =>
    rw [Outcome.ending_of_error h, Outcome.ending_of_error (by rw [Outcome.map, h]; rfl)]

/-- `validate` ends as the check does, with its events, unless writing back stops it, which is a
fault. -/
theorem validate_eq_check (hmode : engine.mode ≠ .off)
    (h : (engine.validate ruleMap argMap).2.ending = some failure?) :
    (engine.check ruleMap argMap).ending = some failure? ∧
      (engine.validate ruleMap argMap).2.events = (engine.check ruleMap argMap).events := by
  rw [validate, if_neg hmode] at h ⊢
  cases hanswer : (engine.check ruleMap argMap).answer with
  | error stop =>
    simp only [hanswer] at h ⊢
    exact ⟨(Outcome.ending_of_error hanswer).trans h, trivial⟩
  | ok result =>
    simp only [hanswer] at h ⊢
    refine ⟨(Outcome.ending_of_ok hanswer).trans ?_, trivial⟩
    cases hwrite : (writeBack argMap result.changes).2 with
    | ok _ => simpa [Outcome.ending, Except.mapError, hwrite] using h
    | error fault => simp [Outcome.ending, Except.mapError, Stop.failure?, hwrite] at h

/-- **Both calls note the events of their ending,** for maps with text keys. -/
theorem calls_tell_story (hrules : ∀ rules ∈ ruleMap.asMap?, TextKeyed rules)
    (hargs : ∀ args ∈ argMap.asMap?, TextKeyed args) (failure? : Option Failure) :
    ((engine.normalize ruleMap argMap).ending = some failure? →
      Story engine ruleMap argMap failure? (engine.normalize ruleMap argMap).events) ∧
    ((engine.validate ruleMap argMap).2.ending = some failure? →
      Story engine ruleMap argMap failure? (engine.validate ruleMap argMap).2.events) := by
  by_cases hmode : engine.mode = .off
  · rw [normalize, validate, if_pos hmode, if_pos hmode]
    constructor <;>
      · intro h
        obtain rfl : none = failure? := Option.some.inj h
        exact .silent hmode
  · constructor
    · intro h
      obtain ⟨hending, hevents⟩ := normalize_eq_check hmode ruleMap argMap
      rw [hevents]
      exact story_of_check hmode hrules hargs (hending ▸ h)
    · intro h
      obtain ⟨hending, hevents⟩ := validate_eq_check hmode h
      rw [hevents]
      exact story_of_check hmode hrules hargs hending

/-- The sample fails at both entry points, with its two violations. -/
theorem calls_tell_story_sample :
    ∃ failure : Failure, Engine.default.Story (.map Sample.rules) (.map Sample.args) (some failure)
        (Engine.default.normalize (.map Sample.rules) (.map Sample.args)).events ∧
      Engine.default.Story (.map Sample.rules) (.map Sample.args) (some failure)
        (Engine.default.validate (.map Sample.rules) (.map Sample.args)).2.events := by
  have hstory := @calls_tell_story Engine.default (.map Sample.rules) (.map Sample.args)
    (fun rules hrules => Option.some.inj hrules ▸ Sample.textKeyed_rules)
    (fun args hargs => Option.some.inj hargs ▸ Sample.textKeyed_args)
    (some (.validationFailure (.map Sample.rules) Sample.result.argMap Sample.result.violations))
  exact ⟨_, hstory.1 rfl, hstory.2 rfl⟩

end Engine

end ArgRules
