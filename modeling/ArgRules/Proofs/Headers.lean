import ArgRules.Proofs.Flags
import ArgRules.Proofs.Ledger
import ArgRules.Proofs.Singleton
import ArgRules.Proofs.Strays

/-!
# What a violation tells of its rule

A violation tells the kind of its rule and whether the argument is optional, and the message tells
the latter once more. Where the entry is a rule, both are taken from the rule. Where it cannot be
used, both are taken from the map as it is, and nothing of the map is read: the argument is optional
if the entry of that flag counts as true.

So the header can change with the entry being a rule or none. Here this is followed through for the
maps that are rules but for one entry too many. The kind stays the same. The flag stays the same as
well, unless it is belied (`Reading.Belied`): then the rule is a required one, and the violation of
the map with one entry too many says that the argument is optional.

## Main definitions

* `Violation.Heads` — a violation tells a kind and whether the argument is optional
* `Engine.JudgedIn` — an entry has been judged under a name in a result
* `Rule.Belied` — the flag of a map is belied
* `Rule.Headed` — the headers of a rule and of its map with one entry too many

## Main results

* `Rule.exists_truth_isOptional` — what the flag of a map that is read counts as
* `Engine.JudgedIn.heads` — a rule is reported with its own header
* `Engine.JudgedIn.exists_sole` — an entry that cannot be used is reported with that of its map
* `Rule.headed_of_stray` — the two headers differ exactly in flags that are belied
-/

namespace ArgRules

/-! ### Headers -/

namespace Violation

/-- A violation tells a kind and whether the argument is optional, and so does its message. -/
structure Heads (violation : Violation) (kind : Kind) (isOptional : Bool) : Prop where
  kind : violation.kind = some kind.name
  optional : violation.isOptional = isOptional
  message : "Optional ".toList <+: violation.message.toList ↔ isOptional = true

variable {name entry value : Value} {kind : Kind} {isOptional : Bool} {violation : Violation}

/-- A message begins with the word for it exactly if the argument is optional. -/
theorem isPrefix_messageText {header : Header} {shown preview : String} {reasons : List String} :
    "Optional ".toList <+: (messageText header shown preview reasons).toList ↔
      header.isOptional = true := by
  obtain ⟨kind, isOptional⟩ := header
  cases isOptional with
  | true => simp [messageText, String.toList_append, List.append_assoc]
  | false => simp [messageText, String.toList_append]

/-- A violation has the header of its entry. -/
theorem heads_of_describe {reasons : List String}
    (hheader : Header.ofEntry entry = .ok ⟨some kind.name, isOptional⟩)
    (h : describe name entry value (.ok reasons) = .ok violation) :
    violation.Heads kind isOptional := by
  simp only [describe, bind_eq_ok, Except.ok.injEq, pure_eq_ok] at h
  obtain ⟨header, hfound, shown, -, nameText, -, _, rfl, filed, -, rfl⟩ := h
  obtain rfl := Except.ok.inj (hfound.symm.trans hheader)
  exact ⟨rfl, rfl, isPrefix_messageText⟩

theorem Header.ofEntry_of_map {entries : Entries} (hmap : entry.asMap? = some entries) :
    ofEntry entry = ofMap entries := by
  rw [ofEntry.eq_def]
  split
  · simp [Value.asMap?] at hmap
  · next found hfound => rw [Option.some.inj (hfound.symm.trans hmap)]
  · next hnone => simp [hmap] at hnone

/-- The header of a map that names its kind. -/
theorem Header.ofMap_of_kind {entries : Entries} {counts : Bool}
    (hkind : Rule.fieldValue? entries .kind = some (.text kind.name))
    (hcounts : ((Rule.fieldValue? entries .isOptional).getD .null).truth = .ok counts) :
    ofMap entries = .ok ⟨some kind.name, counts⟩ := by
  rw [Rule.fieldValue?] at hkind hcounts
  simp only [ofMap, hkind, hcounts, Option.getD_some, kind.truth_name, Value.display_text, bind,
    Except.bind, if_true]
  rfl

end Violation

/-! ### The flag of a map -/

namespace Rule

/-- The flag that says whether an argument is optional is belied in a map. -/
def Belied (entries : Entries) : Prop :=
  ∃ value ∈ fieldValue? entries .isOptional, Reading.Belied value

variable {entries : Entries} {kind : Kind} {rule : Rule}

/-- What is read for a flag is what its entry is read as, or false. -/
theorem yields_readFlag {field : Field} {b : Bool} (h : Yields (readFlag entries field) b) :
    fieldValue? entries field = none ∧ b = false ∨
      ∃ value, fieldValue? entries field = some value ∧ Reading.flag value = .ok b := by
  rw [readFlag, readField] at h
  split at h
  · next hnone => exact Or.inl ⟨hnone, (yields_pure_iff.mp h).symm⟩
  · next value hvalue =>
    refine Or.inr ⟨value, hvalue, ?_⟩
    cases hflag : Reading.flag value with
    | ok found =>
      rw [hflag] at h
      exact congrArg Except.ok (yields_pure_iff.mp h)
    | error problem =>
      rw [hflag] at h
      cases h

/-- What the flag of a map that is read counts as. -/
theorem exists_truth_isOptional (h : read (some kind) entries = .ok (.ok rule)) :
    ∃ counts, ((fieldValue? entries .isOptional).getD .null).truth = .ok counts ∧
      (counts = true ↔ rule.frame.isOptional = true ∨ Belied entries) := by
  obtain ⟨hoptional, -⟩ := yields_readRecord_iff.mp (read_eq_ok_iff.mp h)
  rcases yields_readFlag hoptional with ⟨hnone, hfalse⟩ | ⟨value, hvalue, hflag⟩
  · refine ⟨false, by rw [hnone]; rfl, ?_⟩
    simp [Belied, hnone, hfalse]
  · obtain ⟨counts, htruth, hiff⟩ := Reading.exists_truth_of_flag hflag
    refine ⟨counts, by rw [hvalue]; exact htruth, ?_⟩
    simpa [Belied, hvalue] using hiff

/-- A flag that is belied is that of a required rule. -/
theorem Belied.isOptional_eq_false (hbelied : Belied entries)
    (h : read (some kind) entries = .ok (.ok rule)) : rule.frame.isOptional = false := by
  obtain ⟨hoptional, -⟩ := yields_readRecord_iff.mp (read_eq_ok_iff.mp h)
  obtain ⟨value, hvalue, hbelied⟩ := hbelied
  rcases yields_readFlag hoptional with ⟨hnone, hfalse⟩ | ⟨other, hother, hflag⟩
  · exact hfalse
  · obtain rfl := Option.some.inj (hother.symm.trans hvalue)
    exact Except.ok.inj (hflag.symm.trans hbelied.flag_eq_false)

end Rule

/-! ### Results -/

namespace Engine

/-- An entry has been judged under a name in a result: some engine that is not switched off came to
the result, with any other entries and any arguments. -/
inductive JudgedIn (entry : Value) (name : String) : CheckResult → Prop
  | intro {engine : Engine} {ruleMap argMap : Value} {rules args : Entries} {result : CheckResult}
      (active : engine.mode ≠ .off) (ruleEntries : ruleMap.asMap? = some rules)
      (argEntries : argMap.asMap? = some args) (ruleKeys : TextKeyed rules)
      (argKeys : TextKeyed args) (judged : engine.judges rules name = true)
      (given : rules.get? (.text name) = some entry)
      (answer : (engine.evaluate ruleMap argMap).answer = .ok result) :
      JudgedIn entry name result

variable {engine : Engine} {checkNames : Bool} {key entry value : Value} {rule : Rule}
  {name : String} {result : CheckResult} {verdict : Verdict}

/-- What is reported of a judged entry is what is said against it. -/
theorem JudgedIn.exists_judged (h : JudgedIn entry name result) :
    ∃ engine checkNames key value verdict, Judged engine checkNames key entry value verdict ∧
      result.violations.filter (·.argName = name) = verdict.violation.toList := by
  obtain ⟨active, ruleEntries, argEntries, ruleKeys, argKeys, judged, given, answer⟩ := h
  obtain ⟨verdicts, extra, haccount⟩ :=
    exists_account_of_evaluate active ruleEntries argEntries ruleKeys argKeys answer
  obtain ⟨key, verdict, -, hjudged, -, hfilter⟩ :=
    haccount.exists_sole_verdict ruleKeys argKeys judged given
  exact ⟨_, _, key, _, verdict, hjudged, hfilter⟩

/-- Whatever is said against a rule has the header of the rule. -/
theorem Judged.heads (h : Judged engine checkNames key entry value verdict)
    (hparsed : Rule.ofEntry entry = .ok (.ok rule)) {kind : Kind}
    (hk : rule.frame.constraint.kind? = some kind) {violation : Violation}
    (hviolation : violation ∈ verdict.violation) :
    violation.Heads kind rule.frame.isOptional := by
  rcases h.exists_describe hviolation with
    ⟨reason, parsed, -⟩ | ⟨found, shown, reasons, parsed, -, described⟩
  · cases Except.ok.inj (parsed.symm.trans hparsed)
  · obtain rfl : found = rule := Except.ok.inj (Except.ok.inj (parsed.symm.trans hparsed))
    exact Violation.heads_of_describe (Violation.Header.ofEntry_toValue hk) described

/-- **A rule is reported with its own header.** -/
theorem JudgedIn.heads (h : JudgedIn entry name result)
    (hparsed : Rule.ofEntry entry = .ok (.ok rule)) {kind : Kind}
    (hk : rule.frame.constraint.kind? = some kind) {violation : Violation}
    (hmem : violation ∈ result.violations) (hname : violation.argName = name) :
    violation.Heads kind rule.frame.isOptional := by
  obtain ⟨engine, checkNames, key, value, verdict, hjudged, hfilter⟩ := h.exists_judged
  refine hjudged.heads hparsed hk (Option.mem_toList.mp ?_)
  rw [← hfilter]
  exact List.mem_filter.mpr ⟨hmem, decide_eq_true hname⟩

/-- **An entry that cannot be used is reported once,** with its reason and the header of its map. -/
theorem JudgedIn.exists_sole (h : JudgedIn entry name result) {reason : String}
    (hparsed : Rule.ofEntry entry = .ok (.error reason)) {kind : Kind} {isOptional : Bool}
    (hheader : Violation.Header.ofEntry entry = .ok ⟨some kind.name, isOptional⟩) :
    ∃ violation, result.violations.filter (·.argName = name) = [violation] ∧
      violation.reasons = [reason] ∧ violation.Heads kind isOptional := by
  obtain ⟨engine, checkNames, key, value, verdict, hjudged, hfilter⟩ := h.exists_judged
  obtain ⟨violation, rfl, hdescribed⟩ := hjudged.described_of_unusable hparsed
  exact ⟨violation, hfilter, (Violation.describe_eq_ok hdescribed).1,
    Violation.heads_of_describe hheader hdescribed⟩

/-- A single entry that cannot be used comes to a result exactly if the value has a preview. -/
theorem returns_single_of_unusable (hmode : engine.mode ≠ .off)
    (hname : Directive.isName name = false) {reason : String}
    (hparsed : Rule.ofEntry entry = .ok (.error reason)) {header : Violation.Header}
    (hheader : Violation.Header.ofEntry entry = .ok header) :
    (engine.evaluate (.map (Entries.single name entry))
        (.map (Entries.single name value))).Returns ↔ Answered value.preview := by
  rw [returns_single_iff hmode hname]
  constructor
  · rintro ⟨verdict, h⟩
    obtain ⟨violation, -, hdescribed⟩ := (judged_of_judge h).described_of_unusable hparsed
    simp only [Violation.describe, bind_eq_ok] at hdescribed
    obtain ⟨-, -, shown, hshown, -⟩ := hdescribed
    exact ⟨shown, hshown⟩
  · intro hshown
    obtain ⟨violation, described⟩ :
        Answered (Violation.describe (.text name) entry value (.ok [reason])) :=
      Violation.answered_describe rfl ⟨header, hheader⟩ hshown
    exact ⟨_, judge_of_judged (.unusable hparsed described)⟩

end Engine

namespace Rule

variable {entries : Entries} {entry other key anything : Value} {kind : Kind} {rule : Rule}
  {stray : String}

/-- What is told of a rule, and of its map with one entry too many. -/
structure Headed (rule : Rule) (kind : Kind) (entries : Entries) (entry other : Value)
    (stray : String) : Prop where
  /-- The added entry is all that is wrong with the map. -/
  malformed : ofEntry other = .ok (.error (malformedReason kind [strayIssue stray]))
  /-- Whatever is reported of the rule has the header of the rule. -/
  own : ∀ name result, Engine.JudgedIn entry name result →
    ∀ violation ∈ result.violations, violation.argName = name →
      violation.Heads kind rule.frame.isOptional
  /-- One violation is reported of the map with the added entry. It has the header of the rule,
  unless the flag is belied: then the rule is a required one, and the header is that of an optional
  one. -/
  added : ∀ name result, Engine.JudgedIn other name result →
    ∃ violation, result.violations.filter (·.argName = name) = [violation] ∧
      violation.reasons = [malformedReason kind [strayIssue stray]] ∧
      (¬ Belied entries → violation.Heads kind rule.frame.isOptional) ∧
      (Belied entries → rule.frame.isOptional = false ∧ violation.Heads kind true)
  /-- There is such a result for every value that has a preview. -/
  returns : ∀ (engine : Engine) name value, engine.mode ≠ .off →
    Directive.isName name = false →
    ((engine.evaluate (.map (Entries.single name other))
        (.map (Entries.single name value))).Returns ↔ Answered value.preview)

/-- **The header of a rule and that of its map with one entry too many** differ exactly in flags
that are belied. -/
theorem headed_of_stray (hmap : entry.asMap? = some entries)
    (hrule : ofEntry entry = .ok (.ok rule)) (hkey : key.asText? = some stray)
    (hstray : ∀ field ∈ rule.frame.constraint.fields, field.name ≠ stray)
    (hother : other.asMap? = some (entries.put key anything)) :
    ∃ kind, rule.frame.constraint.kind? = some kind ∧
      rule.Headed kind entries entry other stray := by
  obtain ⟨kind, hnamed, hread⟩ := read_of_ofEntry hmap hrule
  have hk := (of_read hread).1
  have hfields : ∀ field ∈ declaredFields (some kind), field.name ≠ stray := by
    rw [Constraint.fields, hk] at hstray
    exact hstray
  have hsame {field : Field} (hfield : field ∈ declaredFields (some kind)) :
      fieldValue? (entries.put key anything) field = fieldValue? entries field :=
    fieldValue?_put hkey (hfields field hfield) anything
  have hmalformed := ofEntry_put hkey hfields hmap hother hrule hk
  obtain ⟨counts, hcounts, hiff⟩ := exists_truth_isOptional hread
  -- The kind and the flag are not at the added name, so the map tells what it told before.
  have hheader : Violation.Header.ofEntry other = .ok ⟨some kind.name, counts⟩ := by
    rw [Violation.Header.ofEntry_of_map hother]
    apply Violation.Header.ofMap_of_kind
    · rw [hsame (by simp [declaredFields]), hnamed]
    · rw [hsame (by simp [declaredFields, Field.shared]), hcounts]
  refine ⟨kind, hk, hmalformed, ?_, ?_, ?_⟩
  · intro name result hjudged violation hmem hname
    exact hjudged.heads hrule hk hmem hname
  · intro name result hjudged
    obtain ⟨violation, hfilter, hreasons, hheads⟩ := hjudged.exists_sole hmalformed hheader
    refine ⟨violation, hfilter, hreasons, fun hplain => ?_, fun hbelied => ?_⟩
    · have hcounts : counts = rule.frame.isOptional := by
        rw [Bool.eq_iff_iff, hiff, or_iff_left hplain]
      exact hcounts ▸ hheads
    · have hcounts : counts = true := hiff.mpr (Or.inr hbelied)
      exact ⟨hbelied.isOptional_eq_false hread, hcounts ▸ hheads⟩
  · intro engine name value hmode hname
    exact Engine.returns_single_of_unusable hmode hname hmalformed hheader

end Rule

namespace Sample

/-- A rule for a required argument whose flag is written as a word. -/
def worded : Entries := [(.text "kind", .text "integer"), (.text "is_optional", .text "false")]

/-- The rule that is written so. -/
def wordedRule : Rule :=
  ⟨⟨false, false, .integer none none false, [.isOptional, .kind]⟩, .null⟩

/-- An argument that is no number. -/
def flagged : Entries := [(.text "count", .bool true)]

end Sample

/-- The sample rule and its map with an entry for a field that there is not. -/
theorem Rule.headed_of_stray_sample :
    ofEntry (.map Sample.worded) = .ok (.ok Sample.wordedRule) ∧
      (∀ field ∈ Sample.wordedRule.frame.constraint.fields, field.name ≠ "foo") ∧
      ∃ kind, Sample.wordedRule.frame.constraint.kind? = some kind ∧
        Sample.wordedRule.Headed kind Sample.worded (.map Sample.worded)
          (.map (Sample.worded.put (.text "foo") .null)) "foo" := by
  have hrule : ofEntry (.map Sample.worded) = .ok (.ok Sample.wordedRule) := rfl
  have hstray : ∀ field ∈ Sample.wordedRule.frame.constraint.fields, field.name ≠ "foo" := by
    decide
  exact ⟨hrule, hstray, headed_of_stray rfl hrule rfl hstray rfl⟩

/-- But the flag of that rule is belied: it is the rule of a required argument, and with one entry
too many the argument is reported as an optional one. -/
theorem Rule.headers_differ_sample :
    ofEntry (.map Sample.worded) = .ok (.ok Sample.wordedRule) ∧
      (Engine.default.evaluate (.map [(.text "count", .map Sample.worded)])
        (.map Sample.flagged)).answer = .ok ⟨[("count", .bool true)], [],
          [⟨"count", some "integer", false, "True", ["is not a number (Boolean)"],
            "Argument |count| data type |integer| True is not a number (Boolean)"⟩]⟩ ∧
      (Engine.default.evaluate
        (.map [(.text "count", .map (Sample.worded.put (.text "foo") .null))])
        (.map Sample.flagged)).answer = .ok ⟨[("count", .bool true)], [],
          [⟨"count", some "integer", true, "True",
            ["rule is malformed: foo: Extra inputs are not permitted"],
            "Optional Argument |count| data type |integer| True " ++
              "rule is malformed: foo: Extra inputs are not permitted"⟩]⟩ :=
  ⟨rfl, rfl, rfl⟩

end ArgRules
