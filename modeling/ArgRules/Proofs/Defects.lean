import ArgRules.Proofs.Answers
import ArgRules.Proofs.Isolation
import ArgRules.Proofs.Unusable

/-!
# Entries that can be judged

An entry of a rule map can be any value. It is asked whether it is a rule, and if it is not, what
the message about it should say; an answer may be refused, and then the call stops. Here it is said
which answers are needed, and that with these every call for plain arguments comes to a result,
whatever is wrong with the entries.

## What is needed

The kind of a map has to tell whether it counts as true, and if it does, it is looked up among the
supported kinds and shown, so it has to be a value that can be looked up and has a text. The mark of
an optional argument has to tell whether it counts as true. The source of a pattern has to be one
that is either compiled or refused. And a rule needs a kind, limits that can be written, a pattern
that can be searched for and a default that can be shown. All other fields are read, whatever they
hold.

## Main definitions

* `Value.IsPlain` — the plain values
* `Rule.Orderly` — an entry answers what it is asked
* `Directive.Readable` — the directives of a rule map answer what they are asked

## Main results

* `Rule.answered_read` — a record is read, or its issues are told
* `Engine.answered_judge_of_orderly` — an entry that answers is judged
* `Engine.defects_reported` — calls come to a result, and entries that cannot be used are isolated
-/

namespace ArgRules

/-! ### Plain values -/

/-- The plain values: null, the mark of absence, truth values, texts and whole numbers that are
short enough to be written. -/
inductive Value.IsPlain : Value → Prop
  | null : IsPlain .null
  | undefined : IsPlain .undefined
  | bool (b : Bool) : IsPlain (.bool b)
  | text (s : String) : IsPlain (.text s)
  | whole {n : Int} {box : Option Nat} (writable : Numeral.isWritable n = true) :
      IsPlain (.number ⟨.int n, box⟩)

namespace Value.IsPlain

variable {value : Value}

theorem answered_tag (h : value.IsPlain) : Answered value.tag := by
  cases h <;> exact ⟨_, rfl⟩

theorem answered_display (h : value.IsPlain) : Answered value.display := by
  cases h with
  | whole writable =>
    rw [display_int]
    exact answered_intText writable
  | _ => exact ⟨_, rfl⟩

theorem answered_preview (h : value.IsPlain) : Answered value.preview :=
  Value.answered_preview h.answered_tag h.answered_display

theorem answered_truth (h : value.IsPlain) : Answered value.truth := by
  cases h <;> exact ⟨_, rfl⟩

theorem answered_checkKindKey (h : value.IsPlain) : Answered (Rule.checkKindKey value) := by
  cases h <;> exact ⟨(), by simp [Rule.checkKindKey, checkKey]⟩

theorem tag_ne (h : value.IsPlain) : value.tag ≠ .ok .object ∧ value.tag ≠ .ok .array := by
  cases h <;> simp [tag]

/-- Every check can read a plain value. -/
theorem canRead (h : value.IsPlain) (constraint : Constraint) : constraint.CanRead value := by
  cases constraint with
  | integer low high autobound => exact fun _ _ => h.answered_display
  | map allowEmpty => exact fun _ htag => absurd htag h.tag_ne.1
  | _ => exact trivial

theorem sized (h : value.IsPlain) : value.Sized := fun htag => absurd htag h.tag_ne.2

end Value.IsPlain

/-! ### Reading records -/

namespace Rule

/-- A step of reading a record comes to its end, whatever has been noted before. -/
def Runs {α : Type} (reader : Reader α) : Prop := ∀ issues, Answered (reader.run issues)

section Runs

variable {α β : Type} {reader : Reader α} {f : α → Reader β}

theorem runs_pure (a : α) : Runs (pure a) := fun _ => ⟨_, rfl⟩

theorem Runs.bind (h : Runs reader) (hf : ∀ a, Runs (f a)) : Runs (reader >>= f) :=
  fun issues => (h issues).bind fun result _ => hf result.1 result.2

theorem runs_modify (change : List Issue → List Issue) : Runs (modify change) := fun _ => ⟨_, rfl⟩

variable {entries : Entries} {field : Field} {default : α}
  {read : Value → Except Fault (Except (List Issue) α)}

/-- A field is read if its value is. -/
theorem runs_readField
    (h : ∀ value, fieldValue? entries field = some value → Answered (read value)) :
    Runs (readField entries field default read) := by
  rw [readField]
  split
  · exact runs_pure _
  · next value hvalue =>
    refine Runs.bind (fun issues => ?_) fun found => ?_
    · exact (h value hvalue).bind fun _ _ => answered_pure _
    · split
      · exact runs_pure _
      · exact (runs_modify _).bind fun _ => runs_pure _

end Runs

variable {entries : Entries} {field : Field} {kind : Kind}

theorem runs_readFlag : Runs (readFlag entries field) :=
  runs_readField fun _ _ => answered_ok _

theorem runs_readWhole {α : Type} {read : Value → Except Problem α} :
    Runs (readWhole read entries field) :=
  runs_readField fun value _ => by split <;> exact answered_ok _

theorem runs_readLimit : Runs (readLimit entries field) :=
  runs_readField fun value _ => by split <;> exact answered_ok _

/-- A pattern is read if its source is compiled or refused. -/
theorem runs_readPattern
    (h : ∀ value, fieldValue? entries field = some value → Answered (Reading.pattern value)) :
    Runs (readPattern entries field) := by
  refine runs_readField fun value hvalue => ?_
  split
  · exact answered_ok _
  · refine (h value hvalue).bind fun found _ => ?_
    split <;> exact answered_pure _

theorem runs_readKind : Runs (readKind entries kind) :=
  runs_readField fun value _ => by split <;> exact answered_ok _

/-- The source of the pattern of a record is compiled or refused. Only records of texts have one. -/
def PatternReadable (kind : Kind) (entries : Entries) : Prop :=
  kind = .string → ∀ value, fieldValue? entries .filterPattern = some value →
    Answered (Reading.pattern value)

theorem runs_readConstraint (h : PatternReadable kind entries) :
    Runs (readConstraint entries kind) := by
  cases kind with
  | array =>
    exact runs_readFlag.bind fun _ => runs_readWhole.bind fun _ => runs_readWhole.bind
      fun _ => runs_pure _
  | map => exact runs_readFlag.bind fun _ => runs_pure _
  | integer =>
    exact runs_readWhole.bind fun _ => runs_readWhole.bind fun _ => runs_readFlag.bind
      fun _ => runs_pure _
  | number =>
    exact runs_readLimit.bind fun _ => runs_readLimit.bind fun _ => runs_readFlag.bind
      fun _ => runs_pure _
  | string =>
    exact runs_readFlag.bind fun _ => (runs_readPattern (h rfl)).bind fun _ =>
      runs_readWhole.bind fun _ => runs_readWhole.bind fun _ => runs_pure _
  | _ => exact runs_pure _

theorem runs_reportStrays (given : List Field) (entries : Entries) :
    Runs (reportStrays given entries) := by
  induction entries with
  | nil => exact runs_pure _
  | cons entry rest ih =>
    rw [reportStrays]
    split
    · exact (runs_modify _).bind fun _ => ih
    · exact ih

/-- **A record is read, or its issues are told,** whatever its fields hold. -/
theorem answered_read (h : PatternReadable kind entries) : Answered (read (some kind) entries) := by
  have hruns : Runs (readRecord (some kind) entries) :=
    runs_readFlag.bind fun _ => runs_readFlag.bind fun _ =>
      runs_readKind.bind fun _ => (runs_readConstraint h).bind fun _ =>
        (runs_reportStrays _ _).bind fun _ => runs_pure _
  exact (hruns []).bind fun _ _ => answered_pure _

/-! ### Entries that answer -/

/-- A rule has all that a judgement asks of it: a kind, limits that can be written, a pattern that
can be searched for, and a default that can be shown. -/
structure Judgeable (rule : Rule) : Prop where
  kind : ∃ kind, rule.frame.constraint.kind? = some kind
  sound : rule.frame.constraint.Sound
  defaultTag : Answered rule.default.tag
  defaultPreview : Answered rule.default.preview

/-- An entry of a rule map answers what it is asked. -/
structure Orderly (entry : Value) : Prop where
  /-- The kind of a map tells whether it counts as true. If it does, it can be looked up and it has
  a text. -/
  kind : ∀ entries, entry.asMap? = some entries → ∀ kind ∈ fieldValue? entries .kind,
    Answered kind.truth ∧
      (kind.truth = .ok true → Answered (checkKindKey kind) ∧ Answered kind.display)
  /-- The mark of an optional argument tells whether it counts as true. -/
  isOptional : ∀ entries, entry.asMap? = some entries →
    ∀ isOptional ∈ fieldValue? entries .isOptional, Answered isOptional.truth
  /-- The source of a pattern is compiled or refused. -/
  pattern : ∀ entries, entry.asMap? = some entries →
    fieldValue? entries .kind = some (.text Kind.string.name) →
      ∀ source ∈ fieldValue? entries .filterPattern, Answered (Reading.pattern source)
  /-- If the entry is a rule, it can be judged. -/
  judgeable : ∀ rule, ofEntry entry = .ok (.ok rule) → rule.Judgeable

/-- A map whose kind can be looked up and has a text is read, or there is a reason against it. -/
theorem answered_ofMap {entries : Entries} {kind : Value} (hkey : Answered (checkKindKey kind))
    (hshown : Answered kind.display)
    (hpattern : kind = .text Kind.string.name → PatternReadable .string entries) :
    Answered (ofMap entries kind) := by
  refine hkey.bind fun _ _ => ?_
  split
  · next text _ =>
    cases hnamed : Kind.ofName? text with
    | none => exact hshown.bind fun _ _ => answered_pure _
    | some named =>
      have hreadable : PatternReadable named entries := by
        rintro rfl
        exact hpattern (congrArg _ (Kind.name_of_ofName? hnamed).symm) rfl
      refine (answered_read hreadable).bind fun found _ => ?_
      split <;> exact answered_pure _
  · exact hshown.bind fun _ _ => answered_pure _

namespace Orderly

variable {entry : Value}

/-- An entry that answers is a rule, or there is a reason why it cannot be used. -/
theorem answered_ofEntry (h : Orderly entry) : Answered (ofEntry entry) := by
  rw [ofEntry.eq_def]
  split
  · exact answered_pure _
  · split
    · exact answered_pure _
    · next entries hmap =>
      split
      · exact answered_pure _
      · next kind hkind =>
        obtain ⟨htruth, hlooked⟩ := h.kind entries hmap kind hkind
        refine htruth.bind fun isTrue htrue =>
          answered_ite (fun hyes => ?_) fun _ => answered_pure _
        subst hyes
        obtain ⟨hkey, hshown⟩ := hlooked htrue
        refine answered_ofMap hkey hshown ?_
        rintro rfl - source hsource
        exact h.pattern entries hmap hkind source hsource

/-- What a message tells of an entry that cannot be used is there. -/
theorem answered_header (h : Orderly entry) {reason : String}
    (hunusable : ofEntry entry = .ok (.error reason)) :
    Answered (Violation.Header.ofEntry entry) := by
  have of_getD {asked : Option Value} (hasked : ∀ value ∈ asked, Answered value.truth) :
      Answered (asked.getD .null).truth := by
    cases asked with
    | none => exact answered_ok _
    | some value => exact hasked value rfl
  rw [Violation.Header.ofEntry.eq_def]
  split
  · have hrule := Except.ok.inj hunusable
    contradiction
  · next entries _ hmap =>
    have htruth : Answered ((fieldValue? entries .kind).getD .null).truth :=
      of_getD fun kind hkind => (h.kind entries hmap kind hkind).1
    have hoptional : Answered ((fieldValue? entries .isOptional).getD .null).truth :=
      of_getD fun value hvalue => h.isOptional entries hmap value hvalue
    refine htruth.bind fun isTrue htrue => answered_ite (fun hyes => ?_) fun _ =>
      (answered_pure none).bind fun _ _ => hoptional.bind fun _ _ => answered_pure _
    subst hyes
    cases hfound : fieldValue? entries .kind with
    | none =>
      rw [hfound] at htrue
      contradiction
    | some kind =>
      rw [hfound] at htrue
      obtain ⟨text, htext⟩ := ((h.kind entries hmap kind hfound).2 htrue).2
      have hshown : ((fieldValue? entries .kind).getD .null).display = .ok text := by
        rw [hfound]
        exact htext
      exact Answered.bind ⟨some text, congrArg (Except.map some) hshown⟩ fun _ _ =>
        hoptional.bind fun _ _ => answered_pure _
  · exact answered_ok _

/-- A map of plain values answers, if it has no pattern and can be judged as a rule. -/
theorem of_plain {entries : Entries} (hplain : ∀ entry ∈ entries, entry.2.IsPlain)
    (hpattern : fieldValue? entries .filterPattern = none)
    (hjudgeable : ∀ rule, ofEntry (.map entries) = .ok (.ok rule) → rule.Judgeable) :
    Orderly (.map entries) := by
  have hfield {field : Field} {value : Value} (h : value ∈ fieldValue? entries field) :
      value.IsPlain := by
    obtain ⟨key, -, hmem⟩ := Table.mem_of_get?_cons h
    exact hplain _ hmem
  refine ⟨?_, ?_, ?_, hjudgeable⟩
  · rintro _ ⟨⟩ kind hgiven
    have hkind := hfield hgiven
    exact ⟨hkind.answered_truth, fun _ => ⟨hkind.answered_checkKindKey, hkind.answered_display⟩⟩
  · rintro _ ⟨⟩ value hgiven
    exact (hfield hgiven).answered_truth
  · rintro _ ⟨⟩ - source hgiven
    cases hpattern.symm.trans hgiven

/-- A value that is neither a map nor a rule is asked nothing. -/
theorem of_noMap (hmap : entry.asMap? = none)
    (hrule : ∀ frame default, entry ≠ .rule frame default) : Orderly entry := by
  refine ⟨by simp [hmap], by simp [hmap], by simp [hmap], fun rule h => ?_⟩
  rw [unusable_iff.mpr (.kindless hrule (by simp [hmap]))] at h
  cases Except.ok.inj h

end Orderly

end Rule

namespace Engine

variable {engine : Engine} {checkNames : Bool} {key entry value : Value} {name : String}

/-- **An entry that answers is judged,** with any plain argument. -/
theorem answered_judge_of_orderly (hentry : Rule.Orderly entry) (hvalue : value.IsPlain)
    (hname : key.asText? = some name) (hconv : checkNames = true → engine.conventions.Answer) :
    Answered (engine.judge checkNames key entry value) := by
  obtain ⟨parsed, hparsed⟩ := hentry.answered_ofEntry
  cases parsed with
  | error reason =>
    have hdescribed : Answered (Violation.describe key entry value (.ok [reason])) :=
      Violation.answered_describe hname (hentry.answered_header hparsed) hvalue.answered_preview
    exact Answered.bind ⟨_, hparsed⟩ fun again hagain => by
      obtain rfl := Except.ok.inj (hparsed.symm.trans hagain)
      exact hdescribed.bind fun _ _ => answered_pure _
  | ok rule =>
    obtain ⟨⟨kind, hkind⟩, hsound, htag, hpreview⟩ := hentry.judgeable rule hparsed
    have heffective : Answered (rule.effective value).tag ∧
        Answered (rule.effective value).preview := by
      rw [Rule.effective]
      split
      · exact ⟨htag, hpreview⟩
      · exact ⟨hvalue.answered_tag, hvalue.answered_preview⟩
    exact answered_judge hparsed hkind hname hconv heffective.1
      (fun _ tag ht => (Kind.answered_check_iff hkind hsound ht hvalue.sized).mpr
        (hvalue.canRead _)) (Or.inl heffective.2)

end Engine

/-! ### Directives that answer -/

/-- The directives of a rule map answer what they are asked: each tells whether it counts as true,
and what lists the skipped keys, if it does, hands out items that can be keys, and comes to an
end. -/
structure Directive.Readable (rules : Entries) : Prop where
  skips : Answered (value rules skipKeys).truth
  listed : (value rules skipKeys).truth = .ok true →
    Value.checkKeys (value rules skipKeys).listing.items = .ok () ∧
      (value rules skipKeys).listing.ending = .ok ()
  checks : Answered (value rules checkNames).truth
  allows : Answered (value rules allowExtraKeys).truth

/-- The skipped keys can be listed. -/
theorem Directive.Readable.answered_skippedKeys {rules : Entries} (h : Readable rules) :
    Answered (Policy.skippedKeys (value rules skipKeys)) := by
  refine h.skips.bind fun counts hcounts => answered_ite (fun _ => answered_pure _) fun hyes => ?_
  obtain rfl : counts = true := by simpa using hyes
  obtain ⟨hchecked, hended⟩ := h.listed hcounts
  exact Answered.bind ⟨(), hchecked⟩ fun _ _ => Answered.bind ⟨(), hended⟩ fun _ _ =>
    answered_pure _

/-- Directives that answer have a policy; in strict mode nothing is asked of them. -/
theorem Policy.exists_ofMode_of_readable {mode : Mode} {rules : Entries}
    (h : mode = .normal → Directive.Readable rules) (hmode : mode ≠ .off) :
    ∃ policy, ofMode mode rules = .ok policy ∧ Answered policy.allowExtra := by
  cases mode with
  | off => contradiction
  | strict => exact ⟨strict, rfl, answered_ok _⟩
  | normal =>
    obtain ⟨keys, hkeys⟩ := (h rfl).answered_skippedKeys
    obtain ⟨checked, hchecked⟩ := (h rfl).checks
    have hallow := (h rfl).allows
    exact ⟨_, bind_eq_ok.mpr ⟨keys, hkeys, bind_eq_ok.mpr ⟨checked, hchecked, rfl⟩⟩, hallow⟩

namespace Engine

variable {engine : Engine} {ruleMap argMap : Value} {rules args : Entries}

/-- Names that are texts can be told to be unexpected. -/
theorem answered_unexpectedAll {keys : List Value}
    (h : ∀ key ∈ keys, ∃ name, key.asText? = some name) : Answered (unexpectedAll keys) := by
  induction keys with
  | nil => exact answered_pure _
  | cons key rest ih =>
    obtain ⟨name, hname⟩ := h key (List.mem_cons_self ..)
    obtain ⟨hshown, hfiled⟩ := Violation.answered_filedName hname
    have hfirst : Answered (Violation.unexpected key) :=
      hshown.bind fun _ _ => hfiled.bind fun _ _ => answered_pure _
    exact hfirst.bind fun _ _ => (ih fun other hother => h other
      (List.mem_cons_of_mem _ hother)).bind fun _ _ => answered_pure _

/-- **A call for plain arguments comes to a result** if the directives and the entries answer what
they are asked. -/
theorem returns_of_orderly (hmode : engine.mode ≠ .off) (hruleMap : ruleMap.asMap? = some rules)
    (hargMap : argMap.asMap? = some args) (hrules : TextKeyed rules) (hargs : TextKeyed args)
    (hconv : engine.checksNames rules = true → engine.conventions.Answer)
    (hdirectives : engine.mode = .normal → Directive.Readable rules)
    (hentries : ∀ entry ∈ engine.judgedEntries rules, Rule.Orderly entry.2)
    (hplain : ∀ entry ∈ args, entry.2.IsPlain) : (engine.evaluate ruleMap argMap).Returns := by
  obtain ⟨policy, hpolicy, allow, hallow⟩ := Policy.exists_ofMode_of_readable hdirectives hmode
  have hfollows := Policy.follows_of_ofMode hmode hpolicy
  have hargument (key : Value) : (argument args key).IsPlain := by
    rw [argument]
    cases hfound : args.get? key with
    | none => exact .undefined
    | some value =>
      obtain ⟨other, -, hmem⟩ := Table.mem_of_get?_cons hfound
      exact hplain _ hmem
  have hjudge : ∀ entry ∈ policy.judged rules, ∃ verdict,
      engine.judge policy.checkNames entry.1 entry.2 (argument args entry.1) = .ok verdict ∧
        True := by
    rintro ⟨key, raw⟩ hentry
    obtain ⟨name, hname⟩ := hrules.isText key
      (Table.mem_keys_of_mem (List.filter_sublist.subset hentry))
    rw [hfollows.judged_eq hrules] at hentry
    rw [hfollows.checkNames]
    obtain ⟨verdict, hverdict⟩ :=
      answered_judge_of_orderly (hentries _ hentry) (hargument key) hname hconv
    exact ⟨verdict, hverdict, trivial⟩
  obtain ⟨verdicts, hverdicts, -⟩ := exists_judgeAll (P := fun _ _ => True) hjudge
  obtain ⟨extra, hextra⟩ : Answered
      (unexpectedAll (if allow = true then [] else policy.unclaimed rules args)) := by
    refine answered_unexpectedAll fun key hkey => ?_
    split at hkey
    · simp at hkey
    · exact hargs.isText key (List.mem_filter.mp hkey).1
  exact (returns_iff_assess hmode hruleMap hargMap hrules hargs).mpr ⟨verdicts, extra,
    assess_eq_ok.mpr ⟨policy, hpolicy, hverdicts, allow, hallow, hextra⟩⟩

/-- **Defects are reported, and they stay isolated.** A call for plain arguments comes to a result
if the directives and the entries answer what they are asked. In every result, each entry that is
judged and cannot be used is isolated. -/
theorem defects_reported (hmode : engine.mode ≠ .off) (hruleMap : ruleMap.asMap? = some rules)
    (hargMap : argMap.asMap? = some args) (hrules : TextKeyed rules) (hargs : TextKeyed args) :
    ((engine.checksNames rules = true → engine.conventions.Answer) →
      (engine.mode = .normal → Directive.Readable rules) →
      (∀ entry ∈ engine.judgedEntries rules, Rule.Orderly entry.2) →
      (∀ entry ∈ args, entry.2.IsPlain) → (engine.evaluate ruleMap argMap).Returns) ∧
    ∀ result, (engine.evaluate ruleMap argMap).answer = .ok result →
      ∀ name entry reason, engine.judges rules name = true →
        rules.get? (.text name) = some entry → Rule.Unusable entry reason →
        engine.Isolated rules args result name reason :=
  ⟨fun hconv hdirectives hentries hplain =>
      returns_of_orderly hmode hruleMap hargMap hrules hargs hconv hdirectives hentries hplain,
    fun _ hresult _ _ _ hjudges hentry hunusable =>
      isolated_of_evaluate hmode hruleMap hargMap hrules hargs hresult hjudges hentry
        (Rule.unusable_iff.mpr hunusable)⟩

end Engine

namespace Sample

/-- A rule map with a number that may be moved, and with three entries that cannot be used: one has
no kind, one has a kind that is not supported, and one has a field that is not declared. -/
def defective : Entries :=
  [(.text "size", .map [(.text "kind", .text "number"), (.text "max_num", .int 6),
      (.text "autobound", .bool true)]),
    (.text "note", .text "a note"),
    (.text "tint", .map [(.text "kind", .text "paint")]),
    (.text "rank", .map [(.text "kind", .text "number"), (.text "least", .int 1)])]

/-- An argument for each of them. -/
def defectiveArgs : Entries :=
  [(.text "size", .int 10), (.text "note", .null), (.text "tint", .text "red"),
    (.text "rank", .bool true)]

theorem unusable_note : Rule.Unusable (.text "a note") Rule.kindMissing :=
  .kindless (by simp) (by simp [Value.asMap?])

theorem unusable_tint : Rule.Unusable (.map [(.text "kind", .text "paint")])
    "data type paint is not supported" := by
  have hkey : Rule.checkKindKey (.text "paint") = .ok () := by simp [Rule.checkKindKey]
  refine .unsupported rfl rfl rfl hkey (fun known hknown => ?_) rfl
  have hname := Value.text.inj hknown
  cases known <;> exact absurd hname (by decide)

theorem unusable_rank : Rule.Unusable
    (.map [(.text "kind", .text "number"), (.text "least", .int 1)])
    "rule is malformed: least: Extra inputs are not permitted" := by
  have hreason : Rule.malformedReason .number [⟨[.name "least"], .extraField⟩] =
      "rule is malformed: least: Extra inputs are not permitted" := by
    decide +kernel
  rw [← hreason]
  exact .malformed rfl rfl rfl

/-- All entries answer what they are asked. -/
theorem orderly_defective : ∀ entry ∈ defective, Rule.Orderly entry.2 := by
  have hshort (n : Int) (h : n ∈ [1, 6]) : Numeral.isWritable n = true := by
    have hall : [1, 6].all Numeral.isWritable = true := by decide +kernel
    exact List.all_eq_true.mp hall n h
  have hsize : Rule.ofEntry (.map [(.text "kind", .text "number"), (.text "max_num", .int 6),
      (.text "autobound", .bool true)]) = .ok (.ok ⟨⟨false, false,
        .number none (some (.int 6)) true, [.kind, .maxNum, .autobound]⟩, .null⟩) := rfl
  simp only [defective, List.forall_mem_cons, List.not_mem_nil, false_imp_iff, implies_true,
    and_true]
  refine ⟨.of_plain ?_ rfl fun rule h => ?_, .of_noMap rfl (by simp),
    .of_plain ?_ rfl fun rule h => ?_, .of_plain ?_ rfl fun rule h => ?_⟩
  · simpa using ⟨.text _, .whole (hshort 6 (by simp)), .bool _⟩
  · obtain rfl := Except.ok.inj (Except.ok.inj (hsize.symm.trans h))
    refine ⟨⟨.number, rfl⟩, ⟨fun n hn => ?_, fun p hp => ?_⟩, ⟨_, rfl⟩, ⟨_, rfl⟩⟩
    · rw [List.mem_singleton.mp hn]
      exact hshort 6 (by simp)
    · simp [Constraint.filterPattern] at hp
  · simpa using Value.IsPlain.text _
  · cases Except.ok.inj ((Rule.unusable_iff.mpr unusable_tint).symm.trans h)
  · simpa using ⟨.text _, .whole (hshort 1 (by simp))⟩
  · cases Except.ok.inj ((Rule.unusable_iff.mpr unusable_rank).symm.trans h)

end Sample

/-- The call comes to a result, in which the three entries are isolated. -/
theorem Engine.defects_reported_sample :
    ∃ result, (Engine.default.evaluate (.map Sample.defective) (.map Sample.defectiveArgs)).answer =
        .ok result ∧
      Engine.default.Isolated Sample.defective Sample.defectiveArgs result "note" Rule.kindMissing ∧
      Engine.default.Isolated Sample.defective Sample.defectiveArgs result "tint"
        "data type paint is not supported" ∧
      Engine.default.Isolated Sample.defective Sample.defectiveArgs result "rank"
        "rule is malformed: least: Extra inputs are not permitted" := by
  have hrules : TextKeyed Sample.defective := ⟨by simp [Sample.defective, Value.asText?], by decide⟩
  have hargs : TextKeyed Sample.defectiveArgs :=
    ⟨by simp [Sample.defectiveArgs, Value.asText?], by decide⟩
  have hplain : ∀ entry ∈ Sample.defectiveArgs, entry.2.IsPlain := by
    simpa [Sample.defectiveArgs] using
      ⟨.whole (by decide +kernel), .null, Value.IsPlain.text _, Value.IsPlain.bool _⟩
  have hdirectives : Directive.Readable Sample.defective :=
    ⟨⟨false, rfl⟩, fun h => (by cases Except.ok.inj h), ⟨false, rfl⟩, ⟨false, rfl⟩⟩
  obtain ⟨hreturns, hisolated⟩ := @defects_reported Engine.default (.map Sample.defective)
    (.map Sample.defectiveArgs) _ _ (by decide) rfl rfl hrules hargs
  obtain ⟨result, hresult⟩ := hreturns (fun _ => Conventions.default_answers) (fun _ => hdirectives)
    (fun entry hentry => Sample.orderly_defective entry
      ((Engine.default.judgedEntries_sublist Sample.defective).subset hentry)) hplain
  exact ⟨result, hresult, hisolated result hresult _ _ _ rfl rfl Sample.unusable_note,
    hisolated result hresult _ _ _ rfl rfl Sample.unusable_tint,
    hisolated result hresult _ _ _ rfl rfl Sample.unusable_rank⟩

/-- But a call stops at a kind that cannot be looked up. -/
theorem Engine.unhashableKind_sample :
    (Engine.default.evaluate
      (.map (Entries.single "count" (.map [(.text "kind", .list [.text "integer"])])))
      (.map (Entries.single "count" (.int 1)))).answer = .error (.fault (.noKey "list")) := by
  rfl

end ArgRules
