import ArgRules.Proofs.Answers
import ArgRules.Proofs.Clamping
import ArgRules.Proofs.Grammar

/-!
# Which kinds can be used in strict mode

In strict mode every name is checked, and no name that begins with an underscore is that of a rule.
So a kind can be used only if a name that follows its convention begins otherwise. This module says
for each kind whether there is such a name, and what an evaluation then comes to.

## Arguments of any kind

The convention for arguments of any kind asks for an underscore at the beginning of the name, and
then the name is that of a directive. So there is no such name, and only a value that is exempt from
all checks passes, as the check of its name is discarded as well.

## Optional arguments

The value of an optional argument is not examined, so it is not moved to a limit. It passes as it
was given.

## Main definitions

* `Kind.usableName` — a name that follows the convention of a kind

## Main results

* `Kind.isName_of_convention` — what follows the convention for any kind is the name of a directive
* `Engine.unusable_any` — an argument of any kind passes under no name, unless it is exempt
* `Engine.usable_kinds` — an accepted argument of another kind passes under some name
-/

namespace ArgRules

/-! ### Names that begin with an underscore -/

/-- **A name that follows the convention for any kind is that of a directive.** -/
theorem Kind.isName_of_convention {p : Pattern} {name : String}
    (hp : Kind.any.convention? = some p) (h : Convention.search p (.text name) = .ok true) :
    Directive.isName name = true := by
  have hfollows := (Kind.search_iff hp (Convention.search_of_search h)).mp rfl
  rcases hfollows with (rfl | rfl) | ⟨_, rfl, rfl | rfl⟩ <;> decide

/-! ### Names that can be used -/

/-- A name that follows the convention of a kind and is not that of a directive. For arguments of
any kind there is none, and any other name stands here. -/
def Kind.usableName : Kind → String
  | .any | .function | .svgElement => "x"
  | .array => "x_list"
  | .boolean => "is_x"
  | .integer => "x_count"
  | .map => "x_map"
  | .number => "x_num"
  | .string => "x_name"

theorem Kind.isName_usableName (kind : Kind) : Directive.isName kind.usableName = false := by
  cases kind <;> decide

theorem Kind.search_usableName {kind : Kind} (h : kind ≠ .any) :
    ∀ p ∈ kind.convention?, (p.search kind.usableName.toList).toOption = some true := by
  cases kind with
  | any => contradiction
  | _ => decide +kernel

/-- There is nothing against the name. -/
theorem Kind.reasons_usableName {kind : Kind} (h : kind ≠ .any) :
    Conventions.default.reasons kind (.text kind.usableName) = .ok [] := by
  obtain ⟨reasons, hreasons⟩ := Conventions.default_answers kind kind.usableName
  rw [hreasons]
  rw [Conventions.reasons, Conventions.default] at hreasons
  cases hp : kind.convention? with
  | none =>
    rw [hp] at hreasons
    exact congrArg _ (Except.ok.inj hreasons).symm
  | some p =>
    rw [hp] at hreasons
    obtain ⟨found, hfound, hreasons⟩ := bind_eq_ok.mp hreasons
    have htrue := search_usableName h p hp
    rw [Convention.search_of_search hfound] at htrue
    obtain rfl := Option.some.inj htrue
    exact congrArg _ (pure_eq_ok.mp hreasons).symm

/-! ### Values that are not moved -/

/-- What is no number has no place among numbers. -/
theorem Number.extent_of_isNan {n : Number} (h : n.isNan = true) : n.extent = .undefined := by
  obtain ⟨amount, box⟩ := n
  cases amount with
  | double x =>
    obtain rfl := Double.isNan_iff.mp h
    rfl
  | _ => contradiction

/-- Only a value that is not blank can be moved to a limit. -/
theorem Constraint.MovesTo.not_isBlank {constraint : Constraint} {value after : Value}
    (h : constraint.MovesTo value after) : ¬ value.IsBlank := by
  obtain ⟨n, m, rfl, -, -, hwithin, -⟩ := h
  intro hblank
  have hnan : n.extent = .undefined := Number.extent_of_isNan hblank
  refine hwithin ⟨fun limit _ => ?_, fun limit _ => ?_⟩
  · rw [Number.exceeds, hnan, Extent.lt_undefined_right]
  · rw [Number.fallsBelow, hnan, Extent.lt_undefined_left]

/-- An argument that is absent is admitted only where any argument is. -/
theorem Constraint.Admits.present {constraint : Constraint} {kind : Kind}
    (hk : constraint.kind? = some kind) (hkind : kind ≠ .any) {value : Value}
    (h : constraint.Admits value) : value ≠ .undefined := by
  rintro rfl
  cases constraint <;> simp_all [kind?, Admits, Value.tag, Value.asText?]

namespace Engine

variable {engine : Engine} {checkNames : Bool} {key entry value : Value} {rule : Rule}
  {kind : Kind} {tag : Tag} {finding : Finding}

/-- What is left of an accepted value: an optional argument is as it was given, and a required one
as the check of its kind leaves it. -/
def leftOf (rule : Rule) (value : Value) (finding : Finding) : Value :=
  if rule.frame.isOptional then value else finding.replacement.getD value

/-- Of a blank value the value itself is left. -/
theorem leftOf_of_isBlank (hk : rule.frame.constraint.kind? = some kind)
    (htag : value.tag = .ok tag)
    (hcheck : kind.check rule.frame.constraint value tag = .ok finding) (hblank : value.IsBlank) :
    leftOf rule value finding = value := by
  have hnone : finding.replacement = none := by
    refine Option.eq_none_iff_forall_not_mem.mpr fun after hafter => ?_
    exact ((Kind.check_spec hk htag hcheck).2 after hafter).not_isBlank hblank
  rw [leftOf, hnone, Option.getD_none, ite_self]

/-- Nothing is found about a value that the check of its kind accepts, whether it is examined or
not. -/
theorem exists_examine_of_accepted (hk : rule.frame.constraint.kind? = some kind)
    (hkind : kind ∈ engine.kinds) (htag : value.tag = .ok tag)
    (hcheck : kind.check rule.frame.constraint value tag = .ok finding)
    (hreasons : finding.reasons = []) :
    ∃ found, engine.examine rule value = .ok found ∧ found.reasons = [] ∧
      found.replacement.getD value = leftOf rule value finding := by
  obtain ⟨isExamined, hexamined⟩ : Answered (rule.examines value) :=
    Rule.answered_examines hk ⟨tag, htag⟩
  cases isExamined with
  | true =>
    obtain ⟨-, hrequired, -⟩ := (Rule.examines_iff hexamined).mp rfl
    refine ⟨finding, ?_, hreasons, by rw [leftOf, hrequired]; rfl⟩
    rw [examine]
    refine bind_eq_ok.mpr ⟨_, hexamined, bind_eq_ok.mpr ⟨_, Rule.kind_eq_ok.mpr hk, ?_⟩⟩
    rw [examineKind, if_pos (by simpa using hkind)]
    exact bind_eq_ok.mpr ⟨_, htag, hcheck⟩
  | false =>
    refine ⟨.unchanged [], bind_eq_ok.mpr ⟨_, hexamined, rfl⟩, rfl, ?_⟩
    have hnot : ¬ rule.Examines value := mt (Rule.examines_iff hexamined).mpr (by simp)
    cases hoptional : rule.frame.isOptional with
    | true =>
      rw [leftOf, hoptional]
      rfl
    | false =>
      -- a required argument that is not examined is blank
      have hblank : value.IsBlank := by
        by_contra hfilled
        have hpresent : value ≠ .undefined := by
          rintro rfl
          exact hfilled trivial
        exact hnot ⟨hpresent, hoptional, Or.inl hfilled⟩
      exact (leftOf_of_isBlank hk htag hcheck hblank).symm

/-- A value that is exempt is judged without a violation and left as it was given, whatever there is
against its name. -/
theorem judgeValue_of_exempts {reasons : List String}
    (hnamed : engine.nameReasons checkNames key rule = .ok reasons)
    (htag : value.tag = .ok tag) (hexempt : rule.Exempts value) :
    engine.judgeValue checkNames key rule value = .ok ⟨none, none⟩ := by
  obtain ⟨isExempt, hanswer⟩ : Answered (rule.exempts value) := Rule.answered_exempts ⟨tag, htag⟩
  obtain rfl := (Rule.exempts_iff hanswer).mpr hexempt
  rw [judgeValue]
  exact bind_eq_ok.mpr ⟨_, hnamed, bind_eq_ok.mpr ⟨_, hanswer, rfl⟩⟩

/-- **A value that the check of its kind accepts is judged without a violation** under a name that
there is nothing against. -/
theorem exists_judgeValue_of_accepted
    (hnamed : engine.nameReasons checkNames key rule = .ok [])
    (hk : rule.frame.constraint.kind? = some kind) (hkind : kind ∈ engine.kinds)
    (htag : value.tag = .ok tag)
    (hcheck : kind.check rule.frame.constraint value tag = .ok finding)
    (hreasons : finding.reasons = []) :
    ∃ verdict, engine.judgeValue checkNames key rule value = .ok verdict ∧
      verdict.violation = none ∧
      (verdict.change.map (·.after)).getD value = leftOf rule value finding := by
  obtain ⟨isExempt, hexempt⟩ : Answered (rule.exempts value) := Rule.answered_exempts ⟨tag, htag⟩
  cases isExempt with
  | true =>
    have hexempts := (Rule.exempts_iff hexempt).mp rfl
    exact ⟨_, judgeValue_of_exempts hnamed htag hexempts, rfl,
      (leftOf_of_isBlank hk htag hcheck hexempts.2).symm⟩
  | false =>
    obtain ⟨found, hfound, hnone, hleft⟩ :=
      exists_examine_of_accepted hk hkind htag hcheck hreasons
    have hviolation : Verdict.violationFor key rule value ([] ++ found.reasons) = .ok none := by
      rw [hnone]
      rfl
    refine ⟨⟨found.replacement.map (Change.mk .clamp value), none⟩, ?_, rfl, ?_⟩
    · rw [judgeValue]
      exact bind_eq_ok.mpr ⟨_, hnamed, bind_eq_ok.mpr ⟨_, hexempt, bind_eq_ok.mpr ⟨_, hfound,
        bind_eq_ok.mpr ⟨_, hviolation, rfl⟩⟩⟩⟩
    · rw [← hleft, Option.map_map]
      exact congrArg (Option.getD · _) Option.map_id'

/-- **A kind can be used in strict mode,** under a name that follows its convention: an accepted
value passes, and is left as the check of the kind leaves it, or as it was given if the argument is
optional. A value of any kind passes if it is exempt. -/
theorem usable_kinds (hmode : engine.mode = .strict) (hconventions : engine.conventions = .default)
    (hkind : kind ∈ engine.kinds) (hparsed : Rule.ofEntry entry = .ok (.ok rule))
    (hk : rule.frame.constraint.kind? = some kind) (htag : value.tag = .ok tag)
    (hcheck : kind.check rule.frame.constraint value tag = .ok finding)
    (hreasons : finding.reasons = [])
    (hany : kind = .any → rule.Exempts value ∧
      (value = .undefined → rule.frame.hasDefault = false ∧ rule.frame.isOptional = true)) :
    ∃ name result, (engine.evaluate (.map (Entries.single name entry))
        (.map (Entries.single name value))).answer = .ok result ∧ result.passed = true ∧
      result.args = [(name, leftOf rule value finding)] := by
  have hon : engine.mode ≠ .off := by simp [hmode]
  have hstrict : engine.isStrict = true := by simp [isStrict, hmode]
  have hpresent : value = .undefined →
      rule.frame.hasDefault = false ∧ rule.frame.isOptional = true := by
    intro habsent
    by_cases hkindAny : kind = .any
    · exact (hany hkindAny).2 habsent
    · have hadmits := (Kind.check_spec hk htag hcheck).1.mp hreasons
      exact absurd habsent (hadmits.present hk hkindAny)
  have hnames : engine.nameReasons true (.text kind.usableName) rule =
      Conventions.default.reasons kind (.text kind.usableName) := by
    rw [nameReasons, Rule.kind_eq_ok.mpr hk, hconventions]
    rfl
  have hjudge : ∃ verdict, engine.judgeValue true (.text kind.usableName) rule value =
      .ok verdict ∧ verdict.violation = none ∧
        (verdict.change.map (·.after)).getD value = leftOf rule value finding := by
    by_cases hkindAny : kind = .any
    · -- whatever there is against the name is discarded, since the value is exempt
      have hexempts := (hany hkindAny).1
      obtain ⟨reasons, hnamed⟩ := Conventions.default_answers kind kind.usableName
      exact ⟨_, judgeValue_of_exempts (hnames.trans hnamed) htag hexempts, rfl,
        (leftOf_of_isBlank hk htag hcheck hexempts.2).symm⟩
    · have hnamed := hnames.trans (Kind.reasons_usableName hkindAny)
      exact exists_judgeValue_of_accepted hnamed hk hkind htag hcheck hreasons
  obtain ⟨verdict, hverdict, hnone, hleft⟩ := hjudge
  have hsingle : engine.judge engine.isStrict (.text kind.usableName) entry value =
      .ok verdict := by
    rw [hstrict, judge_of_rule hparsed, judgeRule_of_present hpresent, hverdict]
  have hanswer :=
    (evaluate_single_eq_ok hon kind.isName_usableName).mpr ⟨verdict, hsingle, rfl⟩
  refine ⟨kind.usableName, _, hanswer, ?_, ?_⟩
  · simp [CheckResult.passed, CheckResult.ofVerdicts, violationsOf, hnone]
  · rw [CheckResult.args_ofVerdicts_single, hleft]

/-! ### Arguments of any kind -/

variable {name : String} {result : CheckResult}

/-- An argument with the name of a directive is left over. -/
theorem not_passed_of_directive (hmode : engine.mode = .strict)
    (hname : Directive.isName name = true)
    (h : (engine.evaluate (.map (Entries.single name entry))
      (.map (Entries.single name value))).answer = .ok result) : result.passed = false := by
  have hon : engine.mode ≠ .off := by simp [hmode]
  obtain ⟨verdicts, extra, haccount⟩ := exists_account_of_evaluate hon rfl rfl
    (Entries.textKeyed_single ..) (Entries.textKeyed_single ..) h
  have hleft : engine.leavesOver (Entries.single name entry) name = true := by
    simp [leavesOver, skips, hmode, hname]
  have hkeys : (Entries.single name value).named.keys = [name] := rfl
  have hnames := haccount.argNames_leftOver (Entries.textKeyed_single ..)
  rw [if_neg (by simp [allowsExtra, hmode]), hkeys, List.filter_cons_of_pos hleft] at hnames
  have hextra : extra ≠ [] := by
    rintro rfl
    contradiction
  rw [CheckResult.passed, haccount.violations, Bool.eq_false_iff, ne_eq, List.isEmpty_iff,
    List.append_eq_nil_iff]
  exact fun hempty => hextra hempty.2

/-- No name that is not that of a directive follows the convention for any kind. -/
theorem not_nameFits_any (hconventions : engine.conventions = .default)
    (hk : rule.frame.constraint.kind? = some .any) (hname : Directive.isName name = false) :
    ¬ engine.NameFits (.text name) rule := by
  intro hfits
  obtain ⟨p, hp⟩ : ∃ p, Kind.any.convention? = some p := ⟨_, rfl⟩
  have hmem : Convention.pattern p ∈ engine.conventions .any := by
    rw [hconventions, Conventions.default, hp]
    rfl
  obtain ⟨q, hq, hsearch⟩ := hfits .any hk _ hmem
  obtain rfl := Convention.pattern.inj hq
  rw [Kind.isName_of_convention hp hsearch] at hname
  contradiction

/-- A value that is there and not exempt has a violation under such a name. -/
theorem Judged.violation_ne_none_of_any (hconventions : engine.conventions = .default)
    (hparsed : Rule.ofEntry entry = .ok (.ok rule))
    (hk : rule.frame.constraint.kind? = some .any) (hpresent : value ≠ .undefined)
    (hexempt : ¬ rule.Exempts value) (hname : Directive.isName name = false) {verdict : Verdict}
    (h : Judged engine true (.text name) entry value verdict) : verdict.violation ≠ none := by
  have hsame {found : Rule} (hfound : Rule.ofEntry entry = .ok (.ok found)) : found = rule :=
    Except.ok.inj (Except.ok.inj (hfound.symm.trans hparsed))
  cases h with
  | unusable parsed described => simp
  | missing parsed absent bare required described => exact absurd absent hpresent
  | exemptDefault parsed absent stocked named exempt => exact absurd absent hpresent
  | default parsed absent stocked named exempt described => exact absurd absent hpresent
  | exempt parsed present named exempt =>
    obtain rfl := hsame parsed
    exact absurd ((Rule.exempts_iff exempt).mp rfl) hexempt
  | checked parsed present named exempt examined described =>
    obtain rfl := hsame parsed
    intro hnone
    have hreasons := (Verdict.violationFor_eq_ok described).1.mp hnone
    have hnamed := (List.append_eq_nil_iff.mp hreasons).1
    exact not_nameFits_any hconventions hk hname ((nameReasons_eq_nil_iff named).mp hnamed rfl)

/-- **A value of any kind passes under no name,** unless it is exempt. -/
theorem unusable_any (hmode : engine.mode = .strict) (hconventions : engine.conventions = .default)
    (hparsed : Rule.ofEntry entry = .ok (.ok rule))
    (hk : rule.frame.constraint.kind? = some .any) (hpresent : value ≠ .undefined)
    (hexempt : ¬ rule.Exempts value)
    (h : (engine.evaluate (.map (Entries.single name entry))
      (.map (Entries.single name value))).answer = .ok result) : result.passed = false := by
  cases hname : Directive.isName name with
  | true => exact not_passed_of_directive hmode hname h
  | false =>
    have hon : engine.mode ≠ .off := by simp [hmode]
    have hstrict : engine.isStrict = true := by simp [isStrict, hmode]
    obtain ⟨verdict, hjudge, rfl⟩ := (evaluate_single_eq_ok hon hname).mp h
    rw [hstrict] at hjudge
    have hviolation := (judged_of_judge hjudge).violation_ne_none_of_any hconventions hparsed hk
      hpresent hexempt hname
    obtain ⟨violation, hsome⟩ := Option.ne_none_iff_exists'.mp hviolation
    simp [CheckResult.passed, CheckResult.ofVerdicts, violationsOf, hsome]

/-! ### Optional arguments -/

/-- The value of an optional argument is not changed. -/
theorem Judged.change_eq_none_of_optional (hparsed : Rule.ofEntry entry = .ok (.ok rule))
    (hoptional : rule.frame.isOptional = true) (hpresent : value ≠ .undefined) {verdict : Verdict}
    (h : Judged engine checkNames key entry value verdict) : verdict.change = none := by
  refine Option.eq_none_iff_forall_not_mem.mpr fun change hchange => ?_
  obtain ⟨hbefore, found, hfound, hcases⟩ := h.change_spec hchange
  obtain rfl := Except.ok.inj (Except.ok.inj (hfound.symm.trans hparsed))
  rcases hcases with ⟨haction, -⟩ | ⟨-, hexamined, -⟩
  · obtain ⟨-, -, habsent, -⟩ := h.default_iff.mp ⟨change, hchange, haction⟩
    exact hpresent habsent
  · exact absurd hexamined.2.1 (by simp [hoptional])

/-- **An optional argument is left as it was given,** under every name. -/
theorem args_of_optional (hon : engine.mode ≠ .off)
    (hparsed : Rule.ofEntry entry = .ok (.ok rule)) (hoptional : rule.frame.isOptional = true)
    (hpresent : value ≠ .undefined)
    (h : (engine.evaluate (.map (Entries.single name entry))
      (.map (Entries.single name value))).answer = .ok result) : result.args = [(name, value)] := by
  cases hname : Directive.isName name with
  | true =>
    obtain ⟨verdicts, extra, haccount⟩ := exists_account_of_evaluate hon rfl rfl
      (Entries.textKeyed_single ..) (Entries.textKeyed_single ..) h
    have hnone : engine.judgedEntries (Entries.single name entry) = [] := by
      simp [judgedEntries, Entries.single, Value.asText?, judges, hname]
    have hjudged := haccount.judged
    rw [hnone, List.forall₂_nil_left_iff] at hjudged
    rw [haccount.args, hjudged]
    rfl
  | false =>
    obtain ⟨verdict, hjudge, rfl⟩ := (evaluate_single_eq_ok hon hname).mp h
    have hchange := (judged_of_judge hjudge).change_eq_none_of_optional hparsed hoptional hpresent
    rw [CheckResult.args_ofVerdicts_single, hchange]
    rfl

end Engine

namespace Sample

/-- The default engine in strict mode. -/
def strict : Engine := Engine.default.inMode .strict

/-- A rule for arguments of any kind. -/
def anything : Value := .map [(.text "kind", .text "any")]

/-- An optional rule for whole numbers that are moved to a limit. -/
def optionalCounting : Value :=
  .map [(.text "kind", .text "integer"), (.text "max_int", .int 5),
    (.text "autobound", .bool true), (.text "is_optional", .bool true)]

end Sample

/-- In the sample a whole number above its limit is moved to the limit. -/
theorem Kind.check_counting : Kind.integer.check (.integer none (some (.alone 5)) true) (.int 9) .number =
    .ok ⟨some (.int 5), []⟩ := by
  have hwhole : Value.isIntegerFormatted (.int 9) = .ok true :=
    Value.isIntegerFormatted_of_isWritable (by decide +kernel)
  have hbounds : Bounds.check .numbers none (some (.int 5)) true (.int 9) =
      .ok ⟨some (.int 5), []⟩ := rfl
  exact @Check.integer_of_bounds (.int 9) true _ none (some (.alone 5)) hwhole hbounds

/-- In the sample a whole number above its limit passes, and is moved to the limit. -/
theorem Engine.usable_kinds_sample :
    ∃ name result, (Sample.strict.evaluate (.map (Entries.single name Sample.counting))
        (.map (Entries.single name (.int 9)))).answer = .ok result ∧ result.passed = true ∧
      result.args = [(name, .int 5)] := by
  have hparsed : Rule.ofEntry Sample.counting = .ok (.ok ⟨⟨false, false,
      .integer none (some (.alone 5)) true, [.kind, .maxInt, .autobound]⟩, .null⟩) := rfl
  have hkind : Kind.integer ∈ Sample.strict.kinds := by decide
  exact usable_kinds rfl rfl hkind hparsed rfl rfl Kind.check_counting rfl (by simp)

/-- **Two arguments do not pass as the checks of their kinds would have it:** one of any kind passes
under no name, and an optional number is not moved to its limit under any name. -/
theorem Engine.not_usable_sample :
    Kind.any.check .any (.int 1) .number = .ok ⟨none, []⟩ ∧
      (¬ ∃ name result, (Sample.strict.evaluate (.map (Entries.single name Sample.anything))
        (.map (Entries.single name (.int 1)))).answer = .ok result ∧ result.passed = true) ∧
      Kind.integer.check (.integer none (some (.alone 5)) true) (.int 9) .number =
        .ok ⟨some (.int 5), []⟩ ∧
      ¬ ∃ name result, (Sample.strict.evaluate
          (.map (Entries.single name Sample.optionalCounting))
          (.map (Entries.single name (.int 9)))).answer = .ok result ∧
        result.args = [(name, .int 5)] := by
  have hanything : Rule.ofEntry Sample.anything =
      .ok (.ok ⟨⟨false, false, .any, [.kind]⟩, .null⟩) := rfl
  have hoptional : Rule.ofEntry Sample.optionalCounting = .ok (.ok ⟨⟨true, false,
      .integer none (some (.alone 5)) true, [.isOptional, .kind, .maxInt, .autobound]⟩, .null⟩) := rfl
  refine ⟨rfl, ?_, Kind.check_counting, ?_⟩
  · rintro ⟨name, result, hanswer, hpassed⟩
    have hfails := unusable_any rfl rfl hanything rfl (by simp) (by simp [Rule.Exempts]) hanswer
    rw [hfails] at hpassed
    contradiction
  · rintro ⟨name, result, hanswer, hargs⟩
    have hleft := args_of_optional (by decide) hoptional rfl (by simp) hanswer
    rw [hleft] at hargs
    simp at hargs

end ArgRules
