import ArgRules.Proofs.Searching
import ArgRules.Proofs.Singleton

/-!
# Values that can be judged

A judgement asks questions about the value of an argument: its tag, its number of items, its text.
An object may refuse an answer, and a whole number of more than 4300 digits has no text; then the
judgement stops with it. Here it is said which answers are needed, and that with these a judgement
always comes to its end, whatever the value is and whether or not there is anything against it.

## What is needed

The tag of a value is always needed. The text of a number is needed where a rule expects a whole
number, and the number of items of a map where a rule wants it not to be empty
(`Constraint.CanRead`). The preview of a value is needed if there is something against the value.
Everything else is there once the tag is there: an array is known by its length, and falsey values
are known by their tags.

## Main definitions

* `Answered` — a computation comes to its end
* `Constraint.Sound` — the limits of a rule can be written, and its pattern can be searched for
* `Constraint.CanRead` — the check of a kind can read a value

## Main results

* `Kind.answered_check_iff` — a check comes to its end exactly if it can read the value
* `Engine.answered_judge` — a judgement comes to its end
* `Engine.returns_of_readable` — a call for one rule and one argument comes to a result
-/

namespace ArgRules

/-! ### Computations that come to an end -/

/-- A computation comes to its end. -/
def Answered {ε α : Type} (x : Except ε α) : Prop := ∃ a, x = .ok a

section Answered

variable {ε α β : Type} {x : Except ε α} {f : α → Except ε β}

theorem answered_ok (a : α) : Answered (.ok a : Except ε α) := ⟨a, rfl⟩

theorem answered_pure (a : α) : Answered (pure a : Except ε α) := ⟨a, rfl⟩

/-- A computation comes to its end if its steps do. -/
theorem Answered.bind (hx : Answered x) (hf : ∀ a, x = .ok a → Answered (f a)) :
    Answered (x >>= f) := by
  obtain ⟨a, ha⟩ := hx
  obtain ⟨b, hb⟩ := hf a ha
  exact ⟨b, bind_eq_ok.mpr ⟨a, ha, hb⟩⟩

theorem answered_ite {p : Prop} [Decidable p] {y : Except ε α} (hx : p → Answered x)
    (hy : ¬ p → Answered y) : Answered (if p then x else y) := by
  split
  · next h => exact hx h
  · next h => exact hy h

end Answered

/-! ### Questions that need the tag only -/

namespace Value

variable {value : Value}

theorem answered_isFalsey (h : Answered value.tag) : Answered value.isFalsey := by
  rw [isFalsey.eq_def]
  split <;> try exact ⟨_, rfl⟩
  refine h.bind fun tag _ => ?_
  split <;> exact ⟨_, rfl⟩

theorem answered_isZero (h : Answered value.tag) : Answered value.isZero := by
  refine h.bind fun tag _ => ?_
  split <;> exact ⟨_, rfl⟩

/-- A value with a tag and a text has a preview. -/
theorem answered_preview (h : Answered value.tag) (hd : Answered value.display) :
    Answered value.preview := by
  refine (answered_isFalsey h).bind fun falsey _ => ?_
  exact answered_ite (fun _ => answered_pure _) fun _ => hd.bind fun _ _ => answered_pure _

end Value

namespace Rule

variable {rule : Rule} {kind : Kind} {value : Value}

theorem answered_exempts (h : Answered value.tag) : Answered (rule.exempts value) := by
  refine answered_ite (fun _ => answered_pure _) fun _ =>
    (Value.answered_isFalsey h).bind fun falsey _ => ?_
  exact answered_ite (fun _ => answered_pure _) fun _ =>
    (Value.answered_isZero h).bind fun zero _ => answered_pure _

theorem answered_isExamined (h : Answered value.tag) : Answered (isExamined kind value) := by
  refine answered_ite (fun _ => answered_pure _) fun _ =>
    (Value.answered_isFalsey h).bind fun falsey _ => ?_
  exact answered_ite (fun _ => answered_pure _) fun _ => Value.answered_isZero h

theorem answered_examines (hk : rule.frame.constraint.kind? = some kind) (h : Answered value.tag) :
    Answered (rule.examines value) := by
  refine answered_ite (fun _ => answered_pure _) fun _ => ?_
  exact Answered.bind ⟨kind, kind_eq_ok.mpr hk⟩ fun _ _ => answered_isExamined h

end Rule

/-! ### Violations -/

/-- A name that is a text can be shown and filed. -/
theorem Violation.answered_filedName {key : Value} {name : String} (h : key.asText? = some name) :
    Answered key.display ∧ Answered (filedName key) := by
  refine ⟨?_, ?_⟩
  · rcases Value.eq_of_asText? h with rfl | ⟨m, rfl, rfl⟩ <;> exact ⟨_, rfl⟩
  · rw [filedName, Reading.text_of_asText? h]
    exact answered_ok _

/-- A violation can be described if the header of its entry and the preview of its value are
there. -/
theorem Violation.answered_describe {key entry value : Value} {name : String}
    {reasons : List String} (hname : key.asText? = some name)
    (hheader : Answered (Header.ofEntry entry)) (hshow : Answered value.preview) :
    Answered (describe key entry value (.ok reasons)) := by
  obtain ⟨hshown, hfiled⟩ := answered_filedName hname
  refine hheader.bind fun header _ => hshow.bind fun preview _ => hshown.bind fun nameText _ => ?_
  exact (answered_ok reasons).bind fun _ _ => hfiled.bind fun _ _ => answered_pure _

theorem Verdict.answered_violationFor {key value : Value} {name : String} {rule : Rule}
    {kind : Kind} {reasons : List String} (hname : key.asText? = some name)
    (hk : rule.frame.constraint.kind? = some kind) (hshow : reasons ≠ [] → Answered value.preview) :
    Answered (violationFor key rule value reasons) := by
  refine answered_ite (fun _ => answered_pure _) fun hreasons => ?_
  have hheader : Answered (Violation.Header.ofEntry rule.toValue) :=
    ⟨_, Violation.Header.ofEntry_toValue hk⟩
  exact (Violation.answered_describe hname hheader (hshow (by simpa using hreasons))).bind
    fun _ _ => answered_pure _

/-! ### The checks of the kinds -/

namespace Constraint

/-- The whole numbers among the limits of a rule. -/
def wholeLimits : Constraint → List Int
  | array _ low high | string _ _ low high => low.toList ++ high.toList
  | integer low high _ => (low.toList ++ high.toList).map (·.content)
  | number low high _ => (low.toList ++ high.toList).filterMap fun limit =>
    match limit.content with
    | .int n => some n
    | .double _ => none
  | _ => []

/-- The limits of a rule can be written. -/
def Writable (constraint : Constraint) : Prop :=
  ∀ n ∈ constraint.wholeLimits, Numeral.isWritable n = true

/-- The limits of a rule can be written, and its pattern can be searched for. -/
structure Sound (constraint : Constraint) : Prop where
  writable : constraint.Writable
  searchable : ∀ p, constraint.filterPattern = .ok (some p) → p.Searchable

/-- The check of a kind can read a value: the text of a number, where a whole number is expected,
and the number of items of a map that should not be empty. -/
def CanRead (constraint : Constraint) (value : Value) : Prop :=
  match constraint with
  | integer .. => ∀ n, value = .number n → Answered value.display
  | map allowEmpty =>
    allowEmpty = false → value.tag = .ok .object → Answered value.itemCount
  | _ => True

end Constraint

/-- The number of items of an array is one that a length can be. -/
def Value.Sized (value : Value) : Prop :=
  value.tag = .ok .array → ∀ count, value.itemCount = .ok count → count ≤ Value.lengthLimit

theorem Numeral.isWritable_zero : isWritable 0 = true := by decide +kernel

theorem Value.answered_intText {n : Int} (h : Numeral.isWritable n = true) :
    Answered (Value.intText n) := by
  rw [Value.intText, if_pos h]
  exact answered_ok _

theorem Text.isAsciiDigit_of_isDigit {c : Char} (h : c.isDigit = true) :
    Text.isAsciiDigit c = true := by
  simpa [Char.isDigit, isAsciiDigit, Char.le_def] using h

/-- The text of a whole number is that of a whole number. -/
theorem Value.isIntegerFormatted_of_isWritable {n : Int} {box : Option Nat}
    (h : Numeral.isWritable n = true) :
    isIntegerFormatted (.number ⟨.int n, box⟩) = .ok true := by
  have hdigits (m : Nat) :
      m.repr.toList ≠ [] ∧ ∀ c ∈ m.repr.toList, Text.isAsciiDigit c = true := by
    rw [Nat.toList_repr]
    exact ⟨Nat.toDigits_ne_nil, fun c hc =>
      Text.isAsciiDigit_of_isDigit (Nat.isDigit_of_mem_toDigits (by decide) (by decide) hc)⟩
  have hnumeral : IsIntegerNumeral (toString n).toList := by
    rw [Int.toString_eq_repr, Int.repr_eq_if]
    split
    · exact ⟨[], n.toNat.repr.toList, [], by simp, Or.inl rfl, (hdigits _).1, (hdigits _).2,
        Or.inl rfl⟩
    · exact ⟨['-'], (-n).toNat.repr.toList, [], by simp, Or.inr (Or.inr rfl), (hdigits _).1,
        (hdigits _).2, Or.inl rfl⟩
  rw [isIntegerFormatted, display_int, intText, if_pos h]
  exact congrArg Except.ok ((isIntegerText_iff _).mpr hnumeral)

/-- Limits that can be written, the lower and the upper one, have a text. -/
theorem Value.answered_limitTexts {low high : Option Int}
    (h : ∀ n ∈ low.toList ++ high.toList, Numeral.isWritable n = true) :
    (∀ n ∈ low, Answered (intText n)) ∧ ∀ n ∈ high, Answered (intText n) :=
  ⟨fun n hn => answered_intText (h n (List.mem_append_left _ (Option.mem_toList.mpr hn))),
    fun n hn => answered_intText (h n (List.mem_append_right _ (Option.mem_toList.mpr hn)))⟩

theorem Value.answered_intText_of_le {count : Nat} (h : count ≤ Value.lengthLimit) :
    Answered (Value.intText count) := by
  refine answered_intText (decide_eq_true ?_)
  have hlimit : Value.lengthLimit < Nat.pow 10 Numeral.digitLimit := by decide +kernel
  exact Nat.lt_of_le_of_lt (by simpa using h) hlimit

/-- What is classified as an array has a number of items. -/
theorem Value.answered_itemCount_of_array {value : Value} (h : value.tag = .ok .array) :
    Answered value.itemCount := by
  have of_nonempty {value : Value} (hne : isNonemptyLength value.length? = true) :
      Answered value.itemCount := by
    rw [itemCount]
    split <;> simp_all [isNonemptyLength]
    split at hne <;> simp_all [answered_ok]
  cases value with
  | list items => exact ⟨_, rfl⟩
  | tuple items => exact ⟨_, rfl⟩
  | deque items => exact ⟨_, rfl⟩
  | element name children => exact ⟨_, rfl⟩
  | range start stop step =>
    refine of_nonempty ?_
    by_contra hempty
    simp [tag, hempty] at h
  | object facets items =>
    refine of_nonempty ?_
    by_contra hempty
    have hempty : isNonemptyLength (claimedLength? facets) = false := by
      simpa [length?] using hempty
    obtain ⟨group, -, h⟩ := bind_eq_ok.mp h
    simp only [hempty, Bool.false_eq_true, false_and, if_false] at h
    split at h <;> [skip; split at h] <;> exact absurd (pure_eq_ok.mp h) (by decide)
  | _ => simp [tag] at h

namespace Check

/-- A length is compared with its limits if these can be written into the reasons. -/
theorem answered_lengths {count : Nat} {limit : Option Int} {reason : Int → Except Fault String}
    (h : ∀ n ∈ limit, Answered (reason n)) :
    Answered (tooLong count limit reason) ∧ Answered (tooShort count limit reason) := by
  cases limit with
  | none => exact ⟨answered_pure _, answered_pure _⟩
  | some n =>
    have hreason : Answered (do return [← reason n] : Except Fault (List String)) :=
      (h n rfl).bind fun _ _ => answered_pure _
    exact ⟨answered_ite (fun _ => hreason) fun _ => answered_pure _,
      answered_ite (fun _ => hreason) fun _ => answered_pure _⟩

theorem answered_array {allowEmpty : Bool} {low high : Option Int}
    (hwritable : (Constraint.array allowEmpty low high).Writable) {value : Value} {tag : Tag}
    (ht : value.tag = .ok tag) (hsized : value.Sized) :
    Answered (array (.array allowEmpty low high) value tag) := by
  refine answered_ite (fun _ => answered_pure _) fun htag => ?_
  obtain rfl : tag = .array := by simpa using htag
  refine (Value.answered_itemCount_of_array ht).bind fun count hcount => ?_
  have hcountText := Value.answered_intText_of_le (hsized ht count hcount)
  refine hcountText.bind fun countText _ => (answered_ok _).bind fun _ _ => ?_
  obtain ⟨hlow, hhigh⟩ := Value.answered_limitTexts hwritable
  refine (answered_ok high).bind fun limit hlimit => ?_
  obtain rfl := Except.ok.inj hlimit
  refine (answered_lengths fun n hn => ?_).1.bind fun long _ => ?_
  · exact (hhigh n hn).bind fun _ _ => answered_pure _
  · refine (answered_ok low).bind fun limit hlimit => ?_
    obtain rfl := Except.ok.inj hlimit
    refine (answered_lengths fun n hn => ?_).2.bind fun short _ => answered_pure _
    exact (hlow n hn).bind fun _ _ => answered_pure _

theorem answered_map_iff {allowEmpty : Bool} {value : Value} {tag : Tag}
    (ht : value.tag = .ok tag) :
    Answered (map (.map allowEmpty) value tag) ↔ (Constraint.map allowEmpty).CanRead value := by
  by_cases htag : tag = .object
  · subst htag
    cases allowEmpty with
    | true => exact ⟨fun _ h => by contradiction, fun _ => answered_pure _⟩
    | false =>
      constructor
      · rintro ⟨finding, h⟩ - -
        obtain ⟨allowed, hallowed, h⟩ := bind_eq_ok.mp h
        obtain rfl : false = allowed := Except.ok.inj hallowed
        obtain ⟨count, hcount, -⟩ := bind_eq_ok.mp h
        exact ⟨count, hcount⟩
      · intro h
        exact (answered_ok false).bind fun _ heq => Except.ok.inj heq ▸
          (h rfl ht).bind fun _ _ => answered_pure _
  · refine ⟨fun _ _ hobject => absurd (Except.ok.inj (ht.symm.trans hobject)) htag, fun _ => ?_⟩
    rw [map, if_pos htag]
    exact answered_pure _

theorem answered_applyLimit {outside : Number → Number → Except Fault Bool} {phrase : String}
    {autobound : Bool} {n : Number} {limit? : Option Number}
    (houtside : ∀ limit, Answered (outside n limit))
    (h : ∀ limit ∈ limit?, Answered (Value.numberText limit)) :
    Answered (Bounds.applyLimit .numbers outside phrase autobound n limit?) := by
  cases limit? with
  | none => exact answered_pure _
  | some limit =>
    refine (houtside limit).bind fun isOutside _ => ?_
    refine answered_ite (fun _ => answered_pure _) fun _ => ?_
    exact answered_ite (fun _ => answered_pure _) fun _ =>
      Answered.bind (h limit rfl) fun _ _ => answered_pure _

theorem answered_check {lower upper : Option Number} {autobound : Bool} {n : Number}
    (hlower : ∀ limit ∈ lower, Answered (Value.numberText limit))
    (hupper : ∀ limit ∈ upper, Answered (Value.numberText limit)) :
    Answered (Bounds.check .numbers lower upper autobound n) :=
  (answered_applyLimit (fun _ => answered_ok _) hupper).bind fun _ _ =>
    (answered_applyLimit (fun _ => answered_ok _) hlower).bind fun _ _ => answered_pure _

/-- One of two limits can be written if all that are there can. -/
theorem answered_limits {α : Type} {toNumber : α → Number} {limits : List α} {limit? : Option α}
    (h : ∀ {limit}, limit ∈ limits → Answered (Value.numberText (toNumber limit)))
    (hsub : limit?.toList ⊆ limits) :
    ∀ number ∈ limit?.map toNumber, Answered (Value.numberText number) := by
  intro number hnumber
  obtain ⟨limit, hgiven, rfl⟩ := Option.map_eq_some_iff.mp hnumber
  exact h (hsub (Option.mem_toList.mpr hgiven))

theorem answered_integer_iff {low high : Option Bound} {autobound : Bool}
    (hwritable : (Constraint.integer low high autobound).Writable) {value : Value} {tag : Tag}
    (ht : value.tag = .ok tag) :
    Answered (integer (.integer low high autobound) value tag) ↔
      (Constraint.integer low high autobound).CanRead value := by
  have hlimit {limit : Bound} (h : limit ∈ low.toList ++ high.toList) :
      Answered (Value.numberText limit.toNumber) :=
    Value.answered_intText (hwritable _ (List.mem_map_of_mem h))
  unfold integer
  split
  · next n =>
    constructor
    · rintro ⟨finding, h⟩ m -
      obtain ⟨isWhole, hwhole, -⟩ := bind_eq_ok.mp h
      obtain ⟨text, htext, -⟩ := bind_eq_ok.mp hwhole
      exact ⟨text, htext⟩
    · intro h
      refine ((h n rfl).bind fun _ _ => answered_pure _).bind fun isWhole _ => ?_
      refine answered_ite (fun _ => answered_pure _) fun _ => ?_
      refine (answered_ok low).bind fun _ hlow => (answered_ok high).bind fun _ hhigh =>
        (answered_ok autobound).bind fun moved _ => ?_
      obtain rfl := Except.ok.inj hlow
      obtain rfl := Except.ok.inj hhigh
      exact (answered_check (answered_limits hlimit (List.subset_append_left ..))
        (answered_limits hlimit (List.subset_append_right ..))).bind fun _ _ => answered_pure _
  · next hother =>
    refine ⟨fun _ n heq => ?_, fun _ => answered_pure _⟩
    subst heq
    exact absurd rfl (hother n (Except.ok.inj ht).symm)

theorem answered_number {low high : Option Limit} {autobound : Bool}
    (hwritable : (Constraint.number low high autobound).Writable) (value : Value) (tag : Tag) :
    Answered (number (.number low high autobound) value tag) := by
  have hlimit {limit : Limit} (h : limit ∈ low.toList ++ high.toList) :
      Answered (Value.numberText limit.toNumber) := by
    obtain ⟨scalar, box⟩ := limit
    cases scalar with
    | double x => exact answered_ok _
    | int n =>
      exact Value.answered_intText (hwritable _ (List.mem_filterMap.mpr ⟨⟨.int n, box⟩, h, rfl⟩))
  unfold number
  split
  · refine (answered_ok low).bind fun _ hlow => (answered_ok high).bind fun _ hhigh =>
      (answered_ok autobound).bind fun moved _ => ?_
    obtain rfl := Except.ok.inj hlow
    obtain rfl := Except.ok.inj hhigh
    exact (answered_check (answered_limits hlimit (List.subset_append_left ..))
      (answered_limits hlimit (List.subset_append_right ..))).bind fun _ _ => answered_pure _
  · exact answered_pure _

theorem answered_string {allowEmpty : Bool} {filter : Option Pattern} {low high : Option Int}
    (hsound : (Constraint.string allowEmpty filter low high).Sound) (value : Value) (tag : Tag) :
    Answered (string (.string allowEmpty filter low high) value tag) := by
  unfold string
  split
  · next s _ =>
    have hcontents : Answered (contents (.string allowEmpty filter low high) s) := by
      refine (answered_ok filter).bind fun _ hfilter => ?_
      obtain rfl := Except.ok.inj hfilter
      cases filter with
      | none => exact (answered_ok allowEmpty).bind fun _ _ => answered_pure _
      | some p =>
        exact Answered.bind ((hsound.searchable p rfl).searchText s) fun _ _ =>
          answered_ite (fun _ => answered_pure _) fun _ => answered_pure _
    obtain ⟨hlow, hhigh⟩ := Value.answered_limitTexts hsound.writable
    refine hcontents.bind fun unfit _ => ?_
    refine (answered_ok high).bind fun limit hlimit => ?_
    obtain rfl := Except.ok.inj hlimit
    refine (answered_lengths fun n hn => ?_).1.bind fun long _ => ?_
    · exact (hhigh n hn).bind fun _ _ => answered_pure _
    · refine (answered_ok low).bind fun limit hlimit => ?_
      obtain rfl := Except.ok.inj hlimit
      refine (answered_lengths fun n hn => ?_).2.bind fun short _ => answered_pure _
      exact (hlow n hn).bind fun _ _ => answered_pure _
  · exact answered_pure _

end Check

/-- **A check comes to its end exactly if it can read the value.** -/
theorem Kind.answered_check_iff {kind : Kind} {constraint : Constraint}
    (hk : constraint.kind? = some kind) (hsound : constraint.Sound) {value : Value} {tag : Tag}
    (ht : value.tag = .ok tag) (hsized : value.Sized) :
    Answered (kind.check constraint value tag) ↔ constraint.CanRead value := by
  cases constraint with
  | bare => simp [Constraint.kind?] at hk
  | integer low high autobound =>
    obtain rfl := Option.some.inj hk
    exact Check.answered_integer_iff hsound.writable ht
  | map allowEmpty =>
    obtain rfl := Option.some.inj hk
    exact Check.answered_map_iff ht
  | array allowEmpty low high =>
    obtain rfl := Option.some.inj hk
    exact ⟨fun _ => trivial, fun _ => Check.answered_array hsound.writable ht hsized⟩
  | number low high autobound =>
    obtain rfl := Option.some.inj hk
    exact ⟨fun _ => trivial, fun _ => Check.answered_number hsound.writable value tag⟩
  | string allowEmpty filter low high =>
    obtain rfl := Option.some.inj hk
    exact ⟨fun _ => trivial, fun _ => Check.answered_string hsound value tag⟩
  | _ =>
    obtain rfl := Option.some.inj hk
    exact ⟨fun _ => trivial, fun _ => answered_ok _⟩

/-! ### Judgements -/

namespace Engine

variable {engine : Engine} {checkNames : Bool} {key entry value : Value} {name : String}
  {rule : Rule} {kind : Kind}

theorem answered_nameReasons (hname : key.asText? = some name)
    (hk : rule.frame.constraint.kind? = some kind)
    (hconv : checkNames = true → engine.conventions.Answer) :
    Answered (engine.nameReasons checkNames key rule) := by
  rw [nameReasons]
  refine answered_ite (fun _ => answered_pure _) fun hchecks => ?_
  refine Answered.bind ⟨kind, Rule.kind_eq_ok.mpr hk⟩ fun asked _ => ?_
  rw [Conventions.reasons_eq_of_asText? _ _ hname]
  exact hconv (by simpa using hchecks) asked name

theorem answered_examine (hk : rule.frame.constraint.kind? = some kind) (htag : Answered value.tag)
    (hcheck : rule.Examines value → ∀ tag, value.tag = .ok tag →
      Answered (kind.check rule.frame.constraint value tag)) :
    Answered (engine.examine rule value) := by
  refine (Rule.answered_examines hk htag).bind fun isExamined hexamined => ?_
  refine answered_ite (fun hyes => ?_) fun _ => answered_pure _
  refine Answered.bind ⟨kind, Rule.kind_eq_ok.mpr hk⟩ fun asked hasked => ?_
  obtain rfl := Option.some.inj (hk.symm.trans (Rule.kind_eq_ok.mp hasked))
  exact answered_ite (fun _ => htag.bind fun tag ht =>
    hcheck ((Rule.examines_iff hexamined).mp hyes) tag ht) fun _ => answered_pure _

/-- There is nothing against the name of an argument that meets a rule and has a value that is not
exempt. -/
theorem Meets.nameReasons_eq_nil (h : engine.Meets checkNames key rule value)
    {reasons : List String} (hreasons : engine.nameReasons checkNames key rule = .ok reasons)
    (hexempt : rule.exempts (rule.effective value) = .ok false) : reasons = [] :=
  (nameReasons_eq_nil_iff hreasons).mpr fun hchecks =>
    h.nameFits hchecks (mt (Rule.exempts_iff hexempt).mpr Bool.false_ne_true)

/-- **A judgement comes to its end** if the check can read the value that it is asked about, and the
value in effect has a preview or there is nothing against it. -/
theorem answered_judge (hparsed : Rule.ofEntry entry = .ok (.ok rule))
    (hk : rule.frame.constraint.kind? = some kind) (hname : key.asText? = some name)
    (hconv : checkNames = true → engine.conventions.Answer)
    (htag : Answered (rule.effective value).tag)
    (hcheck : rule.Examines value → ∀ tag, value.tag = .ok tag →
      Answered (kind.check rule.frame.constraint value tag))
    (hshow : Answered (rule.effective value).preview ∨
      (∀ kind, kind ∈ engine.kinds) ∧ engine.Meets checkNames key rule value) :
    Answered (engine.judge checkNames key entry value) := by
  have hnamed : Answered (engine.nameReasons checkNames key rule) :=
    answered_nameReasons hname hk hconv
  rw [judge_of_rule hparsed]
  by_cases hdefault : value = .undefined ∧ rule.frame.hasDefault = true
  · obtain ⟨rfl, hstocked⟩ := hdefault
    have heffective : rule.effective .undefined = rule.default := by
      rw [Rule.effective, hstocked]
      rfl
    rw [judgeRule_of_default rfl hstocked]
    refine hnamed.bind fun reasons hreasons => ?_
    rw [heffective] at htag hshow
    refine (Rule.answered_exempts htag).bind fun isExempt hexempt => ?_
    refine answered_ite (fun _ => answered_pure _) fun hno => ?_
    obtain rfl : isExempt = false := by simpa using hno
    refine (Verdict.answered_violationFor hname hk fun hne => ?_).bind fun _ _ => answered_pure _
    exact hshow.resolve_right fun hmeets =>
      hne (hmeets.2.nameReasons_eq_nil hreasons (heffective ▸ hexempt))
  · by_cases hmissing : value = .undefined ∧ rule.frame.isOptional = false
    · obtain ⟨rfl, hrequired⟩ := hmissing
      have hbare : rule.frame.hasDefault = false := by simpa using hdefault
      rw [judgeRule, hbare, hrequired]
      have hshown : Answered (Value.preview .undefined) := ⟨"", rfl⟩
      exact (Verdict.answered_violationFor hname hk fun _ => hshown).bind
        fun _ _ => answered_pure _
    · have present : value = .undefined →
          rule.frame.hasDefault = false ∧ rule.frame.isOptional = true := by
        intro habsent
        simpa [habsent] using And.intro hdefault hmissing
      have heffective := effective_of_present present
      rw [heffective] at htag hshow
      rw [judgeRule_of_present present]
      refine hnamed.bind fun reasons hreasons => ?_
      refine (Rule.answered_exempts htag).bind fun isExempt hexempt => ?_
      refine answered_ite (fun _ => answered_pure _) fun hno => ?_
      obtain rfl : isExempt = false := by simpa using hno
      refine (answered_examine hk htag hcheck).bind fun finding hfinding => ?_
      refine (Verdict.answered_violationFor hname hk fun hne => ?_).bind fun _ _ => answered_pure _
      refine hshow.resolve_right fun hmet => hne ?_
      obtain ⟨hkinds, hmeets⟩ := hmet
      rw [hmeets.nameReasons_eq_nil hreasons (heffective.symm ▸ hexempt), List.nil_append,
        examine_spec hkinds hfinding]
      exact fun hexamined =>
        hmeets.admitted hexamined (mt (Rule.exempts_iff hexempt).mpr Bool.false_ne_true)

/-- **One rule and one argument come to a result** if the value has a tag, the check of the kind can
read it, and the value in effect has a preview or there is nothing against it. A check comes to its
end exactly if it can read the value; a whole number can be read exactly if it can be written. -/
theorem returns_of_readable (hmode : engine.mode ≠ .off) (hconv : engine.conventions.Answer)
    (hname : Directive.isName name = false) (hparsed : Rule.ofEntry entry = .ok (.ok rule))
    (hk : rule.frame.constraint.kind? = some kind) (hsound : rule.frame.constraint.Sound)
    {tag : Tag} (ht : value.tag = .ok tag) (hsized : value.Sized) :
    (Answered (kind.check rule.frame.constraint value tag) ↔
        rule.frame.constraint.CanRead value) ∧
      (kind = .integer → ∀ n box, value = .number ⟨.int n, box⟩ →
        (Answered (kind.check rule.frame.constraint value tag) ↔
          Numeral.isWritable n = true)) ∧
      ((rule.Examines value → rule.frame.constraint.CanRead value) →
        Answered (rule.effective value).tag →
        (Answered (rule.effective value).preview ∨
          (∀ kind, kind ∈ engine.kinds) ∧
            engine.Meets engine.isStrict (.text name) rule value) →
        (engine.evaluate (.map (Entries.single name entry))
          (.map (Entries.single name value))).Returns) := by
  have hiff := Kind.answered_check_iff hk hsound ht hsized
  refine ⟨hiff, fun hinteger n box hn => ?_, fun hread htag hshow => ?_⟩
  · subst hinteger hn
    rw [hiff]
    cases hc : rule.frame.constraint <;> rw [hc] at hk <;>
      simp only [Constraint.kind?, Option.some.injEq, reduceCtorEq] at hk
    constructor
    · intro hread
      obtain ⟨text, htext⟩ := hread _ rfl
      by_contra hlong
      simp [Value.intText, hlong] at htext
    · intro hshort m _
      rw [Value.display_int]
      exact Value.answered_intText hshort
  · rw [returns_single_iff hmode hname]
    exact answered_judge hparsed hk rfl (fun _ => hconv) htag
      (fun hexamined other hother => (Except.ok.inj (ht.symm.trans hother)) ▸
        hiff.mpr (hread hexamined)) hshow

/-- **A whole number that cannot be written is not judged** by a rule on whole numbers: neither
accepted, nor moved, nor reported. -/
theorem judge_of_not_isWritable (hparsed : Rule.ofEntry entry = .ok (.ok rule))
    (hk : rule.frame.constraint.kind? = some .integer) (hrequired : rule.frame.isOptional = false)
    (hsupported : engine.kinds.contains .integer = true) (hname : key.asText? = some name)
    (hconv : checkNames = true → engine.conventions.Answer) {n : Int}
    {box : Option Nat} (hlong : Numeral.isWritable n = false) :
    engine.judge checkNames key entry (.number ⟨.int n, box⟩) = .error .tooManyDigits := by
  have hzero : n ≠ 0 := by
    rintro rfl
    rw [Numeral.isWritable_zero] at hlong
    contradiction
  have hexempt : rule.exempts (.number ⟨.int n, box⟩) = .ok false := by
    cases hallow : rule.frame.allowFalsey <;>
      simp [Rule.exempts, hallow, Value.isFalsey, Value.tag, Number.isZero, Number.extent,
        Amount.extent, Extent.isZero, Number.isNan, Amount.isNan, hzero, bind, Except.bind, pure,
        Except.pure]
  have hexamined : rule.examines (.number ⟨.int n, box⟩) = .ok true := by
    simp [Rule.examines, Value.isAbsent, hrequired, Rule.kind_eq_ok.mpr hk, Rule.isExamined,
      Value.isFalsey, Value.tag, Number.isZero, Number.extent, Amount.extent, Extent.isZero,
      Number.isNan, Amount.isNan, hzero, bind, Except.bind, pure, Except.pure]
  have hformat : Value.isIntegerFormatted (.number ⟨.int n, box⟩) = .error .tooManyDigits := by
    simp [Value.isIntegerFormatted, Value.intText, hlong, bind, Except.bind]
  obtain ⟨reasons, hreasons⟩ : Answered (engine.nameReasons checkNames key rule) :=
    answered_nameReasons hname hk hconv
  rw [judge_of_rule hparsed, judgeRule_of_present (by simp), judgeValue, hreasons]
  simp only [bind, Except.bind, hexempt, Bool.false_eq_true, if_false, examine, hexamined, if_true,
    Rule.kind_eq_ok.mpr hk, examineKind, hsupported, Value.tag, Kind.check, Check.integer, hformat]

end Engine

/-- A rule for whole numbers that are moved to a limit. -/
def Sample.counting : Value :=
  .map [(.text "kind", .text "integer"), (.text "max_int", .int 5), (.text "autobound", .bool true)]

/-- The sample rule comes to a result for a number above its limit. -/
theorem Engine.returns_of_sample :
    ∃ rule, Rule.ofEntry Sample.counting = .ok (.ok rule) ∧
      Answered (Kind.integer.check rule.frame.constraint (.int 9) .number) ∧
      (Engine.default.evaluate (.map (Entries.single "count" Sample.counting))
        (.map (Entries.single "count" (.int 9)))).Returns := by
  have hparsed : Rule.ofEntry Sample.counting = .ok (.ok ⟨⟨false, false,
      .integer none (some (.alone 5)) true, [.kind, .maxInt, .autobound]⟩, .null⟩) := rfl
  have hshort (n : Int) (h : n ∈ [5, 9]) : Numeral.isWritable n = true := by
    have hall : [5, 9].all Numeral.isWritable = true := by decide +kernel
    exact List.all_eq_true.mp hall n h
  have hsound : (Constraint.integer none (some (.alone 5)) true).Sound := by
    refine ⟨fun n hn => hshort n ?_, fun p hp => ?_⟩
    · rw [List.mem_singleton.mp hn]
      exact List.mem_cons_self ..
    · simp [Constraint.filterPattern] at hp
  have hsized : (Value.int 9).Sized := by simp [Value.Sized, Value.tag]
  have hdisplay : Answered (Value.int 9).display := by
    rw [Value.display_int]
    exact Value.answered_intText (hshort 9 (by simp))
  have hmode : Engine.default.mode ≠ .off := by decide
  have hname : Directive.isName "count" = false := by decide
  have htag : Value.tag (.int 9) = .ok .number := rfl
  obtain ⟨-, hiff, hreturns⟩ := returns_of_readable hmode Conventions.default_answers hname hparsed
    rfl hsound htag hsized
  refine ⟨_, hparsed, (hiff rfl 9 none rfl).mpr (hshort 9 (by simp)), hreturns ?_ ⟨_, rfl⟩ (Or.inl ?_)⟩
  · rintro - n -
    exact hdisplay
  · exact Value.answered_preview ⟨_, rfl⟩ hdisplay

/-- But it stops at a whole number with more than 4300 digits. -/
theorem Engine.unwritable_sample :
    Value.tag (.int (Nat.pow 10 4300)) = .ok .number ∧
      (Engine.default.evaluate (.map (Entries.single "count" Sample.counting))
        (.map (Entries.single "count" (.int (Nat.pow 10 4300))))).answer =
          .error (.fault .tooManyDigits) := by
  have hlong : Numeral.isWritable (Nat.pow 10 4300) = false := by decide +kernel
  refine ⟨rfl, ?_⟩
  have hparsed : Rule.ofEntry Sample.counting = .ok (.ok ⟨⟨false, false,
      .integer none (some (.alone 5)) true, [.kind, .maxInt, .autobound]⟩, .null⟩) := rfl
  rw [evaluate_single_answer (by decide) (by decide), judge_of_not_isWritable hparsed rfl rfl rfl
    rfl (fun _ => Conventions.default_answers) hlong]

end ArgRules
