import ArgRules.Proofs.Easing
import ArgRules.Proofs.Usability

/-!
# Lists, tuples, queues and ranges

A rule for arrays may allow empty ones. Whether a value is an array is asked before that, though, of
the value alone: a list or a tuple is one in any case, and whatever else has a length is asked for
its first item. A queue or a range in which there is nothing has none, so it is no array but an
object, and a rule that allows empty arrays does not admit it. A rule for maps that allows empty ones
does.

## The length of a range

A range stores no items, so there can be more of them than a length can be. Such a range answers no
length, and it is an object as well. Of its items it can only be said which they are: the numbers
from its start on, step by step, that come before its end.

## Main definitions

* `Value.Holds` — the four types of sequences, with the number of their items
* `Value.IsArrayOf` — when a sequence with so many items is an array
* `Engine.PassesAlone` — a value passes under a single rule

## Main results

* `Value.lt_rangeLength_iff` — how many items a range has
* `Engine.passesAlone_iff_admits` — a single rule passes what it admits, and nothing else
* `Engine.passesAlone_sequence_iff` — which sequences pass a rule for arrays, and which one for maps
-/

namespace ArgRules

/-! ### Sequences -/

namespace Value

/-- A number comes before the end of a range, in the direction of its steps. -/
def ComesBefore (step stop n : Int) : Prop := 0 < step ∧ n < stop ∨ step < 0 ∧ stop < n

/-- **The items of a range** are counted from its start on, as long as they come before its end. -/
theorem lt_rangeLength_iff {start stop step : Int} {k : Nat} :
    k < rangeLength start stop step ↔ ComesBefore step stop (start + step * k) := by
  -- the number of strides is rounded up, so the item after k whole ones is still inside
  have hcount (distance : Int) {stride : Int} (hstride : 0 < stride) :
      k < ((distance + stride - 1) / stride).toNat ↔ stride * k < distance := by
    have hround : (k : Int) + 1 ≤ (distance + stride - 1) / stride ↔
        (k + 1) * stride ≤ distance + stride - 1 := Int.le_ediv_iff_mul_le hstride
    rw [Int.add_mul, Int.one_mul, Int.mul_comm] at hround
    omega
  rw [rangeLength, ComesBefore]
  split
  · next hup =>
    rw [hcount _ hup]
    omega
  · next hnotUp =>
    split
    · next hdown =>
      have hback := hcount (start - stop) (Int.neg_pos.mpr hdown)
      rw [← Int.sub_eq_add_neg, Int.neg_mul] at hback
      rw [hback]
      omega
    · next hstill => omega

/-- A list, a tuple, a queue or a range holds a number of items. What is stored is never more than a
length can be. -/
inductive Holds : Value → Nat → Prop
  | list {items : List Value} (stored : items.length ≤ lengthLimit) :
      Holds (list items) items.length
  | tuple {items : List Value} (stored : items.length ≤ lengthLimit) :
      Holds (tuple items) items.length
  | deque {items : List Value} (stored : items.length ≤ lengthLimit) :
      Holds (deque items) items.length
  /-- The items of a range are those numbers that come before its end. -/
  | range {start stop step : Int} {count : Nat}
      (inside : ∀ k : Nat, k < count ↔ ComesBefore step stop (start + step * k)) :
      Holds (range start stop step) count

/-- When a sequence with a number of items is an array: a list or a tuple always, a queue or a range
if it has a first item and a length. -/
def IsArrayOf (value : Value) (count : Nat) : Prop :=
  (∃ items, value = list items ∨ value = tuple items) ∨ count ≠ 0 ∧ count ≤ lengthLimit

theorem isArrayOf_deque_iff {items : List Value} {count : Nat} :
    (deque items).IsArrayOf count ↔ count ≠ 0 ∧ count ≤ lengthLimit := by
  simp [IsArrayOf]

theorem isArrayOf_range_iff {start stop step : Int} {count : Nat} :
    (range start stop step).IsArrayOf count ↔ count ≠ 0 ∧ count ≤ lengthLimit := by
  simp [IsArrayOf]

namespace Holds

variable {value : Value} {count : Nat}

theorem range_iff {start stop step : Int} :
    Holds (.range start stop step) count ↔ count = rangeLength start stop step := by
  constructor
  · rintro ⟨⟩
    next inside =>
    refine Nat.le_antisymm (Nat.le_of_not_lt fun hlt => ?_) (Nat.le_of_not_lt fun hlt => ?_)
    · exact Nat.lt_irrefl _ (lt_rangeLength_iff.mpr ((inside _).mp hlt))
    · exact Nat.lt_irrefl _ ((inside _).mpr (lt_rangeLength_iff.mp hlt))
  · rintro rfl
    exact .range fun _ => lt_rangeLength_iff

/-- No sequence is blank, not even an empty one. -/
theorem not_isBlank (h : value.Holds count) : ¬ value.IsBlank := by
  cases h <;> exact id

/-- **A sequence that is an array** is classified as one and tells how many items it has. -/
theorem classified_of_isArrayOf (h : value.Holds count) (harray : value.IsArrayOf count) :
    value.tag = .ok .array ∧ value.itemCount = .ok count ∧ count ≤ lengthLimit := by
  cases h with
  | list stored => exact ⟨rfl, rfl, stored⟩
  | tuple stored => exact ⟨rfl, rfl, stored⟩
  | @deque items stored =>
    have hne := (isArrayOf_deque_iff.mp harray).1
    refine ⟨?_, rfl, stored⟩
    rw [tag, if_neg (by simpa [List.length_eq_zero_iff] using hne)]
  | @range start stop step count inside =>
    obtain rfl := range_iff.mp (.range inside)
    obtain ⟨hne, hle⟩ := isArrayOf_range_iff.mp harray
    have hlength : length? (.range start stop step) = some (.ok (rangeLength start stop step)) := by
      rw [length?, if_neg (Nat.not_lt.mpr hle)]
    refine ⟨?_, ?_, hle⟩
    · rw [tag, hlength, if_pos (by simpa [isNonemptyLength] using hne)]
    · rw [itemCount, hlength]

/-- **A sequence that is no array** is classified as an object, and it tells of no item. -/
theorem classified_of_not_isArrayOf (h : value.Holds count) (hno : ¬ value.IsArrayOf count) :
    value.tag = .ok .object ∧ ∀ n, value.itemCount = .ok n → n = 0 := by
  cases h with
  | list stored => exact absurd (Or.inl ⟨_, Or.inl rfl⟩) hno
  | tuple stored => exact absurd (Or.inl ⟨_, Or.inr rfl⟩) hno
  | @deque items stored =>
    have hnil : items = [] := by
      by_contra hne
      exact hno (isArrayOf_deque_iff.mpr ⟨by simpa using hne, stored⟩)
    subst hnil
    exact ⟨rfl, fun n hn => (Except.ok.inj hn).symm⟩
  | @range start stop step count inside =>
    obtain rfl := range_iff.mp (.range inside)
    have hlength : length? (.range start stop step) =
        some (if lengthLimit < rangeLength start stop step then .error .rangeTooLong
          else .ok (rangeLength start stop step)) := rfl
    -- there is nothing to count, or more than can be counted
    by_cases hle : rangeLength start stop step ≤ lengthLimit
    · have hzero : rangeLength start stop step = 0 := by
        by_contra hne
        exact hno (isArrayOf_range_iff.mpr ⟨hne, hle⟩)
      rw [if_neg (Nat.not_lt.mpr hle), hzero] at hlength
      refine ⟨by rw [tag, hlength]; rfl, fun n hn => ?_⟩
      rw [itemCount, hlength] at hn
      exact (Except.ok.inj hn).symm
    · rw [if_pos (Nat.lt_of_not_le hle)] at hlength
      refine ⟨by rw [tag, hlength]; rfl, fun n hn => ?_⟩
      rw [itemCount, hlength] at hn
      contradiction

/-! ### What rules demand of sequences -/

/-- A rule for arrays demands of a sequence that it is one, that it is not empty unless it may be,
and that its length fits. -/
theorem admits_array_iff (h : value.Holds count) {allowEmpty : Bool} {low high : Option Int} :
    (Constraint.array allowEmpty low high).Admits value ↔
      value.IsArrayOf count ∧ (allowEmpty = false → count ≠ 0) ∧ LengthFits low high count := by
  by_cases harray : value.IsArrayOf count
  · obtain ⟨htag, hcount, -⟩ := h.classified_of_isArrayOf harray
    simp [Constraint.Admits, htag, hcount, harray]
  · obtain ⟨htag, -⟩ := h.classified_of_not_isArrayOf harray
    simp [Constraint.Admits, htag, harray]

/-- A rule for maps demands of a sequence that it is no array, and it has to allow empty maps. -/
theorem admits_map_iff (h : value.Holds count) {allowEmpty : Bool} :
    (Constraint.map allowEmpty).Admits value ↔ ¬ value.IsArrayOf count ∧ allowEmpty = true := by
  by_cases harray : value.IsArrayOf count
  · obtain ⟨htag, -⟩ := h.classified_of_isArrayOf harray
    simp [Constraint.Admits, htag, harray]
  · obtain ⟨htag, hzero⟩ := h.classified_of_not_isArrayOf harray
    cases allowEmpty with
    | true => simp [Constraint.Admits, htag, harray]
    | false => simpa [Constraint.Admits, htag] using hzero

/-- What a sequence tells of its items is something that a length can be. -/
theorem itemCount_le (h : value.Holds count) {counted : Nat}
    (hcounted : value.itemCount = .ok counted) : counted ≤ lengthLimit := by
  by_cases harray : value.IsArrayOf count
  · obtain ⟨-, hcount, hle⟩ := h.classified_of_isArrayOf harray
    obtain rfl := Except.ok.inj (hcount.symm.trans hcounted)
    exact hle
  · obtain ⟨-, hzero⟩ := h.classified_of_not_isArrayOf harray
    rw [hzero counted hcounted]
    exact Nat.zero_le _

theorem answered_tag (h : value.Holds count) : Answered value.tag := by
  by_cases harray : value.IsArrayOf count
  · exact ⟨_, (h.classified_of_isArrayOf harray).1⟩
  · exact ⟨_, (h.classified_of_not_isArrayOf harray).1⟩

end Holds

end Value

/-! ### A single rule -/

/-- A single verdict makes a result that has passed exactly if it has no violation. -/
theorem CheckResult.passed_ofVerdicts_single {args : Entries} {key : Value} {verdict : Verdict} :
    (ofVerdicts args [(key, verdict)] []).passed = true ↔ verdict.violation = none := by
  cases h : verdict.violation <;> simp [passed, ofVerdicts, violationsOf, h]

namespace Engine

variable {engine : Engine} {name : String} {entry value : Value} {rule : Rule} {kind : Kind}
  {tag : Tag} {count : Nat}

/-- A value passes under a single rule. -/
def PassesAlone (engine : Engine) (name : String) (entry value : Value) : Prop :=
  ∃ result, (engine.evaluate (.map (Entries.single name entry))
    (.map (Entries.single name value))).answer = .ok result ∧ result.passed = true

section Single

variable (hkinds : ∀ kind, kind ∈ engine.kinds) (hmode : engine.mode ≠ .off)
  (hname : Directive.isName name = false) (hparsed : Rule.ofEntry entry = .ok (.ok rule))
  (hrequired : rule.frame.isOptional = false)
  (hnamed : engine.nameReasons engine.isStrict (.text name) rule = .ok [])

include hkinds hmode hname hparsed hrequired hnamed

/-- **A single required rule passes what it admits, and nothing else,** of the values that are not
blank. The name must be one that there is nothing against; in normal mode that is every name. -/
theorem passesAlone_iff_admits (hk : rule.frame.constraint.kind? = some kind)
    (hfilled : ¬ value.IsBlank) (htag : value.tag = .ok tag)
    (hwritten : kind = .array → ∀ counted, value.itemCount = .ok counted →
      Answered (Value.intText counted)) :
    engine.PassesAlone name entry value ↔ rule.frame.constraint.Admits value := by
  have hpresent : value ≠ .undefined := by
    rintro rfl
    exact hfilled trivial
  constructor
  · rintro ⟨result, hanswer, hpassed⟩
    obtain ⟨verdict, hjudge, rfl⟩ := (evaluate_single_eq_ok hmode hname).mp hanswer
    have hnone := CheckResult.passed_ofVerdicts_single.mp hpassed
    have hmeets := (passes_iff_meets hparsed).mp
      (((judged_of_judge hjudge).violation_eq_none_iff hkinds).mp hnone)
    exact hmeets.admitted ⟨hpresent, hrequired, Or.inl hfilled⟩ fun hexempt => hfilled hexempt.2
  · intro hadmits
    obtain ⟨finding, hfinding, hreasons⟩ := Kind.check_of_admits hk htag hadmits hwritten
    obtain ⟨verdict, hverdict, hnone, -⟩ :=
      exists_judgeValue_of_accepted hnamed hk (hkinds kind) htag hfinding hreasons
    have hjudge : engine.judge engine.isStrict (.text name) entry value = .ok verdict := by
      rw [judge_of_rule hparsed, judgeRule_of_present fun habsent => absurd habsent hpresent,
        hverdict]
    exact ⟨_, (evaluate_single_eq_ok hmode hname).mpr ⟨verdict, hjudge, rfl⟩,
      CheckResult.passed_ofVerdicts_single.mpr hnone⟩

/-- A single required rule passes the sequences that it admits. -/
theorem passesAlone_iff_admits_of_holds (hk : rule.frame.constraint.kind? = some kind)
    (hholds : value.Holds count) :
    engine.PassesAlone name entry value ↔ rule.frame.constraint.Admits value := by
  obtain ⟨tag, htag⟩ := hholds.answered_tag
  exact passesAlone_iff_admits hkinds hmode hname hparsed hrequired hnamed hk hholds.not_isBlank
    htag fun _ _ hcounted => Value.answered_intText_of_le (hholds.itemCount_le hcounted)

/-- **Which sequences pass.** A rule for arrays that allows empty ones passes those that are arrays
and have a length within its limits, and a rule for maps passes those that are none, if it allows
empty maps. -/
theorem passesAlone_sequence_iff (hholds : value.Holds count) :
    (∀ low high, rule.frame.constraint = .array true low high →
      (engine.PassesAlone name entry value ↔
        value.IsArrayOf count ∧ LengthFits low high count)) ∧
      ∀ allowEmpty, rule.frame.constraint = .map allowEmpty →
        (engine.PassesAlone name entry value ↔
          ¬ value.IsArrayOf count ∧ allowEmpty = true) := by
  have hadmits {kind : Kind} (hk : rule.frame.constraint.kind? = some kind) :=
    passesAlone_iff_admits_of_holds hkinds hmode hname hparsed hrequired hnamed hk hholds
  constructor
  · intro low high hconstraint
    have hk : rule.frame.constraint.kind? = some .array := by rw [hconstraint]; rfl
    rw [hadmits hk, hconstraint, hholds.admits_array_iff]
    simp
  · intro allowEmpty hconstraint
    have hk : rule.frame.constraint.kind? = some .map := by rw [hconstraint]; rfl
    rw [hadmits hk, hconstraint, hholds.admits_map_iff]

end Single

theorem mem_kinds_default (kind : Kind) : kind ∈ default.kinds := by
  cases kind <;> decide

end Engine

namespace Sample

/-- A rule for arrays that may be empty, and have no more than two items. -/
def couple : Value :=
  .map [(.text "kind", .text "array"), (.text "allow_empty", .bool true),
    (.text "max_length", .int 2)]

/-- A rule for maps that may be empty. -/
def lookup : Value := .map [(.text "kind", .text "map"), (.text "allow_empty", .bool true)]

theorem ofEntry_couple : Rule.ofEntry couple = .ok (.ok ⟨⟨false, false, .array true none (some 2),
    [.kind, .allowEmpty, .maxLength]⟩, .null⟩) := rfl

theorem ofEntry_lookup : Rule.ofEntry lookup = .ok (.ok ⟨⟨false, false, .map true,
    [.kind, .allowEmpty]⟩, .null⟩) := rfl

end Sample

/-- The two odd numbers from five down to above one pass as an array, and with the number one they do
not. -/
theorem Engine.passesAlone_sequence_sample :
    Engine.default.PassesAlone "x" Sample.couple (.range 5 1 (-2)) ∧
      ¬ Engine.default.PassesAlone "x" Sample.couple (.range 5 0 (-2)) := by
  have hiff (stop : Int) (count : Nat) (hcount : count = Value.rangeLength 5 stop (-2)) :
      Engine.default.PassesAlone "x" Sample.couple (.range 5 stop (-2)) ↔
        Value.IsArrayOf (.range 5 stop (-2)) count ∧ LengthFits none (some 2) count :=
    (passesAlone_sequence_iff mem_kinds_default (by decide) (by decide) Sample.ofEntry_couple rfl
      rfl (Value.Holds.range_iff.mpr hcount)).1 none (some 2) rfl
  constructor
  · exact (hiff 1 2 rfl).mpr ⟨Or.inr ⟨by decide, by decide⟩, by simp [LengthFits]⟩
  · intro hpasses
    have hfits := ((hiff 0 3 rfl).mp hpasses).2
    simp [LengthFits] at hfits

namespace Sample

/-- A rule for arrays of any length. -/
def roomy : Value := .map [(.text "kind", .text "array"), (.text "allow_empty", .bool true)]

theorem ofEntry_roomy : Rule.ofEntry roomy = .ok (.ok ⟨⟨false, false, .array true none none,
    [.kind, .allowEmpty]⟩, .null⟩) := rfl

end Sample

/-- A sequence that is no array passes the sample rule for maps and not the one for arrays. -/
theorem Engine.passesAlone_of_not_isArrayOf {value : Value} {count : Nat}
    (hholds : value.Holds count) (hno : ¬ value.IsArrayOf count) :
    ¬ default.PassesAlone "x" Sample.roomy value ∧
      default.PassesAlone "x" Sample.lookup value := by
  have hroomy : default.PassesAlone "x" Sample.roomy value ↔
      (Constraint.array true none none).Admits value :=
    passesAlone_iff_admits_of_holds mem_kinds_default (by decide) (by decide) Sample.ofEntry_roomy
      rfl rfl rfl hholds
  have hlookup : default.PassesAlone "x" Sample.lookup value ↔
      (Constraint.map true).Admits value :=
    passesAlone_iff_admits_of_holds mem_kinds_default (by decide) (by decide) Sample.ofEntry_lookup
      rfl rfl rfl hholds
  rw [hroomy, hlookup]
  exact ⟨fun hadmits => hno (hholds.admits_array_iff.mp hadmits).1,
    hholds.admits_map_iff.mpr ⟨hno, rfl⟩⟩

/-- **An empty queue is no empty array.** A rule for arrays does not pass it, though it allows empty
ones, and a rule for maps does. The same goes for a range with one item more than a length can be. -/
theorem Engine.not_isArrayOf_sample :
    (Value.Holds (.deque []) 0 ∧ LengthFits none none 0 ∧
      ¬ Engine.default.PassesAlone "x" Sample.roomy (.deque []) ∧
      Engine.default.PassesAlone "x" Sample.lookup (.deque [])) ∧
    ∃ value count, value = .range 0 9223372036854775808 1 ∧ count = 9223372036854775808 ∧
      Value.Holds value count ∧ LengthFits none none count ∧
      ¬ Engine.default.PassesAlone "x" Sample.roomy value ∧
      Engine.default.PassesAlone "x" Sample.lookup value := by
  have hempty : Value.Holds (.deque []) 0 := .deque (Nat.zero_le _)
  have hemptyNone : ¬ Value.IsArrayOf (.deque []) 0 := by simp [Value.isArrayOf_deque_iff]
  have hlong : Value.Holds (.range 0 9223372036854775808 1) 9223372036854775808 :=
    Value.Holds.range_iff.mpr (by decide)
  have hlongNone : ¬ Value.IsArrayOf (.range 0 9223372036854775808 1) 9223372036854775808 := by
    rw [Value.isArrayOf_range_iff]
    decide
  exact ⟨⟨hempty, by simp [LengthFits], passesAlone_of_not_isArrayOf hempty hemptyNone⟩,
    _, _, rfl, rfl, hlong, by simp [LengthFits], passesAlone_of_not_isArrayOf hlong hlongNone⟩

end ArgRules
