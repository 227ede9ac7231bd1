import ArgRules.Proofs.Judgement
import ArgRules.Value.Marking

/-!
# Rules that are kept

A rule that is read from a map is read afresh at every call, and so are the limits in it that are
written leniently: they are new numbers, in boxes of their own. Where the rule is kept instead, its
limits are kept with it, and they can be met again. Here it is said what difference that makes to a
verdict. Nothing is found that was not found before; only the number that an argument is moved to is
in another box. And if the argument is that very number already, it is not moved at all.

## The idle move

A number is moved to an equal one only if the limits are in the wrong order and the number is at the
lower one: it is brought down to the upper limit and back up again. That is a change if the limit is
another number than the argument, and none if they are one and the same (`Change.isIdle`).

## Main definitions

* `Agree` — two computations stop at the same fault or give results that are related
* `Number.Kept`, `Constraint.Kept`, `Rule.Kept` — what has been read, and what is kept of it
* `Value.Alike`, `Change.Alike` — the same up to the boxes of numbers
* `Verdict.Repeats` — a verdict by a rule that is kept

## Main results

* `Rule.kept_mark` — a rule whose limits are given marks is kept
* `Bounds.check_kept` — a check against limits that are kept
* `Kind.check_kept` — the check of a kind
* `Engine.judgeRule_kept` — the verdict on a rule that is kept repeats that on the rule
-/

namespace ArgRules

/-! ### Computations that agree -/

/-- Two computations stop at the same fault, or they give results that are related. -/
inductive Agree {ε α β : Type} (related : α → β → Prop) : Except ε α → Except ε β → Prop
  | stop (fault : ε) : Agree related (.error fault) (.error fault)
  | give {a : α} {b : β} (h : related a b) : Agree related (.ok a) (.ok b)

section Agree

variable {ε α β γ δ : Type} {related : α → β → Prop} {results : γ → δ → Prop}

theorem Agree.bind {x : Except ε α} {y : Except ε β} {f : α → Except ε γ} {g : β → Except ε δ}
    (h : Agree related x y) (hf : ∀ a b, related a b → Agree results (f a) (g b)) :
    Agree results (x >>= f) (y >>= g) := by
  cases h with
  | stop fault => exact .stop fault
  | give hab => exact hf _ _ hab

/-- Two computations that begin alike agree if they agree after that. -/
theorem agree_bind {x : Except ε α} {f : α → Except ε γ} {g : α → Except ε δ}
    (hf : ∀ a, x = .ok a → Agree results (f a) (g a)) : Agree results (x >>= f) (x >>= g) := by
  cases hx : x with
  | error fault => exact .stop fault
  | ok a => exact hf a hx

theorem agree_self {same : α → α → Prop} {x : Except ε α} (h : ∀ a, x = .ok a → same a a) :
    Agree same x x := by
  cases hx : x with
  | error fault => exact .stop fault
  | ok a => exact .give (h a hx)

theorem Agree.imp {related' : α → β → Prop} {x : Except ε α} {y : Except ε β}
    (h : Agree related x y) (himp : ∀ a b, related a b → related' a b) : Agree related' x y := by
  cases h with
  | stop fault => exact .stop fault
  | give hab => exact .give (himp _ _ hab)

theorem rel_self {same : α → α → Prop} (h : ∀ a, same a a) (x : Option α) :
    Option.Rel same x x := by
  cases x with
  | none => exact .none
  | some a => exact .some (h a)

theorem rel_map (f : α → γ) (g : β → δ) (h : ∀ a b, related a b → results (f a) (g b))
    {x : Option α} {y : Option β} (hxy : Option.Rel related x y) :
    Option.Rel results (x.map f) (y.map g) := by
  cases hxy with
  | none => exact .none
  | some hab => exact .some (h _ _ hab)

end Agree

/-! ### What is kept -/

/-- A number that was read and what is kept of it. If its box has no mark it may be in any box then,
unless it exists only once. -/
inductive Number.Kept : Number → Number → Prop
  | same (n : Number) : Kept n n
  | boxed {content : Amount} {box : Option Nat} (rare : content.isShared = false) :
      Kept ⟨content, none⟩ ⟨content, box⟩

/-- A bound that was read and what is kept of it. -/
def Bound.Kept (bound kept : Bound) : Prop := bound.toNumber.Kept kept.toNumber

/-- A limit that was read and what is kept of it. -/
def Limit.Kept (limit kept : Limit) : Prop := limit.toNumber.Kept kept.toNumber

/-- A constraint that was read and what is kept of it: the limits on numbers may be in other
boxes. -/
inductive Constraint.Kept : Constraint → Constraint → Prop
  | same (constraint : Constraint) : Kept constraint constraint
  | integer {low low' high high' : Option Bound} {moves : Bool}
      (lower : Option.Rel Bound.Kept low low') (upper : Option.Rel Bound.Kept high high') :
      Kept (.integer low high moves) (.integer low' high' moves)
  | number {low low' high high' : Option Limit} {moves : Bool}
      (lower : Option.Rel Limit.Kept low low') (upper : Option.Rel Limit.Kept high high') :
      Kept (.number low high moves) (.number low' high' moves)

/-- A rule that was read and what is kept of it. -/
structure Rule.Kept (rule kept : Rule) : Prop where
  isOptional : kept.frame.isOptional = rule.frame.isOptional
  allowFalsey : kept.frame.allowFalsey = rule.frame.allowFalsey
  constraint : rule.frame.constraint.Kept kept.frame.constraint
  given : kept.frame.given = rule.frame.given
  default : kept.default = rule.default

theorem Rule.Kept.refl (rule : Rule) : rule.Kept rule := ⟨rfl, rfl, .same _, rfl, rfl⟩

namespace Number

variable {n m value : Number}

theorem Kept.content_eq (h : n.Kept m) : m.content = n.content := by
  cases h <;> rfl

theorem Kept.exceeds_eq {value' : Number} (h : n.Kept m) (hvalue : value.Kept value') :
    value'.exceeds m = value.exceeds n := by
  rw [exceeds, exceeds, extent, extent, extent, extent, h.content_eq, hvalue.content_eq]

theorem Kept.fallsBelow_eq {value' : Number} (h : n.Kept m) (hvalue : value.Kept value') :
    value'.fallsBelow m = value.fallsBelow n := by
  rw [fallsBelow, fallsBelow, extent, extent, extent, extent, h.content_eq, hvalue.content_eq]

/-- What is one and the same as a number that was read is one and the same as what is kept of it:
the box of that number has a mark, or the number exists only once. -/
theorem Kept.eq_of_identical (h : n.Kept m) (hsame : value.identical n = true) : m = n := by
  cases h with
  | same n => rfl
  | boxed rare =>
    obtain rfl := eq_of_identical hsame
    simp [identical, rare] at hsame

end Number

namespace Constraint

variable {constraint kept : Constraint}

theorem Kept.kind?_eq (h : constraint.Kept kept) : kept.kind? = constraint.kind? := by
  cases h <;> rfl

theorem Kept.lower (h : constraint.Kept kept) :
    Option.Rel Number.Kept constraint.lower kept.lower := by
  cases h with
  | same constraint => exact rel_self .same _
  | integer lower upper => exact rel_map Bound.toNumber Bound.toNumber (fun _ _ => id) lower
  | number lower upper => exact rel_map Limit.toNumber Limit.toNumber (fun _ _ => id) lower

theorem Kept.upper (h : constraint.Kept kept) :
    Option.Rel Number.Kept constraint.upper kept.upper := by
  cases h with
  | same constraint => exact rel_self .same _
  | integer lower upper => exact rel_map Bound.toNumber Bound.toNumber (fun _ _ => id) upper
  | number lower upper => exact rel_map Limit.toNumber Limit.toNumber (fun _ _ => id) upper

/-- What is kept of the constraint of an integer rule is one as well. -/
theorem Kept.of_integer {low high : Option Bound} {moves : Bool}
    (h : (Constraint.integer low high moves).Kept kept) :
    ∃ low' high', kept = .integer low' high' moves ∧ Option.Rel Bound.Kept low low' ∧
      Option.Rel Bound.Kept high high' := by
  cases h with
  | same => exact ⟨low, high, rfl, rel_self (fun _ => .same _) _, rel_self (fun _ => .same _) _⟩
  | integer lower upper => exact ⟨_, _, rfl, lower, upper⟩

/-- What is kept of the constraint of a number rule is one as well. -/
theorem Kept.of_number {low high : Option Limit} {moves : Bool}
    (h : (Constraint.number low high moves).Kept kept) :
    ∃ low' high', kept = .number low' high' moves ∧ Option.Rel Limit.Kept low low' ∧
      Option.Rel Limit.Kept high high' := by
  cases h with
  | same => exact ⟨low, high, rfl, rel_self (fun _ => .same _) _, rel_self (fun _ => .same _) _⟩
  | number lower upper => exact ⟨_, _, rfl, lower, upper⟩

/-- A value is one of the limits on numbers. -/
def HasLimit (constraint : Constraint) (value : Value) : Prop :=
  ∃ n, value = .number n ∧ (constraint.lower = some n ∨ constraint.upper = some n)

end Constraint

/-! ### What is marked -/

/-- A number that is marked is kept. -/
theorem Boxed.kept_mark {α : Type} (amount : α → Amount) (boxed : Boxed α) (free : Nat) :
    Number.Kept ⟨amount boxed.content, boxed.box⟩
      ⟨amount (boxed.mark (fun a => (amount a).isShared) free).1.content,
        (boxed.mark (fun a => (amount a).isShared) free).1.box⟩ := by
  obtain ⟨content, box⟩ := boxed
  rw [mark]
  cases hshared : (amount content).isShared with
  | true => exact .same _
  | false =>
    cases box with
    | some mark => exact .same _
    | none => exact .boxed hshared

theorem rel_mapM {α β : Type} {related : α → β → Prop} {f : α → Marking β}
    (h : ∀ a free, related a (f a free).1) (x : Option α) (free : Nat) :
    Option.Rel related x (x.mapM f free).1 := by
  cases x with
  | none => exact .none
  | some a => exact .some (h a free)

/-- A constraint whose limits are marked is kept. -/
theorem Constraint.kept_mark (constraint : Constraint) (free : Nat) :
    constraint.Kept (constraint.mark free).1 := by
  cases constraint with
  | integer low high moves =>
    exact .integer (rel_mapM (Boxed.kept_mark .int) low _) (rel_mapM (Boxed.kept_mark .int) high _)
  | number low high moves =>
    exact .number (rel_mapM (Boxed.kept_mark Scalar.amount) low _)
      (rel_mapM (Boxed.kept_mark Scalar.amount) high _)
  | _ => exact .same _

/-- **A rule whose limits are marked is kept.** -/
theorem Rule.kept_mark (rule : Rule) (free : Nat) : rule.Kept
    ⟨{ rule.frame with constraint := (rule.frame.constraint.mark free).1 }, rule.default⟩ :=
  ⟨rfl, rfl, Constraint.kept_mark .., rfl, rfl⟩

/-! ### What is alike -/

/-- Two values are the same, or they are numbers that differ in their boxes only. -/
inductive Value.Alike : Value → Value → Prop
  | same (value : Value) : Alike value value
  | number {n m : Number} (content : m.content = n.content) : Alike (.number n) (.number m)

/-- Two changes are the same up to the box of the number that an argument is moved to. -/
structure Change.Alike (change other : Change) : Prop where
  action : other.action = change.action
  before : other.before = change.before
  after : change.after.Alike other.after

/-- Whether a change moves a number to where it is. -/
def Change.isIdle (change : Change) : Bool :=
  change.action = .clamp && change.before.identical change.after

/-- A finding by a constraint that is kept: the reasons are the same, and so is what the value is
replaced by, in a box of its own, unless the value is that already. -/
structure Finding.Repeats (kept : Constraint) (value : Value) (finding other : Finding) : Prop where
  reasons : other.reasons = finding.reasons
  replacement : ∃ found, Option.Rel Value.Alike finding.replacement found ∧
    other.replacement = found.filter (fun after => !value.identical after) ∧
    ∀ after ∈ found, kept.HasLimit after

/-- A verdict by a rule that is kept: the violation is the same, and so is the change, up to the box
of a number, unless it is idle. What a number is moved to is a limit. -/
structure Verdict.Repeats (isLimit : Value → Prop) (value : Value) (verdict other : Verdict) :
    Prop where
  violation : other.violation = verdict.violation
  change : ∃ made, Option.Rel Change.Alike verdict.change made ∧
    other.change = made.filter (fun change => !change.isIdle) ∧
    ∀ change ∈ made, change.before = value ∧ (change.action = .clamp → isLimit change.after)

/-- A verdict without a change repeats itself. -/
theorem Verdict.Repeats.unchanged (isLimit : Value → Prop) (value : Value)
    (violation : Option Violation) : Repeats isLimit value ⟨none, violation⟩ ⟨none, violation⟩ :=
  ⟨rfl, none, .none, rfl, by simp⟩

theorem Verdict.Repeats.imp {isLimit isLimit' : Value → Prop} {value : Value}
    {verdict other : Verdict} (h : Repeats isLimit value verdict other)
    (himp : ∀ limit, isLimit limit → isLimit' limit) : Repeats isLimit' value verdict other := by
  obtain ⟨made, hmade, hother, hchanges⟩ := h.change
  exact ⟨h.violation, made, hmade, hother, fun change hchange =>
    ⟨(hchanges change hchange).1, fun hclamp => himp _ ((hchanges change hchange).2 hclamp)⟩⟩

/-! ### Checks against limits -/

namespace Bounds

/-- A limit that is kept does what the limit does, and it moves a number to itself. -/
theorem applyLimit_kept {outside : Number → Number → Except Fault Bool} {phrase : String}
    {autobound : Bool} {n n' : Number} {limit? kept? : Option Number}
    (houtside : ∀ limit kept, limit.Kept kept → outside n' kept = outside n limit)
    (h : Option.Rel Number.Kept limit? kept?) :
    Agree (fun adjustment other => other.reasons = adjustment.reasons ∧
        Option.Rel Number.Kept adjustment.replacement other.replacement ∧
        ∀ m ∈ other.replacement, kept? = some m)
      (applyLimit .numbers outside phrase autobound n limit?)
      (applyLimit .numbers outside phrase autobound n' kept?) := by
  cases h with
  | none => exact .give ⟨rfl, .none, by simp⟩
  | @some limit kept hkept =>
    rw [applyLimit, applyLimit, houtside limit kept hkept]
    refine agree_bind fun isOutside _ => ?_
    cases isOutside with
    | false => exact .give ⟨rfl, .none, by simp⟩
    | true =>
      cases autobound with
      | true => exact .give ⟨rfl, .some hkept, fun _ => id⟩
      | false =>
        have hwrite : Scale.numbers.write kept = Scale.numbers.write limit := by
          simp only [Scale.numbers, Value.numberText, hkept.content_eq]
        simp only [Bool.not_true, Bool.false_eq_true, if_false, hwrite]
        exact agree_bind fun _ _ => .give ⟨rfl, .none, by simp⟩

/-- What a number is moved to, in whichever box that is kept. -/
theorem repeats_of_moved {kept : Constraint} {n : Number} {moved moved' : Option Number}
    (h : Option.Rel Number.Kept moved moved')
    (hlimit : ∀ m ∈ moved', kept.lower = some m ∨ kept.upper = some m) (reasons : List String) :
    Finding.Repeats kept (.number n)
      (Check.ofNumbers ⟨moved.filter fun m => !n.identical m, reasons⟩)
      (Check.ofNumbers ⟨moved'.filter fun m => !n.identical m, reasons⟩) := by
  refine ⟨rfl, ?_⟩
  cases h with
  | none => exact ⟨none, .none, rfl, by simp⟩
  | @some m m' hkept =>
    cases hsame : n.identical m with
    | true =>
      -- The number has been read as the very limit, and then that limit is the one that is kept.
      obtain rfl := hkept.eq_of_identical hsame
      exact ⟨none, by simp [Check.ofNumbers, Option.filter, hsame],
        by simp [Check.ofNumbers, Option.filter, hsame], by simp⟩
    | false =>
      refine ⟨some (.number m'), ?_, ?_, ?_⟩
      · simpa [Check.ofNumbers, Option.filter, hsame] using
          Option.Rel.some (Value.Alike.number hkept.content_eq)
      · cases hidle : n.identical m' <;>
          simp [Check.ofNumbers, Option.filter, Value.identical, hidle]
      · rintro _ ⟨⟩
        exact ⟨m', rfl, hlimit m' rfl⟩

/-- **A check against limits that are kept** has the same reasons, and it moves a number to the same
place, unless the number is the very limit that it would be moved to. -/
theorem check_kept {constraint kept : Constraint} (h : constraint.Kept kept) (autobound : Bool)
    (n : Number) :
    Agree (fun adjustment other =>
        Finding.Repeats kept (.number n) (Check.ofNumbers adjustment) (Check.ofNumbers other))
      (check .numbers constraint.lower constraint.upper autobound n)
      (check .numbers kept.lower kept.upper autobound n) := by
  rw [check, check]
  refine (applyLimit_kept (fun _ _ hlimit => congrArg Except.ok (hlimit.exceeds_eq (.same n)))
    h.upper).bind ?_
  rintro ⟨up, above⟩ ⟨up', above'⟩ ⟨rfl, hup, hupper⟩
  have hvalue : (up.getD n).Kept (up'.getD n) := by
    cases hup with
    | none => exact .same n
    | some hkept => exact hkept
  refine (applyLimit_kept (fun _ _ hlimit => congrArg Except.ok (hlimit.fallsBelow_eq hvalue))
    h.lower).bind ?_
  rintro ⟨down, below⟩ ⟨down', below'⟩ ⟨rfl, hdown, hlower⟩
  refine .give (repeats_of_moved ?_ ?_ _)
  · cases hdown with
    | none => exact hup
    | some hkept => exact .some hkept
  · intro m hm
    cases down' with
    | none => exact Or.inr (hupper m hm)
    | some m' => exact Or.inl (hlower m hm)

end Bounds

/-! ### Checks of kinds -/

namespace Check

variable {value : Value} {tag : Tag} {moves : Bool}

/-- What a check leaves as it is, it leaves as it is whatever is kept. -/
theorem repeats_unchanged (kept : Constraint) (value : Value) (reasons : List String) :
    Finding.Repeats kept value (.unchanged reasons) (.unchanged reasons) :=
  ⟨rfl, none, .none, rfl, by simp⟩

theorem integer_kept {low low' high high' : Option Bound}
    (h : (Constraint.integer low high moves).Kept (.integer low' high' moves)) :
    Agree (Finding.Repeats (.integer low' high' moves) value)
      (integer (.integer low high moves) value tag)
      (integer (.integer low' high' moves) value tag) := by
  rw [integer.eq_def, integer.eq_def]
  split
  · next n =>
    refine agree_bind fun isWhole _ => ?_
    cases isWhole with
    | false => exact .give (repeats_unchanged ..)
    | true => exact (Bounds.check_kept h moves n).bind fun _ _ hfinding => .give hfinding
  · exact .give (repeats_unchanged ..)

theorem number_kept {low low' high high' : Option Limit}
    (h : (Constraint.number low high moves).Kept (.number low' high' moves)) :
    Agree (Finding.Repeats (.number low' high' moves) value)
      (number (.number low high moves) value tag)
      (number (.number low' high' moves) value tag) := by
  rw [number.eq_def, number.eq_def]
  split
  · next n => exact (Bounds.check_kept h moves n).bind fun _ _ hfinding => .give hfinding
  · exact .give (repeats_unchanged ..)

end Check

/-- **The check of a kind against what is kept** repeats the check against what was read. -/
theorem Kind.check_kept {kind : Kind} {constraint kept : Constraint}
    (hk : constraint.kind? = some kind) (h : constraint.Kept kept) {value : Value} {tag : Tag}
    (ht : value.tag = .ok tag) :
    Agree (Finding.Repeats kept value) (kind.check constraint value tag)
      (kind.check kept value tag) := by
  -- Without limits on numbers nothing is replaced.
  have fixed (hmoves : constraint.moves = false) :
      Agree (Finding.Repeats constraint value) (kind.check constraint value tag)
        (kind.check constraint value tag) := by
    refine agree_self fun finding hfinding => ?_
    obtain ⟨-, hmoved⟩ := Kind.check_spec hk ht hfinding
    have hnone : finding.replacement = none := by
      refine Option.eq_none_iff_forall_not_mem.mpr fun after hafter => ?_
      obtain ⟨_, _, -, -, hmoving, -⟩ := hmoved after hafter
      rw [hmoves] at hmoving
      contradiction
    exact ⟨rfl, none, by rw [hnone]; exact .none, hnone, by simp⟩
  cases h with
  | integer lower upper =>
    obtain rfl := Option.some.inj hk
    exact Check.integer_kept (.integer lower upper)
  | number lower upper =>
    obtain rfl := Option.some.inj hk
    exact Check.number_kept (.number lower upper)
  | same constraint =>
    cases constraint with
    | integer low high moves =>
      obtain rfl := Option.some.inj hk
      exact Check.integer_kept (.same _)
    | number low high moves =>
      obtain rfl := Option.some.inj hk
      exact Check.number_kept (.same _)
    | _ => exact fixed rfl

namespace Engine

variable {engine : Engine} {checkNames : Bool} {name value : Value} {rule kept : Rule}

/-! ### Verdicts -/

section Rule

variable (h : rule.Kept kept)

include h

theorem recordName_kept : kept.frame.constraint.recordName = rule.frame.constraint.recordName := by
  rw [Constraint.recordName, Constraint.recordName, h.constraint.kind?_eq]

theorem kind_kept : kept.kind = rule.kind := by
  rw [Rule.kind, Rule.kind, h.constraint.kind?_eq, recordName_kept h]

theorem hasDefault_kept : kept.frame.hasDefault = rule.frame.hasDefault := by
  rw [Rule.Frame.hasDefault, Rule.Frame.hasDefault, h.given]

theorem exempts_kept : kept.exempts value = rule.exempts value := by
  rw [Rule.exempts, Rule.exempts, h.allowFalsey]

theorem nameReasons_kept :
    engine.nameReasons checkNames name kept = engine.nameReasons checkNames name rule := by
  rw [nameReasons, nameReasons, kind_kept h]

/-- Of a rule, a violation tells the kind and the flag. -/
theorem violationFor_kept (reasons : List String) :
    Verdict.violationFor name kept value reasons =
      Verdict.violationFor name rule value reasons := by
  have hheader : Violation.Header.ofEntry kept.toValue = Violation.Header.ofEntry rule.toValue := by
    change Violation.Header.ofRule kept.frame = Violation.Header.ofRule rule.frame
    rw [Violation.Header.ofRule, Violation.Header.ofRule, h.constraint.kind?_eq, h.isOptional,
      recordName_kept h]
  rw [Verdict.violationFor, Verdict.violationFor, Violation.describe, Violation.describe, hheader]

theorem examine_kept : Agree (Finding.Repeats kept.frame.constraint value)
    (engine.examine rule value) (engine.examine kept value) := by
  rw [examine, examine, Rule.examines, Rule.examines, h.isOptional, kind_kept h]
  refine agree_bind fun isExamined _ => ?_
  cases isExamined with
  | false => exact .give (Check.repeats_unchanged ..)
  | true =>
    refine agree_bind fun kind hkind => ?_
    rw [examineKind, examineKind]
    split
    · exact agree_bind fun tag ht => Kind.check_kept (Rule.kind_eq_ok.mp hkind) h.constraint ht
    · exact .give (Check.repeats_unchanged ..)

theorem judgeDefault_kept (habsent : value = .undefined) :
    Agree (Verdict.Repeats kept.frame.constraint.HasLimit value)
      (engine.judgeDefault checkNames name rule) (engine.judgeDefault checkNames name kept) := by
  rw [judgeDefault, judgeDefault, Rule.defaultChange, Rule.defaultChange, nameReasons_kept h,
    exempts_kept h, h.default]
  simp only [violationFor_kept h]
  -- The change puts in a default, so it is not idle.
  have repeated (violation : Option Violation) :
      Verdict.Repeats kept.frame.constraint.HasLimit value
        ⟨some ⟨.default, .undefined, rule.default⟩, violation⟩
        ⟨some ⟨.default, .undefined, rule.default⟩, violation⟩ :=
    ⟨rfl, _, .some ⟨rfl, rfl, .same _⟩, rfl, by simp [habsent]⟩
  refine agree_bind fun _ _ => agree_bind fun isExempt _ => ?_
  cases isExempt with
  | true => exact .give (repeated none)
  | false => exact agree_bind fun violation _ => .give (repeated violation)

theorem judgeValue_kept : Agree (Verdict.Repeats kept.frame.constraint.HasLimit value)
    (engine.judgeValue checkNames name rule value)
    (engine.judgeValue checkNames name kept value) := by
  rw [judgeValue, judgeValue, nameReasons_kept h, exempts_kept h]
  refine agree_bind fun reasons _ => agree_bind fun isExempt _ => ?_
  cases isExempt with
  | true => exact .give (.unchanged ..)
  | false =>
    refine (examine_kept h).bind ?_
    rintro finding other ⟨hreasons, found, hfound, hother, hlimit⟩
    rw [violationFor_kept h, hreasons, hother]
    refine agree_bind fun violation _ => .give ⟨rfl, found.map (Change.mk .clamp value), ?_, ?_, ?_⟩
    · exact rel_map _ _ (fun _ _ halike => ⟨rfl, rfl, halike⟩) hfound
    · cases found with
      | none => rfl
      | some after => cases hidle : value.identical after <;>
        simp [Change.isIdle, Option.filter, hidle]
    · intro change hchange
      obtain ⟨after, hafter, rfl⟩ := Option.map_eq_some_iff.mp hchange
      exact ⟨rfl, fun _ => hlimit after hafter⟩

/-- **The verdict on a rule that is kept** repeats that on the rule. -/
theorem judgeRule_kept : Agree (Verdict.Repeats kept.frame.constraint.HasLimit value)
    (engine.judgeRule checkNames name rule value)
    (engine.judgeRule checkNames name kept value) := by
  rw [judgeRule, judgeRule, hasDefault_kept h, h.isOptional]
  split
  · next hdefault =>
    rw [Bool.and_eq_true, Value.isAbsent_iff] at hdefault
    exact judgeDefault_kept h hdefault.1
  · split
    · rw [violationFor_kept h]
      exact agree_bind fun violation _ => .give (.unchanged ..)
    · exact judgeValue_kept h

end Rule

end Engine

end ArgRules
