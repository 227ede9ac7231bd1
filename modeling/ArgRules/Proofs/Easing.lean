import ArgRules.Proofs.Answers
import ArgRules.Proofs.Assessment
import ArgRules.Proofs.Clamping
import ArgRules.Proofs.Directives
import Mathlib.Logic.Relation

/-!
# Rules that ask for less

A rule can be eased: its argument is made optional, its falsey values are exempted, what is empty is
allowed, numbers are moved instead of reported, a limit is dropped or put further away. Here it is
proved that easing rules never turns a passing evaluation into one that does not pass.

## One edit and many

`Rule.Eased` is one edit. What an edit may do to a judgement is said once, by `Rule.AsksLess`: the
kind and the default stay, the two switches only go from off to on, and whatever the check of the
kind has nothing against, it has nothing against afterwards. That relation holds of every single
edit, it is reflexive and transitive, and so it holds of any number of edits, one after the other.

## What has to be classified

A rule that exempts falsey values asks of the value in effect whether it is one, which a rule
without exemptions does not ask. The value may be a default, and it may refuse to be classified. So
an evaluation comes to its end after an edit if all arguments and all defaults have a tag; without
that it may stop at a default that nobody had looked at before.

## Main definitions

* `Constraint.Eased`, `Rule.Eased` — a single edit
* `Rule.AsksLess` — what edits do to a judgement
* `Rule.EasedAll` — a rule map with any number of edits to its rules

## Main results

* `Constraint.Eased.admits` — what was admitted is admitted after an edit
* `Kind.check_of_admits` — the check of an admitted value comes to its end, without reasons
* `Rule.asksLess_of_eased` — a rule asks for less after any number of edits
* `Engine.passes_of_easedAll` — an evaluation that passes still passes
-/

namespace ArgRules

/-! ### Limits that are put further away -/

/-- A limit is dropped, or there is another one further away in its place. -/
inductive Loosened {α : Type} (further : α → α → Prop) : Option α → Option α → Prop
  | dropped (limit : α) : Loosened further (some limit) none
  | moved {limit other : α} (h : further limit other) : Loosened further (some limit) (some other)

/-- Limits that are taken for others are loosened as these are. -/
theorem Loosened.map {α β : Type} {further : α → α → Prop} {beyond : β → β → Prop} {f : α → β}
    (hf : ∀ limit other, further limit other → beyond (f limit) (f other)) {low low' : Option α}
    (h : Loosened further low low') : Loosened beyond (low.map f) (low'.map f) := by
  cases h with
  | dropped limit => exact .dropped _
  | moved h => exact .moved (hf _ _ h)

section Lengths

variable {low low' high high' : Option Int} {count : Nat}

theorem LengthFits.of_lower (h : LengthFits low high count)
    (hlow : Loosened (fun limit other : Int => other < limit) low low') :
    LengthFits low' high count := by
  refine ⟨fun n hn hzero => ?_, h.2⟩
  cases hlow with
  | dropped limit => simp at hn
  | @moved limit other hless =>
    obtain rfl := Option.some.inj hn
    have hfits : limit ≠ 0 → limit ≤ count := h.1 limit rfl
    omega

/-- A length below a limit is below any greater one, unless the limit was zero, which is none. -/
theorem LengthFits.of_higher (h : LengthFits low high count)
    (hhigh : Loosened (fun limit other : Int => limit ≠ 0 ∧ limit < other) high high') :
    LengthFits low high' count := by
  refine ⟨h.1, fun n hn hzero => ?_⟩
  cases hhigh with
  | dropped limit => simp at hn
  | @moved limit other hmore =>
    obtain rfl := Option.some.inj hn
    have hfits : limit ≠ 0 → (count : Int) ≤ limit := h.2 limit rfl
    omega

end Lengths

theorem Extent.lt_trans {a b c : Extent} (hab : a.lt b = true) (hbc : b.lt c = true) :
    a.lt c = true := by
  cases a <;> cases b <;> cases c <;> grind [lt]

section Numbers

variable {lower lower' upper upper' : Option Number} {n : Number}

/-- A lower limit may as well be replaced by an equal one. -/
theorem Number.Within.of_lower (h : n.Within lower upper)
    (hlower : Loosened (fun limit other => other.fallsBelow limit = true ∨
      other.extent = limit.extent) lower lower') :
    n.Within lower' upper := by
  refine ⟨h.1, fun other hother => ?_⟩
  cases hlower with
  | dropped limit => simp at hother
  | @moved limit other hless =>
    obtain rfl := Option.some.inj hother
    have hfits : n.fallsBelow limit = false := h.2 limit rfl
    rcases hless with hless | hequal
    · cases hbelow : n.fallsBelow other with
      | false => rfl
      | true =>
        have houtside : n.fallsBelow limit = true := Extent.lt_trans hbelow hless
        rw [hfits] at houtside
        contradiction
    · rwa [fallsBelow, hequal]

theorem Number.Within.of_upper (h : n.Within lower upper)
    (hupper : Loosened (fun limit other => other.exceeds limit = true ∨
      other.extent = limit.extent) upper upper') :
    n.Within lower upper' := by
  refine ⟨fun other hother => ?_, h.2⟩
  cases hupper with
  | dropped limit => simp at hother
  | @moved limit other hmore =>
    obtain rfl := Option.some.inj hother
    have hfits : n.exceeds limit = false := h.1 limit rfl
    rcases hmore with hmore | hequal
    · cases habove : n.exceeds other with
      | false => rfl
      | true =>
        have houtside : n.exceeds limit = true := Extent.lt_trans hmore habove
        rw [hfits] at houtside
        contradiction
    · rwa [exceeds, hequal]

end Numbers

/-! ### A single edit of a constraint -/

/-- One edit that eases a constraint. A limit of numbers that is put further away may also be put
where it was, into another box. -/
inductive Constraint.Eased : Constraint → Constraint → Prop
  | arrayEmpty {low high} : Eased (.array false low high) (.array true low high)
  | arrayLow {allowEmpty low low' high}
      (h : Loosened (fun limit other : Int => other < limit) low low') :
      Eased (.array allowEmpty low high) (.array allowEmpty low' high)
  | arrayHigh {allowEmpty low high high'}
      (h : Loosened (fun limit other : Int => limit ≠ 0 ∧ limit < other) high high') :
      Eased (.array allowEmpty low high) (.array allowEmpty low high')
  | mapEmpty : Eased (.map false) (.map true)
  | integerLow {low low' high moves}
      (h : Loosened (fun limit other : Bound => other.content ≤ limit.content) low low') :
      Eased (.integer low high moves) (.integer low' high moves)
  | integerHigh {low high high' moves}
      (h : Loosened (fun limit other : Bound => limit.content ≤ other.content) high high') :
      Eased (.integer low high moves) (.integer low high' moves)
  | integerMoves {low high} : Eased (.integer low high false) (.integer low high true)
  | numberLow {low low' high moves}
      (h : Loosened (fun limit other : Limit => other.toNumber.fallsBelow limit.toNumber = true ∨
        other.content = limit.content) low low') :
      Eased (.number low high moves) (.number low' high moves)
  | numberHigh {low high high' moves}
      (h : Loosened (fun limit other : Limit => other.toNumber.exceeds limit.toNumber = true ∨
        other.content = limit.content) high high') :
      Eased (.number low high moves) (.number low high' moves)
  | numberMoves {low high} : Eased (.number low high false) (.number low high true)
  | stringEmpty {filter low high} :
      Eased (.string false filter low high) (.string true filter low high)
  | stringLow {allowEmpty filter low low' high}
      (h : Loosened (fun limit other : Int => other < limit) low low') :
      Eased (.string allowEmpty filter low high) (.string allowEmpty filter low' high)
  | stringHigh {allowEmpty filter low high high'}
      (h : Loosened (fun limit other : Int => limit ≠ 0 ∧ limit < other) high high') :
      Eased (.string allowEmpty filter low high) (.string allowEmpty filter low high')

namespace Constraint

variable {constraint other : Constraint} {value : Value}

theorem Eased.kind?_eq (h : constraint.Eased other) : other.kind? = constraint.kind? := by
  cases h <;> rfl

/-- **What was admitted is admitted after an edit.** -/
theorem Eased.admits (h : constraint.Eased other) (hadmits : constraint.Admits value) :
    other.Admits value := by
  cases h with
  | arrayEmpty =>
    obtain ⟨htag, count, hcount, -, hfits⟩ := hadmits
    exact ⟨htag, count, hcount, by simp, hfits⟩
  | arrayLow h =>
    obtain ⟨htag, count, hcount, hempty, hfits⟩ := hadmits
    exact ⟨htag, count, hcount, hempty, hfits.of_lower h⟩
  | arrayHigh h =>
    obtain ⟨htag, count, hcount, hempty, hfits⟩ := hadmits
    exact ⟨htag, count, hcount, hempty, hfits.of_higher h⟩
  | mapEmpty => exact ⟨hadmits.1, by simp⟩
  | integerLow h =>
    obtain ⟨n, text, rfl, htext, hnumeral, hbounds⟩ := hadmits
    refine ⟨n, text, rfl, htext, hnumeral, fun hstays => (hbounds hstays).of_lower (h.map ?_)⟩
    intro limit other hle
    rcases Int.lt_or_eq_of_le hle with hless | hequal
    · exact Or.inl (decide_eq_true (Rat.intCast_lt_intCast.mpr hless))
    · exact Or.inr (congrArg (fun n : Int => Extent.exactly n) hequal)
  | integerHigh h =>
    obtain ⟨n, text, rfl, htext, hnumeral, hbounds⟩ := hadmits
    refine ⟨n, text, rfl, htext, hnumeral, fun hstays => (hbounds hstays).of_upper (h.map ?_)⟩
    intro limit other hle
    rcases Int.lt_or_eq_of_le hle with hmore | hequal
    · exact Or.inl (decide_eq_true (Rat.intCast_lt_intCast.mpr hmore))
    · exact Or.inr (congrArg (fun n : Int => Extent.exactly n) hequal.symm)
  | integerMoves =>
    obtain ⟨n, text, rfl, htext, hnumeral, -⟩ := hadmits
    exact ⟨n, text, rfl, htext, hnumeral, fun hstays => absurd hstays (by simp [moves])⟩
  | numberLow h =>
    obtain ⟨n, rfl, hbounds⟩ := hadmits
    exact ⟨n, rfl, fun hstays => (hbounds hstays).of_lower
      (h.map (f := Limit.toNumber) fun _ _ => Or.imp_right fun hequal =>
        congrArg (·.amount.extent) hequal)⟩
  | numberHigh h =>
    obtain ⟨n, rfl, hbounds⟩ := hadmits
    exact ⟨n, rfl, fun hstays => (hbounds hstays).of_upper
      (h.map (f := Limit.toNumber) fun _ _ => Or.imp_right fun hequal =>
        congrArg (·.amount.extent) hequal)⟩
  | numberMoves =>
    obtain ⟨n, rfl, -⟩ := hadmits
    exact ⟨n, rfl, fun hstays => absurd hstays (by simp [moves])⟩
  | @stringEmpty filter low high =>
    obtain ⟨s, hs, hcontents, hfits⟩ := hadmits
    refine ⟨s, hs, ?_, hfits⟩
    cases filter with
    | none => exact fun hstrict => absurd hstrict (by simp)
    | some p => exact hcontents
  | stringLow h =>
    obtain ⟨s, hs, hcontents, hfits⟩ := hadmits
    exact ⟨s, hs, hcontents, hfits.of_lower h⟩
  | stringHigh h =>
    obtain ⟨s, hs, hcontents, hfits⟩ := hadmits
    exact ⟨s, hs, hcontents, hfits.of_higher h⟩

end Constraint

/-! ### The checks of what is admitted -/

namespace Check

variable {count : Nat} {limit : Option Int} {reason : Int → Except Fault String}

/-- A length that fits is not compared in words, so its limit needs no text. -/
theorem tooLong_of_fits (h : ∀ n ∈ limit, n ≠ 0 → (count : Int) ≤ n) :
    tooLong count limit reason = .ok [] := by
  cases limit with
  | none => rfl
  | some n =>
    have hfits : n ≠ 0 → (count : Int) ≤ n := h n rfl
    rw [tooLong, if_neg (by omega)]
    rfl

theorem tooShort_of_fits (h : ∀ n ∈ limit, n ≠ 0 → n ≤ (count : Int)) :
    tooShort count limit reason = .ok [] := by
  cases limit with
  | none => rfl
  | some n =>
    have hfits : n ≠ 0 → n ≤ (count : Int) := h n rfl
    rw [tooShort, if_neg (by omega)]
    rfl

theorem answered_array_of_admits {allowEmpty : Bool} {low high : Option Int} {value : Value}
    (h : (Constraint.array allowEmpty low high).Admits value)
    (hwritten : ∀ count, value.itemCount = .ok count → Answered (Value.intText count)) :
    Answered (array (.array allowEmpty low high) value .array) := by
  obtain ⟨-, count, hcount, -, hlow, hhigh⟩ := h
  obtain ⟨text, htext⟩ := hwritten count hcount
  rw [array, if_neg (by simp)]
  exact ⟨_, bind_eq_ok.mpr ⟨count, hcount, bind_eq_ok.mpr ⟨text, htext, bind_eq_ok.mpr ⟨_, rfl,
    bind_eq_ok.mpr ⟨_, rfl, bind_eq_ok.mpr ⟨_, tooLong_of_fits hhigh, bind_eq_ok.mpr ⟨_, rfl,
      bind_eq_ok.mpr ⟨_, tooShort_of_fits hlow, rfl⟩⟩⟩⟩⟩⟩⟩⟩

theorem answered_string_of_admits {allowEmpty : Bool} {filter : Option Pattern}
    {low high : Option Int} {value : Value}
    (h : (Constraint.string allowEmpty filter low high).Admits value) :
    Answered (string (.string allowEmpty filter low high) value .string) := by
  obtain ⟨s, hs, hcontents, hlow, hhigh⟩ := h
  obtain ⟨unfit, hunfit⟩ : Answered (contents (.string allowEmpty filter low high) s) := by
    cases filter with
    | none => exact ⟨_, rfl⟩
    | some p => exact ⟨[], bind_eq_ok.mpr ⟨_, rfl, bind_eq_ok.mpr ⟨true, hcontents, rfl⟩⟩⟩
  rw [string.eq_def, hs]
  exact ⟨_, bind_eq_ok.mpr ⟨unfit, hunfit, bind_eq_ok.mpr ⟨_, rfl, bind_eq_ok.mpr ⟨_,
    tooLong_of_fits hhigh, bind_eq_ok.mpr ⟨_, rfl, bind_eq_ok.mpr ⟨_, tooShort_of_fits hlow,
      rfl⟩⟩⟩⟩⟩⟩

end Check

namespace Bounds

variable {lower upper limit? : Option Number} {n : Number}

theorem applyLimit_of_inside {outside : Number → Number → Except Fault Bool} {phrase : String}
    {autobound : Bool} (h : ∀ limit ∈ limit?, outside n limit = .ok false) :
    applyLimit .numbers outside phrase autobound n limit? = .ok ⟨none, []⟩ := by
  cases limit? with
  | none => rfl
  | some limit => exact bind_eq_ok.mpr ⟨false, h limit rfl, rfl⟩

/-- A number is checked against limits without need of their texts, if it is within them or may be
moved to them. -/
theorem answered_check_of_within {autobound : Bool}
    (h : autobound = false → n.Within lower upper) :
    Answered (check .numbers lower upper autobound n) := by
  cases autobound with
  | true =>
    obtain ⟨replacement, hcheck, -⟩ := check_moving lower upper n
    exact ⟨_, hcheck⟩
  | false =>
    obtain ⟨habove, hbelow⟩ := h rfl
    have hupper : applyLimit .numbers Scale.numbers.exceeds abovePhrase false n upper =
        .ok ⟨none, []⟩ :=
      applyLimit_of_inside fun limit hlimit => congrArg Except.ok (habove limit hlimit)
    have hlower : applyLimit .numbers Scale.numbers.fallsBelow belowPhrase false n lower =
        .ok ⟨none, []⟩ :=
      applyLimit_of_inside fun limit hlimit => congrArg Except.ok (hbelow limit hlimit)
    exact ⟨_, bind_eq_ok.mpr ⟨_, hupper, bind_eq_ok.mpr ⟨_, hlower, rfl⟩⟩⟩

end Bounds

/-- **The check of an admitted value comes to its end, without reasons.** Only the number of items
of an array is written before there is a reason to. -/
theorem Kind.check_of_admits {kind : Kind} {constraint : Constraint} {value : Value} {tag : Tag}
    (hk : constraint.kind? = some kind) (ht : value.tag = .ok tag) (h : constraint.Admits value)
    (hwritten : kind = .array → ∀ count, value.itemCount = .ok count →
      Answered (Value.intText count)) :
    ∃ finding, kind.check constraint value tag = .ok finding ∧ finding.reasons = [] := by
  have hanswered : Answered (kind.check constraint value tag) := by
    cases constraint with
    | bare => simp [Constraint.kind?] at hk
    | array allowEmpty low high =>
      obtain rfl := Option.some.inj hk
      obtain rfl := Except.ok.inj (ht.symm.trans h.1)
      exact Check.answered_array_of_admits h (hwritten rfl)
    | map allowEmpty =>
      obtain rfl := Option.some.inj hk
      refine (Check.answered_map_iff ht).mpr fun hstrict _ => ?_
      obtain ⟨count, hcount, -⟩ := h.2 hstrict
      exact ⟨count, hcount⟩
    | integer low high moves =>
      obtain rfl := Option.some.inj hk
      obtain ⟨n, text, rfl, htext, hnumeral, hbounds⟩ := h
      have hwhole : Value.isIntegerFormatted (.number n) = .ok true :=
        bind_eq_ok.mpr ⟨text, htext, congrArg Except.ok ((Value.isIntegerText_iff _).mpr hnumeral)⟩
      obtain rfl := Except.ok.inj ht
      obtain ⟨adjustment, hcheck⟩ := Bounds.answered_check_of_within hbounds
      exact ⟨_, Check.integer_of_bounds hwhole hcheck⟩
    | number low high moves =>
      obtain rfl := Option.some.inj hk
      obtain ⟨n, rfl, hbounds⟩ := h
      obtain rfl := Except.ok.inj ht
      obtain ⟨adjustment, hcheck⟩ := Bounds.answered_check_of_within hbounds
      exact ⟨_, Check.number_of_bounds hcheck⟩
    | string allowEmpty filter low high =>
      obtain rfl := Option.some.inj hk
      obtain ⟨s, hs, -⟩ := id h
      obtain rfl := Except.ok.inj (ht.symm.trans (Value.tag_of_asText? hs))
      exact Check.answered_string_of_admits h
    | _ =>
      obtain rfl := Option.some.inj hk
      exact answered_ok _
  obtain ⟨finding, hfinding⟩ := hanswered
  exact ⟨finding, hfinding, (check_spec hk ht hfinding).1.mpr h⟩

/-- Where the items of an array have been checked, their number could be written. -/
theorem Kind.answered_count_of_check {constraint : Constraint} {value : Value} {finding : Finding}
    (h : Kind.array.check constraint value .array = .ok finding) {count : Nat}
    (hcount : value.itemCount = .ok count) : Answered (Value.intText count) := by
  have h : Check.array constraint value .array = .ok finding := h
  rw [Check.array, if_neg (by simp)] at h
  obtain ⟨found, hfound, h⟩ := bind_eq_ok.mp h
  obtain rfl := Except.ok.inj (hcount.symm.trans hfound)
  obtain ⟨text, htext, -⟩ := bind_eq_ok.mp h
  exact ⟨text, htext⟩

/-- **What a check has nothing against, it has nothing against after an edit.** -/
theorem Constraint.Eased.check {constraint other : Constraint} (h : constraint.Eased other)
    {kind : Kind} (hk : constraint.kind? = some kind) {value : Value} {tag : Tag}
    (ht : value.tag = .ok tag) {finding : Finding}
    (hcheck : kind.check constraint value tag = .ok finding) (hreasons : finding.reasons = []) :
    ∃ eased, kind.check other value tag = .ok eased ∧ eased.reasons = [] := by
  have hadmits := (Kind.check_spec hk ht hcheck).1.mp hreasons
  refine Kind.check_of_admits (h.kind?_eq.trans hk) ht (h.admits hadmits) ?_
  rintro rfl count hcount
  have htag : tag = .array := by
    cases h <;> simp only [kind?, Option.some.injEq, reduceCtorEq] at hk
    all_goals exact Except.ok.inj (ht.symm.trans hadmits.1)
  subst htag
  exact Kind.answered_count_of_check hcheck hcount

/-! ### Edits of rules -/

namespace Rule

/-- One edit that eases a rule. The default stays, and so does whether there is one. -/
inductive Eased : Rule → Rule → Prop
  | optional {allowFalsey : Bool} {constraint : Constraint} {given given' : List Field}
      {default : Value} (kept : given'.contains .default = given.contains .default) :
      Eased ⟨⟨false, allowFalsey, constraint, given⟩, default⟩
        ⟨⟨true, allowFalsey, constraint, given'⟩, default⟩
  | falsey {isOptional : Bool} {constraint : Constraint} {given given' : List Field}
      {default : Value} (kept : given'.contains .default = given.contains .default) :
      Eased ⟨⟨isOptional, false, constraint, given⟩, default⟩
        ⟨⟨isOptional, true, constraint, given'⟩, default⟩
  | constraint {isOptional allowFalsey : Bool} {constraint other : Constraint}
      {given given' : List Field} {default : Value} (edit : constraint.Eased other)
      (kept : given'.contains .default = given.contains .default) :
      Eased ⟨⟨isOptional, allowFalsey, constraint, given⟩, default⟩
        ⟨⟨isOptional, allowFalsey, other, given'⟩, default⟩

/-- A rule asks for less than another one, as far as judgements go. -/
structure AsksLess (rule less : Rule) : Prop where
  kind : less.frame.constraint.kind? = rule.frame.constraint.kind?
  default : less.default = rule.default
  stocked : less.frame.hasDefault = rule.frame.hasDefault
  optional : rule.frame.isOptional = true → less.frame.isOptional = true
  falsey : rule.frame.allowFalsey = true → less.frame.allowFalsey = true
  /-- What the check of the kind has nothing against, it still has nothing against. -/
  check : ∀ kind value tag finding, rule.frame.constraint.kind? = some kind →
    value.tag = .ok tag → kind.check rule.frame.constraint value tag = .ok finding →
    finding.reasons = [] →
      ∃ eased, kind.check less.frame.constraint value tag = .ok eased ∧ eased.reasons = []

theorem AsksLess.refl (rule : Rule) : rule.AsksLess rule where
  kind := rfl
  default := rfl
  stocked := rfl
  optional := id
  falsey := id
  check _ _ _ finding _ _ hcheck hreasons := ⟨finding, hcheck, hreasons⟩

theorem AsksLess.trans {rule less least : Rule} (h : rule.AsksLess less)
    (h' : less.AsksLess least) : rule.AsksLess least where
  kind := h'.kind.trans h.kind
  default := h'.default.trans h.default
  stocked := h'.stocked.trans h.stocked
  optional hyes := h'.optional (h.optional hyes)
  falsey hyes := h'.falsey (h.falsey hyes)
  check kind value tag finding hk ht hcheck hreasons := by
    obtain ⟨eased, heased, hnone⟩ := h.check kind value tag finding hk ht hcheck hreasons
    exact h'.check kind value tag eased (h.kind.trans hk) ht heased hnone

/-- A single edit makes a rule ask for less. -/
theorem Eased.asksLess {rule less : Rule} (h : rule.Eased less) : rule.AsksLess less := by
  cases h with
  | optional kept =>
    exact ⟨rfl, rfl, kept, fun _ => rfl, id, fun _ _ _ finding _ _ hcheck hreasons =>
      ⟨finding, hcheck, hreasons⟩⟩
  | falsey kept =>
    exact ⟨rfl, rfl, kept, id, fun _ => rfl, fun _ _ _ finding _ _ hcheck hreasons =>
      ⟨finding, hcheck, hreasons⟩⟩
  | constraint edit kept =>
    exact ⟨edit.kind?_eq, rfl, kept, id, id, fun _ _ _ _ hk ht hcheck hreasons =>
      edit.check hk ht hcheck hreasons⟩

/-- **A rule asks for less after any number of edits.** -/
theorem asksLess_of_eased {rule less : Rule} (h : Relation.ReflTransGen Eased rule less) :
    rule.AsksLess less := by
  induction h with
  | refl => exact .refl rule
  | tail _ hedit ih => exact ih.trans hedit.asksLess

namespace AsksLess

variable {rule less : Rule} {value : Value}

theorem kind_eq (h : rule.AsksLess less) : less.kind = rule.kind := by
  rw [Rule.kind, Rule.kind, Constraint.recordName, Constraint.recordName, h.kind]

/-- What a rule exempts is exempt from one that asks for less. -/
theorem exempts (h : rule.AsksLess less) (htag : Answered value.tag)
    (hexempt : rule.exempts value = .ok true) : less.exempts value = .ok true := by
  obtain ⟨hfalsey, hblank⟩ := (exempts_iff hexempt).mp rfl
  have hanswered : Answered (less.exempts value) := answered_exempts htag
  obtain ⟨answer, hanswer⟩ := hanswered
  rw [hanswer, (exempts_iff hanswer).mpr ⟨h.falsey hfalsey, hblank⟩]

theorem examines (h : rule.AsksLess less) (hexamines : less.Examines value) :
    rule.Examines value := by
  obtain ⟨hgiven, hrequired, hfilled⟩ := hexamines
  rw [h.kind] at hfilled
  refine ⟨hgiven, ?_, hfilled⟩
  cases hoptional : rule.frame.isOptional with
  | false => rfl
  | true =>
    rw [h.optional hoptional] at hrequired
    contradiction

/-- A rule that asks for less can be asked whether it examines a value, if the other one can. -/
theorem answered_examines (h : rule.AsksLess less) (htag : Answered value.tag) {answer : Bool}
    (hanswer : rule.examines value = .ok answer) : Answered (less.examines value) := by
  refine answered_ite (fun _ => answered_pure _) fun hasked => ?_
  rw [Bool.or_eq_true, not_or] at hasked
  have hrequired : ¬ rule.frame.isOptional = true := fun hyes => hasked.2 (h.optional hyes)
  have hneither : ¬ (value.isAbsent || rule.frame.isOptional) = true := by
    rw [Bool.or_eq_true, not_or]
    exact ⟨hasked.1, hrequired⟩
  rw [Rule.examines, if_neg hneither] at hanswer
  obtain ⟨kind, hkind, -⟩ := bind_eq_ok.mp hanswer
  exact Answered.bind ⟨kind, h.kind_eq.trans hkind⟩ fun _ _ => answered_isExamined htag

end AsksLess

/-- A rule map with any number of edits to its rules. -/
def EasedAll (rules eased : Entries) : Prop :=
  Altered (fun entry other => ∃ rule less, ofEntry entry = .ok (.ok rule) ∧
    ofEntry other = .ok (.ok less) ∧ Relation.ReflTransGen Eased rule less) rules eased

end Rule

/-! ### Judgements -/

namespace Engine

variable {engine : Engine} {checkNames : Bool} {name entry other value : Value}
  {rule less : Rule} {verdict : Verdict} {finding : Finding}

theorem nameReasons_of_asksLess (h : rule.AsksLess less) :
    engine.nameReasons checkNames name less = engine.nameReasons checkNames name rule := by
  rw [nameReasons, nameReasons, h.kind_eq]

/-- What was found nothing against has nothing found against it by a rule that asks for less. -/
theorem examine_of_asksLess (h : rule.AsksLess less) (htag : Answered value.tag)
    (hexamine : engine.examine rule value = .ok finding) (hreasons : finding.reasons = []) :
    ∃ eased, engine.examine less value = .ok eased ∧ eased.reasons = [] := by
  obtain ⟨asked, hasked, -⟩ := bind_eq_ok.mp hexamine
  obtain ⟨answer, hanswer⟩ := h.answered_examines htag hasked
  cases answer with
  | false => exact ⟨.unchanged [], bind_eq_ok.mpr ⟨false, hanswer, rfl⟩, rfl⟩
  | true =>
    have hexamines : rule.Examines value := h.examines ((Rule.examines_iff hanswer).mp rfl)
    obtain ⟨kind, tag, hk, hsupported, ht, hcheck⟩ :=
      check_of_examine hexamine hexamines hreasons
    obtain ⟨eased, heased, hnone⟩ := h.check kind value tag finding hk ht hcheck hreasons
    refine ⟨eased, bind_eq_ok.mpr ⟨true, hanswer, bind_eq_ok.mpr ⟨kind, ?_, ?_⟩⟩, hnone⟩
    · exact Rule.kind_eq_ok.mpr (h.kind.trans hk)
    · rw [examineKind, if_pos hsupported]
      exact bind_eq_ok.mpr ⟨tag, ht, heased⟩

/-- A value that is there, or optional and absent, still has nothing against it. -/
theorem judge_present_of_asksLess (h : rule.AsksLess less)
    (hother : Rule.ofEntry other = .ok (.ok less)) (htag : Answered value.tag)
    (hpresent : value = .undefined → rule.frame.hasDefault = false ∧ rule.frame.isOptional = true)
    {reasons : List String} (hnamed : engine.nameReasons checkNames name rule = .ok reasons)
    (hclear : less.exempts value = .ok true ∨ reasons = [] ∧
      ∃ eased, engine.examine less value = .ok eased ∧ eased.reasons = []) :
    ∃ eased, engine.judge checkNames name other value = .ok eased ∧ eased.violation = none := by
  have hpresent' : value = .undefined →
      less.frame.hasDefault = false ∧ less.frame.isOptional = true := fun habsent =>
    ⟨h.stocked.trans (hpresent habsent).1, h.optional (hpresent habsent).2⟩
  have hnamed' : engine.nameReasons checkNames name less = .ok reasons :=
    (nameReasons_of_asksLess h).trans hnamed
  have hanswered : Answered (less.exempts value) := Rule.answered_exempts htag
  obtain ⟨exempt, hexempt⟩ := hanswered
  cases exempt with
  | true => exact ⟨_, judge_of_judged (.exempt hother hpresent' hnamed' hexempt), rfl⟩
  | false =>
    rcases hclear with hyes | ⟨rfl, eased, heased, hnone⟩
    · cases hexempt.symm.trans hyes
    · have hdescribed : Verdict.violationFor name less value ([] ++ eased.reasons) = .ok none := by
        rw [hnone]
        rfl
      exact ⟨_, judge_of_judged
        (.checked hother hpresent' hnamed' hexempt heased hdescribed), rfl⟩

/-- A default that was put in is put in again, and it is exempt or has a name that fits. -/
theorem judge_default_of_asksLess (h : rule.AsksLess less)
    (hother : Rule.ofEntry other = .ok (.ok less)) (hdefault : Answered rule.default.tag)
    (habsent : value = .undefined) (hstocked : rule.frame.hasDefault = true)
    {reasons : List String} (hnamed : engine.nameReasons checkNames name rule = .ok reasons)
    (hclear : less.exempts less.default = .ok true ∨ reasons = []) :
    ∃ eased, engine.judge checkNames name other value = .ok eased ∧ eased.violation = none := by
  have hstocked' : less.frame.hasDefault = true := h.stocked.trans hstocked
  have hnamed' : engine.nameReasons checkNames name less = .ok reasons :=
    (nameReasons_of_asksLess h).trans hnamed
  have hanswered : Answered (less.exempts less.default) := by
    rw [h.default]
    exact Rule.answered_exempts hdefault
  obtain ⟨exempt, hexempt⟩ := hanswered
  cases exempt with
  | true =>
    exact ⟨_, judge_of_judged (.exemptDefault hother habsent hstocked' hnamed' hexempt), rfl⟩
  | false =>
    rcases hclear with hyes | rfl
    · cases hexempt.symm.trans hyes
    · exact ⟨_, judge_of_judged (.default hother habsent hstocked' hnamed' hexempt rfl), rfl⟩

/-- **An entry without a violation has none after its rule has been eased,** if the default and the
value of the argument have a tag. -/
theorem judge_of_asksLess (h : rule.AsksLess less) (hentry : Rule.ofEntry entry = .ok (.ok rule))
    (hother : Rule.ofEntry other = .ok (.ok less)) (htag : Answered value.tag)
    (hdefault : Answered rule.default.tag)
    (hjudge : engine.judge checkNames name entry value = .ok verdict)
    (hnone : verdict.violation = none) :
    ∃ eased, engine.judge checkNames name other value = .ok eased ∧ eased.violation = none := by
  cases judged_of_judge hjudge with
  | unusable parsed described => cases hentry.symm.trans parsed
  | missing parsed absent bare required described =>
    simp [(Verdict.violationFor_eq_ok described).1] at hnone
  | exemptDefault parsed absent stocked named exempt =>
    obtain rfl := Except.ok.inj (Except.ok.inj (parsed.symm.trans hentry))
    have hclear : less.exempts less.default = .ok true := h.default ▸ h.exempts hdefault exempt
    exact judge_default_of_asksLess h hother hdefault absent stocked named (Or.inl hclear)
  | default parsed absent stocked named exempt described =>
    obtain rfl := Except.ok.inj (Except.ok.inj (parsed.symm.trans hentry))
    exact judge_default_of_asksLess h hother hdefault absent stocked named
      (Or.inr ((Verdict.violationFor_eq_ok described).1.mp hnone))
  | exempt parsed present named exempt =>
    obtain rfl := Except.ok.inj (Except.ok.inj (parsed.symm.trans hentry))
    exact judge_present_of_asksLess h hother htag present named (Or.inl (h.exempts htag exempt))
  | checked parsed present named exempt examined described =>
    obtain rfl := Except.ok.inj (Except.ok.inj (parsed.symm.trans hentry))
    obtain ⟨hname, hreasons⟩ :=
      List.append_eq_nil_iff.mp ((Verdict.violationFor_eq_ok described).1.mp hnone)
    exact judge_present_of_asksLess h hother htag present named
      (Or.inr ⟨hname, examine_of_asksLess h htag examined hreasons⟩)

/-! ### Evaluations -/

/-- Entries without violations have none after an alteration that leaves each of them without. -/
theorem judgeAll_of_altered {related : Value → Value → Prop} {args entries given : Entries}
    (haltered : Altered related entries given)
    (hkept : ∀ key raw eased verdict, (key, raw) ∈ entries → related raw eased →
      engine.judge checkNames key raw (argument args key) = .ok verdict →
      verdict.violation = none → ∃ kept,
        engine.judge checkNames key eased (argument args key) = .ok kept ∧ kept.violation = none)
    {verdicts : List (Value × Verdict)}
    (h : engine.judgeAll checkNames args entries = .ok verdicts)
    (hnone : violationsOf verdicts = []) :
    ∃ kept, engine.judgeAll checkNames args given = .ok kept ∧ violationsOf kept = [] := by
  induction haltered generalizing verdicts with
  | nil => exact ⟨[], rfl, rfl⟩
  | @cons entry eased rest others head _ ih =>
    obtain ⟨key, raw⟩ := entry
    obtain ⟨key', raw'⟩ := eased
    obtain ⟨rfl, hvalue⟩ := head
    obtain ⟨verdict, after, hverdict, hafter, rfl⟩ := judgeAll_cons_eq_ok.mp h
    obtain ⟨hfirst, hrest⟩ := violationsOf_cons_eq_nil_iff.mp hnone
    obtain ⟨kept, hkept', hkeptNone⟩ := ih (fun key raw eased verdict hmem =>
      hkept key raw eased verdict (List.mem_cons_of_mem _ hmem)) hafter hrest
    obtain ⟨first, hjudge, hfirstNone⟩ : ∃ first, engine.judge checkNames key' raw'
        (argument args key') = .ok first ∧ first.violation = none := by
      rcases hvalue with rfl | ⟨-, hrelated⟩
      · exact ⟨verdict, hverdict, hfirst⟩
      · exact hkept key' raw raw' verdict (List.mem_cons_self ..) hrelated hverdict hfirst
    exact ⟨_, judgeAll_cons_eq_ok.mpr ⟨first, kept, hjudge, hkept', rfl⟩,
      violationsOf_cons_eq_nil_iff.mpr ⟨hfirstNone, hkeptNone⟩⟩

variable {ruleMap easedMap argMap : Value} {rules eased args : Entries} {result : CheckResult}

/-- The argument under any name has a tag if all arguments have one. -/
theorem answered_tag_argument (h : ∀ entry ∈ args, Answered entry.2.tag) (key : Value) :
    Answered (argument args key).tag := by
  rw [argument]
  cases hfound : args.get? key with
  | none => exact ⟨.undefined, rfl⟩
  | some value =>
    obtain ⟨other, -, hmem⟩ := Table.mem_of_get?_cons hfound
    exact h _ hmem

/-- **Easing rules never turns a passing evaluation into one that does not pass,** if all arguments
and all defaults have a tag. -/
theorem passes_of_easedAll (hmode : engine.mode ≠ .off) (hruleMap : ruleMap.asMap? = some rules)
    (heasedMap : easedMap.asMap? = some eased) (hargMap : argMap.asMap? = some args)
    (hrules : TextKeyed rules) (hargs : TextKeyed args) (heased : Rule.EasedAll rules eased)
    (htags : ∀ entry ∈ args, Answered entry.2.tag)
    (hdefaults : ∀ entry ∈ rules, ∀ rule, Rule.ofEntry entry.2 = .ok (.ok rule) →
      Answered rule.default.tag)
    (h : (engine.evaluate ruleMap argMap).answer = .ok result) (hpassed : result.passed = true) :
    ∃ kept, (engine.evaluate easedMap argMap).answer = .ok kept ∧ kept.passed = true := by
  obtain ⟨verdicts, extra, hassess, rfl⟩ :=
    (evaluate_eq_ok_iff_assess hmode hruleMap hargMap hrules hargs).mp h
  obtain ⟨policy, hpolicy, hverdicts, allow, hallow, hextra⟩ := assess_eq_ok.mp hassess
  obtain ⟨hnone, rfl⟩ : violationsOf verdicts = [] ∧ extra = [] :=
    List.append_eq_nil_iff.mp (List.isEmpty_iff.mp hpassed)
  have hkeyed : TextKeyed eased :=
    hrules.of_keys_sublist (Altered.keys_eq heased ▸ List.Sublist.refl _)
  obtain ⟨kept, hjudged, hclear⟩ := judgeAll_of_altered (Altered.judged heased policy)
    (fun key raw other verdict hmem hrelated hjudge hclean => by
      obtain ⟨rule, less, hentry, hother, hedits⟩ := hrelated
      have hentries : (key, raw) ∈ rules := (List.mem_filter.mp hmem).1
      exact judge_of_asksLess (Rule.asksLess_of_eased hedits) hentry hother
        (answered_tag_argument htags key) (hdefaults _ hentries rule hentry) hjudge hclean)
    hverdicts hnone
  refine ⟨.ofVerdicts args kept [], ?_, ?_⟩
  · refine (evaluate_eq_ok_iff_assess hmode heasedMap hargMap hkeyed hargs).mpr
      ⟨kept, [], assess_eq_ok.mpr ⟨policy, ?_, hjudged, allow, hallow, ?_⟩, rfl⟩
    · exact (Altered.ofMode_eq heased _).trans hpolicy
    · rw [Altered.unclaimed_eq heased]
      exact hextra
  · rw [CheckResult.passed, CheckResult.ofVerdicts, hclear]
    rfl

end Engine

namespace Sample

/-- A rule map with a limit on a number and one on a text, which has a default. -/
def demanding : Entries :=
  [(.text "size", .map [(.text "kind", .text "number"), (.text "max_num", .int 5)]),
    (.text "note", .map [(.text "kind", .text "string"), (.text "min_length", .int 2),
      (.text "default", .text "none")])]

/-- The rule map after four edits: the first limit is raised and then moves numbers, the second
limit is dropped, and falsey texts are exempted. -/
def easygoing : Entries :=
  [(.text "size", .map [(.text "kind", .text "number"), (.text "max_num", .int 9),
      (.text "autobound", .bool true)]),
    (.text "note", .map [(.text "kind", .text "string"), (.text "default", .text "none"),
      (.text "allow_falsey", .bool true)])]

/-- The rule for the number, with its limit. -/
def sized (high : Option Limit) (moves : Bool) (given : List Field) : Rule :=
  ⟨⟨false, false, .number none high moves, given⟩, .null⟩

/-- The rule for the text, with its limit. -/
def remarked (allowFalsey : Bool) (low : Option Int) (given : List Field) : Rule :=
  ⟨⟨false, allowFalsey, .string false none low none, given⟩, .text "none"⟩

theorem easedAll_demanding : Rule.EasedAll demanding easygoing := by
  refine .cons ⟨rfl, .inr ⟨by decide, ?_⟩⟩ (.cons ⟨rfl, .inr ⟨by decide, ?_⟩⟩ .nil)
  · refine ⟨sized (some (.int 5)) false [.kind, .maxNum],
      sized (some (.int 9)) true [.kind, .maxNum, .autobound], rfl, rfl, ?_⟩
    have hraised : (sized (some (.int 5)) false [.kind, .maxNum]).Eased
        (sized (some (.int 9)) false [.kind, .maxNum]) :=
      .constraint (.numberHigh (.moved (Or.inl (by decide)))) rfl
    exact (Relation.ReflTransGen.single hraised).tail (.constraint .numberMoves rfl)
  · refine ⟨remarked false (some 2) [.default, .kind, .minLength],
      remarked true none [.default, .allowFalsey, .kind], rfl, rfl, ?_⟩
    have hdropped : (remarked false (some 2) [.default, .kind, .minLength]).Eased
        (remarked false none [.default, .kind]) :=
      .constraint (.stringLow (.dropped 2)) rfl
    exact (Relation.ReflTransGen.single hdropped).tail (.falsey rfl)

end Sample

/-- The sample passes for a number within the limit, and after the edits it still does. -/
theorem Engine.passes_of_easygoing :
    Rule.EasedAll Sample.demanding Sample.easygoing ∧
      ∃ kept, (Engine.default.evaluate (.map Sample.easygoing)
        (.map [(.text "size", .int 4)])).answer = .ok kept ∧ kept.passed = true := by
  have hrules : TextKeyed Sample.demanding := ⟨by simp [Sample.demanding, Value.asText?], by decide⟩
  have hargs : TextKeyed [(Value.text "size", Value.int 4)] :=
    ⟨by simp [Value.asText?], by decide⟩
  have hdefaults : ∀ entry ∈ Sample.demanding, ∀ rule, Rule.ofEntry entry.2 = .ok (.ok rule) →
      Answered rule.default.tag := by
    have hsize : Rule.ofEntry (.map [(.text "kind", .text "number"), (.text "max_num", .int 5)]) =
        .ok (.ok (Sample.sized (some (.int 5)) false [.kind, .maxNum])) := rfl
    have hnote : Rule.ofEntry (.map [(.text "kind", .text "string"), (.text "min_length", .int 2),
        (.text "default", .text "none")]) =
        .ok (.ok (Sample.remarked false (some 2) [.default, .kind, .minLength])) := rfl
    simp only [Sample.demanding, List.forall_mem_cons, List.not_mem_nil, false_imp_iff,
      implies_true, and_true]
    refine ⟨fun rule hrule => ?_, fun rule hrule => ?_⟩
    · obtain rfl := Except.ok.inj (Except.ok.inj (hsize.symm.trans hrule))
      exact ⟨_, rfl⟩
    · obtain rfl := Except.ok.inj (Except.ok.inj (hnote.symm.trans hrule))
      exact ⟨_, rfl⟩
  have hresult : (Engine.default.evaluate (.map Sample.demanding)
      (.map [(.text "size", .int 4)])).answer =
      .ok ⟨[("size", .int 4), ("note", .text "none")],
        [("note", ⟨.default, .undefined, .text "none"⟩)], []⟩ := rfl
  exact ⟨Sample.easedAll_demanding, passes_of_easedAll (by decide) rfl rfl rfl hrules hargs
    Sample.easedAll_demanding (by simpa using ⟨.number, rfl⟩) hdefaults hresult rfl⟩

namespace Sample

/-- An object that refuses to be classified. -/
def unclassified : Value := .object ⟨some .refused, .absent, false, none, none, none, none, false⟩ []

/-- A rule with that object as its default. -/
def unclassifiedDefault (allowFalsey : Bool) : Value :=
  .map [(.text "kind", .text "any"), (.text "default", unclassified),
    (.text "allow_falsey", .bool allowFalsey)]

end Sample

/-- But an evaluation stops at a default that cannot be classified, once its rule exempts falsey
values. -/
theorem Engine.easing_stops_sample :
    Rule.EasedAll (Entries.single "x" (Sample.unclassifiedDefault false))
        (Entries.single "x" (Sample.unclassifiedDefault true)) ∧
      (∃ result, (Engine.default.evaluate
        (.map (Entries.single "x" (Sample.unclassifiedDefault false))) (.map [])).answer =
          .ok result ∧ result.passed = true) ∧
      (Engine.default.evaluate (.map (Entries.single "x" (Sample.unclassifiedDefault true)))
        (.map [])).answer = .error (.fault .tagRefused) := by
  refine ⟨.cons ⟨rfl, .inr ⟨by decide, ?_⟩⟩ .nil, ⟨_, rfl, rfl⟩, rfl⟩
  exact ⟨⟨⟨false, false, .any, [.default, .allowFalsey, .kind]⟩, Sample.unclassified⟩,
    ⟨⟨false, true, .any, [.default, .allowFalsey, .kind]⟩, Sample.unclassified⟩, rfl, rfl,
    .single (.falsey rfl)⟩

end ArgRules
