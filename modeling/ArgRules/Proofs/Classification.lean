import ArgRules.Proofs.Answers

/-!
# Which values can be classified

Whatever is done with a value begins with its tag and with the two questions whether it is falsey
and whether it is zero. A value answers them by what it is, an object by its features, and some
features are broken: a length that is negative, too large or refused, a first item that is refused
or was never offered. None of these keeps an object from being classified. They only keep it from
being an array.

## The exceptions

An object that refuses to tell its tag is not classified at all, and neither is one with the tag of
the element that groups others that refuses to tell whether it has attributes (`Value.Refuses`). The
two questions have no answer then either. There is no other value of this kind, so all three answers
are there together or missing together.

## Main definitions

* `Value.Refuses` — an object that refuses to tell what it is, with the fault
* `Value.IsSequence` — what can be an array

## Main results

* `Value.tag_eq_error` — a classification fails for an object that refuses only
* `Value.classified` — all three answers are there for every other value, and they are right
-/

namespace ArgRules.Value

/-! ### The values that have no tag -/

/-- A value refuses to tell what it is. Only an object can: it refuses its tag, or its attributes if
it has the tag of the element that groups others. -/
inductive Refuses : Value → Fault → Prop
  | tag {facets : Facets} {items : List Value} (refused : facets.tag = some .refused) :
      Refuses (object facets items) .tagRefused
  | attributes {facets : Facets} {items : List Value}
      (grouping : facets.tag = some (.named groupTag)) (refused : facets.attributed = .refused) :
      Refuses (object facets items) .attributesRefused

/-- A list or a tuple, or a value with a length other than zero which, if it is an object, hands out
its first item. -/
def IsSequence (value : Value) : Prop :=
  (∃ items, value = list items ∨ value = tuple items) ∨
    (∃ n, value.length? = some (.ok n) ∧ n ≠ 0) ∧
      ∀ facets items, value = object facets items → givesItem facets items = true

theorem isNonemptyLength_iff {answer : Option (Except Fault Nat)} :
    isNonemptyLength answer = true ↔ ∃ n, answer = some (.ok n) ∧ n ≠ 0 := by
  rcases answer with _ | _ | n <;> simp [isNonemptyLength]

/-- Whether an object is the element that groups others has no answer if the object refuses. -/
theorem isGroup_eq_error (facets : Facets) (items : List Value) (fault : Fault) :
    isGroup facets = .error fault ↔ (object facets items).Refuses fault := by
  constructor
  · intro h
    rw [isGroup.eq_def] at h
    split at h
    · next htag => exact Except.error.inj h ▸ .tag htag
    · next tag attributed htag =>
      split at h <;> [skip; contradiction]
      next hgroup =>
        subst hgroup
        split at h <;> [contradiction; contradiction; skip]
        next hrefused => exact Except.error.inj h ▸ .attributes htag hrefused
    · contradiction
  · rintro (hrefused | ⟨hgroup, hrefused⟩)
    · simp [isGroup, hrefused]
    · simp [isGroup, hgroup, hrefused]

/-- An object that can be classified is an array only if it has a length and hands out an item. -/
theorem objectTag_of_isGroup {facets : Facets} (items : List Value) {group : Bool}
    (h : isGroup facets = .ok group) : ∃ tag, objectTag facets items = .ok tag ∧
      (tag = .array → isNonemptyLength (claimedLength? facets) = true ∧
        givesItem facets items = true) := by
  rw [objectTag, h]
  cases group with
  | true => exact ⟨.svgElement, rfl, by simp⟩
  | false =>
    cases hcall : facets.callable with
    | true => exact ⟨.function, rfl, by simp⟩
    | false => exact ⟨_, rfl, by simp⟩

theorem tag_eq_error (value : Value) (fault : Fault) :
    value.tag = .error fault ↔ value.Refuses fault := by
  cases value with
  | object facets items =>
    rw [← isGroup_eq_error, tag]
    cases hgroup : isGroup facets with
    | error refusal => simp [objectTag, hgroup, bind, Except.bind]
    | ok group =>
      obtain ⟨tag, htag, -⟩ := objectTag_of_isGroup items hgroup
      simp [htag]
  | _ => exact iff_of_false (by simp [tag]) (by rintro ⟨⟩)

/-- A value has a tag unless it refuses. -/
theorem answered_tag_iff (value : Value) : Answered value.tag ↔ ∀ fault, ¬ value.Refuses fault := by
  simp only [← tag_eq_error]
  cases value.tag <;> simp [Answered]

/-- Without a tag the two questions have no answer. -/
theorem unanswered_of_refuses {value : Value} {fault : Fault} (h : value.Refuses fault) :
    value.isFalsey = .error fault ∧ value.isZero = .error fault := by
  have htag := (tag_eq_error value fault).mpr h
  constructor
  · cases h <;>
    · rw [isFalsey]
      · rw [htag]
        rfl
      all_goals simp
  · rw [isZero, htag]
    rfl

/-! ### What an array is -/

/-- Only a sequence is classified as an array. -/
theorem isSequence_of_tag {value : Value} (h : value.tag = .ok .array) : value.IsSequence := by
  cases value with
  | list items => exact Or.inl ⟨items, Or.inl rfl⟩
  | tuple items => exact Or.inl ⟨items, Or.inr rfl⟩
  | deque items =>
    refine Or.inr ⟨⟨items.length, rfl, ?_⟩, by simp⟩
    rintro hnone
    simp [tag, List.length_eq_zero_iff.mp hnone] at h
  | range start stop step =>
    refine Or.inr ⟨isNonemptyLength_iff.mp ?_, by simp⟩
    by_contra hempty
    simp [tag, hempty] at h
  | element name children =>
    refine Or.inr ⟨⟨children, rfl, ?_⟩, by simp⟩
    rintro rfl
    rw [tag] at h
    have h := Except.ok.inj h
    split at h <;> contradiction
  | object facets items =>
    obtain ⟨group, hgroup, -⟩ := bind_eq_ok.mp h
    obtain ⟨tag, htag, harray⟩ := objectTag_of_isGroup items hgroup
    obtain ⟨hlength, hitem⟩ := harray (Except.ok.inj (htag.symm.trans h))
    refine Or.inr ⟨isNonemptyLength_iff.mp hlength, ?_⟩
    rintro _ _ ⟨⟩
    exact hitem
  | _ => simp [tag] at h

/-! ### All three answers -/

/-- Every value but an object that refuses to tell what it is is classified, broken sequences
included: it has a tag, which is that of an array for a sequence only, it is falsey if it is blank or
zero, and it is zero if it is the number zero. An object that refuses has none of the three
answers. -/
theorem classified (value : Value) :
    ((∀ fault, ¬ value.Refuses fault) → ∃ tag falsey zero,
      value.tag = .ok tag ∧ value.isFalsey = .ok falsey ∧ value.isZero = .ok zero ∧
        (tag = .array → value.IsSequence) ∧
        (falsey = true ↔ value.IsBlank ∨ value.IsZero) ∧ (zero = true ↔ value.IsZero)) ∧
      ∀ fault, value.Refuses fault → value.tag = .error fault ∧
        value.isFalsey = .error fault ∧ value.isZero = .error fault := by
  constructor
  · intro htells
    have hanswered := (answered_tag_iff value).mpr htells
    obtain ⟨tag, htag⟩ := hanswered
    obtain ⟨falsey, hfalsey⟩ := answered_isFalsey ⟨tag, htag⟩
    obtain ⟨zero, hzero⟩ := answered_isZero ⟨tag, htag⟩
    refine ⟨tag, falsey, zero, htag, hfalsey, hzero, ?_, isFalsey_iff hfalsey, isZero_iff hzero⟩
    rintro rfl
    exact isSequence_of_tag htag
  · intro fault hrefuses
    exact ⟨(tag_eq_error value fault).mpr hrefuses, unanswered_of_refuses hrefuses⟩

/-- An object that offers nothing and refuses its tag has none of the three answers. -/
theorem classification_stops_sample :
    let secretive := object ⟨some .refused, .absent, false, none, none, none, none, false⟩ []
    ¬ Answered secretive.tag ∧ ¬ Answered secretive.isFalsey ∧ ¬ Answered secretive.isZero := by
  refine ⟨?_, ?_, ?_⟩ <;> rintro ⟨answer, hanswer⟩ <;> cases hanswer

end ArgRules.Value
