import ArgRules.Proofs.Demands

/-!
# The wording of reasons

A violation lists its reasons as texts, and whoever reads them has to tell them apart. The reason
against a kind that is not supported is told from those of all checks and conventions by its first
two characters. This is looked up once for each text that reasons begin with, and not for each pair
of reasons.

## Main definitions

* `Rule.blamesKind` — whether a reason begins as the one against a kind that is not supported
* `Rule.SparesKind` — none of several reasons does

## Main results

* `Kind.sparesKind_of_check` — no check says that a kind is not supported
* `Conventions.sparesKind_of_reasons` — no convention does
-/

namespace ArgRules

/-! ### Reasons that spare the kind -/

namespace Rule

/-- Whether a reason begins as the one against a kind that is not supported. -/
def blamesKind (reason : String) : Bool := reason.toList.take 2 = ['d', 'a']

/-- None of the reasons is that a kind is not supported. -/
def SparesKind (reasons : List String) : Prop := ∀ reason ∈ reasons, blamesKind reason = false

theorem blamesKind_append {start : String} (h : 2 ≤ start.toList.length) (rest : String) :
    blamesKind (start ++ rest) = blamesKind start := by
  rw [blamesKind, blamesKind, String.toList_append, List.take_append_of_le_length h]

theorem blamesKind_unsupportedReason (text : String) :
    blamesKind (unsupportedReason text) = true := by
  rw [unsupportedReason, blamesKind_append, blamesKind_append]
  · decide
  · decide
  · rw [String.toList_append, List.length_append]
    exact Nat.le_add_right_of_le (by decide)

theorem sparesKind_nil : SparesKind [] := by simp [SparesKind]

theorem sparesKind_singleton {reason : String} (h : blamesKind reason = false) :
    SparesKind [reason] := by
  simpa [SparesKind] using h

theorem SparesKind.append {first second : List String} (hfirst : SparesKind first)
    (hsecond : SparesKind second) : SparesKind (first ++ second) :=
  List.forall_mem_append.mpr ⟨hfirst, hsecond⟩

theorem SparesKind.not_mem {reasons : List String} (h : SparesKind reasons) (text : String) :
    unsupportedReason text ∉ reasons := by
  intro hmem
  have hblames := blamesKind_unsupportedReason text
  rw [h _ hmem] at hblames
  contradiction

end Rule

/-! ### The checks -/

namespace Check

open Rule (SparesKind blamesKind)

variable {count : Nat} {limit : Option Int} {reason : Int → Except Fault String}
  {reasons : List String} {rule : Constraint} {value : Value} {tag : Tag} {finding : Finding}

/-- A reason that is given under a condition. -/
theorem sparesKind_given {p : Prop} [Decidable p] {n : Int}
    (hreason : ∀ n text, reason n = .ok text → blamesKind text = false)
    (h : (if p then do return [← reason n] else return []) = Except.ok reasons) :
    SparesKind reasons := by
  split at h
  · obtain ⟨text, htext, h⟩ := bind_eq_ok.mp h
    exact pure_eq_ok.mp h ▸ Rule.sparesKind_singleton (hreason n text htext)
  · exact pure_eq_ok.mp h ▸ Rule.sparesKind_nil

theorem sparesKind_lengths (hreason : ∀ n text, reason n = .ok text → blamesKind text = false) :
    (tooLong count limit reason = .ok reasons → SparesKind reasons) ∧
      (tooShort count limit reason = .ok reasons → SparesKind reasons) := by
  cases limit with
  | none =>
    exact ⟨fun h => pure_eq_ok.mp h ▸ Rule.sparesKind_nil,
      fun h => pure_eq_ok.mp h ▸ Rule.sparesKind_nil⟩
  | some n => exact ⟨sparesKind_given hreason, sparesKind_given hreason⟩

theorem sparesKind_array (h : array rule value tag = .ok finding) :
    SparesKind finding.reasons := by
  rw [array] at h
  split at h
  · exact pure_eq_ok.mp h ▸ Rule.sparesKind_singleton (by decide)
  · obtain ⟨count, -, h⟩ := bind_eq_ok.mp h
    obtain ⟨countText, -, h⟩ := bind_eq_ok.mp h
    obtain ⟨allowEmpty, -, h⟩ := bind_eq_ok.mp h
    obtain ⟨high, -, h⟩ := bind_eq_ok.mp h
    obtain ⟨long, hlong, h⟩ := bind_eq_ok.mp h
    obtain ⟨low, -, h⟩ := bind_eq_ok.mp h
    obtain ⟨short, hshort, h⟩ := bind_eq_ok.mp h
    obtain rfl := pure_eq_ok.mp h
    refine .append (.append ?_ ((sparesKind_lengths ?_).1 hlong))
      ((sparesKind_lengths ?_).2 hshort)
    · split
      · exact Rule.sparesKind_singleton (by decide)
      · exact Rule.sparesKind_nil
    · intro n text htext
      obtain ⟨limitText, -, htext⟩ := bind_eq_ok.mp htext
      obtain rfl := pure_eq_ok.mp htext
      rw [String.append_assoc, String.append_assoc, Rule.blamesKind_append (by decide)]
      decide
    · intro n text htext
      obtain ⟨limitText, -, htext⟩ := bind_eq_ok.mp htext
      obtain rfl := pure_eq_ok.mp htext
      rw [String.append_assoc, String.append_assoc, Rule.blamesKind_append (by decide)]
      decide

theorem sparesKind_map (h : map rule value tag = .ok finding) : SparesKind finding.reasons := by
  rw [map] at h
  split at h
  · exact pure_eq_ok.mp h ▸ Rule.sparesKind_singleton (by decide)
  · obtain ⟨allowEmpty, -, h⟩ := bind_eq_ok.mp h
    split at h
    · exact pure_eq_ok.mp h ▸ Rule.sparesKind_nil
    · obtain ⟨count, -, h⟩ := bind_eq_ok.mp h
      obtain rfl := pure_eq_ok.mp h
      rw [Finding.unchanged]
      split
      · exact Rule.sparesKind_singleton (by decide)
      · exact Rule.sparesKind_nil

theorem sparesKind_contents {s : String} (h : contents rule s = .ok reasons) :
    SparesKind reasons := by
  rw [contents] at h
  obtain ⟨filter, -, h⟩ := bind_eq_ok.mp h
  split at h
  · obtain ⟨found, -, h⟩ := bind_eq_ok.mp h
    split at h
    · exact pure_eq_ok.mp h ▸ Rule.sparesKind_nil
    · obtain rfl := pure_eq_ok.mp h
      refine Rule.sparesKind_singleton ?_
      rw [String.append_assoc, Rule.blamesKind_append (by decide)]
      decide
  · obtain ⟨allowEmpty, -, h⟩ := bind_eq_ok.mp h
    obtain rfl := pure_eq_ok.mp h
    split
    · exact Rule.sparesKind_singleton (by decide)
    · exact Rule.sparesKind_nil

theorem sparesKind_string (h : string rule value tag = .ok finding) :
    SparesKind finding.reasons := by
  rw [string.eq_def] at h
  split at h
  · next s _ =>
    obtain ⟨unfit, hunfit, h⟩ := bind_eq_ok.mp h
    obtain ⟨high, -, h⟩ := bind_eq_ok.mp h
    obtain ⟨long, hlong, h⟩ := bind_eq_ok.mp h
    obtain ⟨low, -, h⟩ := bind_eq_ok.mp h
    obtain ⟨short, hshort, h⟩ := bind_eq_ok.mp h
    obtain rfl := pure_eq_ok.mp h
    refine .append (.append (sparesKind_contents hunfit) ((sparesKind_lengths ?_).1 hlong))
      ((sparesKind_lengths ?_).2 hshort)
    · intro n text htext
      obtain ⟨limitText, -, htext⟩ := bind_eq_ok.mp htext
      obtain rfl := pure_eq_ok.mp htext
      rw [Rule.blamesKind_append (by decide)]
      decide
    · intro n text htext
      obtain ⟨limitText, -, htext⟩ := bind_eq_ok.mp htext
      obtain rfl := pure_eq_ok.mp htext
      rw [Rule.blamesKind_append (by decide)]
      decide
  · exact pure_eq_ok.mp h ▸ Rule.sparesKind_singleton (by decide)

theorem sparesKind_applyLimit {α : Type} {scale : Scale α}
    {outside : α → α → Except Fault Bool} {phrase : String} {autobound : Bool} {x : α}
    {bound : Option α} {adjustment : Adjustment α} (hlength : 2 ≤ phrase.toList.length)
    (hphrase : blamesKind phrase = false)
    (h : Bounds.applyLimit scale outside phrase autobound x bound = .ok adjustment) :
    SparesKind adjustment.reasons := by
  cases bound with
  | none => exact pure_eq_ok.mp h ▸ Rule.sparesKind_nil
  | some limit =>
    rw [Bounds.applyLimit] at h
    obtain ⟨isOutside, -, h⟩ := bind_eq_ok.mp h
    split at h
    · exact pure_eq_ok.mp h ▸ Rule.sparesKind_nil
    · split at h
      · exact pure_eq_ok.mp h ▸ Rule.sparesKind_nil
      · obtain ⟨limitText, -, h⟩ := bind_eq_ok.mp h
        obtain rfl := pure_eq_ok.mp h
        exact Rule.sparesKind_singleton ((Rule.blamesKind_append hlength _).trans hphrase)

theorem sparesKind_bounds {α : Type} {scale : Scale α} {minimum maximum : Option α}
    {autobound : Bool} {x : α} {adjustment : Adjustment α}
    (h : Bounds.check scale minimum maximum autobound x = .ok adjustment) :
    SparesKind adjustment.reasons := by
  rw [Bounds.check] at h
  obtain ⟨upper, hupper, h⟩ := bind_eq_ok.mp h
  obtain ⟨lower, hlower, h⟩ := bind_eq_ok.mp h
  obtain rfl := pure_eq_ok.mp h
  exact .append (sparesKind_applyLimit (by decide) (by decide) hupper)
    (sparesKind_applyLimit (by decide) (by decide) hlower)

theorem sparesKind_integer (h : integer rule value tag = .ok finding) :
    SparesKind finding.reasons := by
  rw [integer.eq_def] at h
  split at h
  · obtain ⟨isWhole, -, h⟩ := bind_eq_ok.mp h
    split at h
    · exact pure_eq_ok.mp h ▸ Rule.sparesKind_singleton (by decide)
    · obtain ⟨low, -, h⟩ := bind_eq_ok.mp h
      obtain ⟨high, -, h⟩ := bind_eq_ok.mp h
      obtain ⟨autobound, -, h⟩ := bind_eq_ok.mp h
      obtain ⟨adjustment, hcheck, h⟩ := bind_eq_ok.mp h
      have hspares := sparesKind_bounds hcheck
      exact pure_eq_ok.mp h ▸ hspares
  · obtain rfl := pure_eq_ok.mp h
    refine Rule.sparesKind_singleton ?_
    rw [String.append_assoc, Rule.blamesKind_append (by decide)]
    decide

theorem sparesKind_number (h : number rule value tag = .ok finding) :
    SparesKind finding.reasons := by
  rw [number.eq_def] at h
  split at h
  · obtain ⟨low, -, h⟩ := bind_eq_ok.mp h
    obtain ⟨high, -, h⟩ := bind_eq_ok.mp h
    obtain ⟨autobound, -, h⟩ := bind_eq_ok.mp h
    obtain ⟨adjustment, hcheck, h⟩ := bind_eq_ok.mp h
    have hspares := sparesKind_bounds hcheck
    exact pure_eq_ok.mp h ▸ hspares
  · exact pure_eq_ok.mp h ▸ Rule.sparesKind_singleton (by decide)

theorem sparesKind_mismatch {expected : Tag} {text : String} (h : blamesKind text = false) :
    SparesKind (tag.mismatch expected text) := by
  rw [Tag.mismatch]
  split
  · exact Rule.sparesKind_nil
  · exact Rule.sparesKind_singleton h

end Check

/-- **No check says that a kind is not supported.** -/
theorem Kind.sparesKind_of_check {kind : Kind} {rule : Constraint} {value : Value} {tag : Tag}
    {finding : Finding} (h : kind.check rule value tag = .ok finding) :
    Rule.SparesKind finding.reasons := by
  cases kind with
  | any => exact Except.ok.inj h ▸ Rule.sparesKind_nil
  | boolean => exact Except.ok.inj h ▸ Check.sparesKind_mismatch (by decide)
  | function => exact Except.ok.inj h ▸ Check.sparesKind_mismatch (by decide)
  | svgElement =>
    obtain rfl := Except.ok.inj h
    refine Check.sparesKind_mismatch ?_
    rw [String.append_assoc, Rule.blamesKind_append (by decide)]
    decide
  | array => exact Check.sparesKind_array h
  | map => exact Check.sparesKind_map h
  | integer => exact Check.sparesKind_integer h
  | number => exact Check.sparesKind_number h
  | string => exact Check.sparesKind_string h

/-- No convention says that a kind is not supported. -/
theorem Conventions.sparesKind_of_reasons {conventions : Conventions} {kind : Kind} {name : Value}
    {reasons : List String} (h : conventions.reasons kind name = .ok reasons) :
    Rule.SparesKind reasons := by
  rw [Conventions.reasons] at h
  split at h
  · next convention _ =>
    cases convention with
    | pattern p =>
      rw [Convention.reasons] at h
      obtain ⟨found, -, h⟩ := bind_eq_ok.mp h
      split at h
      · exact pure_eq_ok.mp h ▸ Rule.sparesKind_nil
      · obtain rfl := pure_eq_ok.mp h
        refine Rule.sparesKind_singleton ?_
        rw [String.append_assoc, Rule.blamesKind_append (by decide)]
        decide
    | unusable value => contradiction
  · exact Except.ok.inj h ▸ Rule.sparesKind_nil

end ArgRules
