import ArgRules.Proofs.Judgement

/-!
# Which entries cannot be used

An entry of a rule map can be any value. It is a rule if it has been read already, or if it is a map
that can be read. Otherwise there is a reason against it, and there are three of them: the entry has
no kind, its kind is not supported, or its fields are at fault. `Rule.Unusable` lists the three,
with what has to be the case for each and what the reason says; so whoever is told a reason knows
what is wrong with the entry.

## Main definitions

* `Rule.Unusable` — an entry cannot be used, for a reason

## Main results

* `Rule.unusable_iff` — a reason is given exactly if the entry cannot be used for it
-/

namespace ArgRules

/-- The name of a kind counts as true. -/
theorem Kind.truth_name (kind : Kind) : Value.truth (.text kind.name) = .ok true := by
  cases kind <;> rfl

namespace Rule

/-- The entries that cannot be used, each with the reason. -/
inductive Unusable (entry : Value) : String → Prop
  /-- It is not a rule, and as a map it has no kind, or one that counts as false. -/
  | kindless (noRule : ∀ frame default, entry ≠ .rule frame default)
      (noKind : ∀ entries, entry.asMap? = some entries →
        ∀ kind ∈ fieldValue? entries .kind, kind.truth = .ok false) : Unusable entry kindMissing
  /-- It is a map with a kind that is not among those supported. -/
  | unsupported {entries : Entries} {kind : Value} {text : String}
      (map : entry.asMap? = some entries) (given : fieldValue? entries .kind = some kind)
      (counts : kind.truth = .ok true) (key : checkKindKey kind = .ok ())
      (unknown : ∀ known : Kind, kind ≠ .text known.name) (shown : kind.display = .ok text) :
      Unusable entry (unsupportedReason text)
  /-- It is a map with a supported kind, and its fields are at fault. -/
  | malformed {entries : Entries} {kind : Kind} {issues : List Issue}
      (map : entry.asMap? = some entries)
      (given : fieldValue? entries .kind = some (.text kind.name))
      (rejected : read (some kind) entries = .ok (.error issues)) :
      Unusable entry (malformedReason kind issues)

variable {entry : Value} {reason : String}

theorem unusable_of_ofMap {entries : Entries} {kind : Value} (hmap : entry.asMap? = some entries)
    (hgiven : fieldValue? entries .kind = some kind) (hcounts : kind.truth = .ok true)
    (h : ofMap entries kind = .ok (.error reason)) : Unusable entry reason := by
  obtain ⟨⟨⟩, hkey, h⟩ := bind_eq_ok.mp h
  have of_unknown (hunknown : ∀ known : Kind, kind ≠ .text known.name)
      (h : (do return Except.error (unsupportedReason (← kind.display)) :
        Except Fault (Except String Rule)) = .ok (.error reason)) : Unusable entry reason := by
    obtain ⟨text, htext, h⟩ := bind_eq_ok.mp h
    obtain rfl := Except.error.inj (pure_eq_ok.mp h)
    exact .unsupported hmap hgiven hcounts hkey hunknown htext
  split at h
  · next text _ =>
    cases hnamed : Kind.ofName? text with
    | none =>
      rw [hnamed] at h
      refine of_unknown ?_ h
      rintro known hknown
      obtain rfl := Value.text.inj hknown
      simp at hnamed
    | some known =>
      rw [hnamed] at h
      obtain rfl := Kind.name_of_ofName? hnamed
      obtain ⟨found, hfound, h⟩ := bind_eq_ok.mp h
      cases found with
      | ok rule => cases pure_eq_ok.mp h
      | error issues =>
        obtain rfl := Except.error.inj (pure_eq_ok.mp h)
        exact .malformed hmap hgiven hfound
  · next hnot => exact of_unknown (fun known hknown => hnot _ hknown) h

/-- A map whose kind counts as true is read as its kind says. -/
theorem ofEntry_of_map {entries : Entries} {kind : Value} (hmap : entry.asMap? = some entries)
    (hgiven : fieldValue? entries .kind = some kind) (hcounts : kind.truth = .ok true) :
    ofEntry entry = ofMap entries kind := by
  have hgiven : entries.get? (.text Field.kind.name) = some kind := hgiven
  rw [ofEntry.eq_def]
  split
  · simp [Value.asMap?] at hmap
  · simp only [hmap, hgiven, hcounts, bind, Except.bind, if_true]

theorem ofMap_of_unknown {entries : Entries} {kind : Value} {text : String}
    (hkey : checkKindKey kind = .ok ()) (hunknown : ∀ known : Kind, kind ≠ .text known.name)
    (hshown : kind.display = .ok text) :
    ofMap entries kind = .ok (.error (unsupportedReason text)) := by
  refine bind_eq_ok.mpr ⟨(), hkey, ?_⟩
  split
  · next s =>
    cases hnamed : Kind.ofName? s with
    | none => exact bind_eq_ok.mpr ⟨text, hshown, rfl⟩
    | some known =>
      exact absurd (congrArg Value.text (Kind.name_of_ofName? hnamed).symm) (hunknown known)
  · exact bind_eq_ok.mpr ⟨text, hshown, rfl⟩

/-- **The entries that are no rules,** with the reasons that are given. -/
theorem unusable_iff : ofEntry entry = .ok (.error reason) ↔ Unusable entry reason := by
  constructor
  · intro h
    rw [ofEntry.eq_def] at h
    split at h
    · cases Except.ok.inj h
    · next hno =>
      split at h
      · next hmap =>
        obtain rfl := Except.error.inj (pure_eq_ok.mp h)
        exact .kindless hno fun entries hentries => by simp [hmap] at hentries
      · next entries hmap =>
        split at h
        · next hnone =>
          obtain rfl := Except.error.inj (pure_eq_ok.mp h)
          refine .kindless hno fun others hothers kind hkind => ?_
          obtain rfl := Option.some.inj (hmap.symm.trans hothers)
          cases hnone.symm.trans hkind
        · next kind hkind =>
          obtain ⟨counts, hcounts, h⟩ := bind_eq_ok.mp h
          split at h
          · next hyes =>
            subst hyes
            exact unusable_of_ofMap hmap hkind hcounts h
          · next hfalse =>
            obtain rfl : counts = false := by simpa using hfalse
            obtain rfl := Except.error.inj (pure_eq_ok.mp h)
            refine .kindless hno fun others hothers other hother => ?_
            obtain rfl := Option.some.inj (hmap.symm.trans hothers)
            obtain rfl := Option.some.inj (hkind.symm.trans hother)
            exact hcounts
  · intro h
    cases h with
    | kindless noRule noKind =>
      rw [ofEntry.eq_def]
      split
      · exact absurd rfl (noRule _ _)
      · split
        · rfl
        · next entries hmap =>
          split
          · rfl
          · next kind hkind =>
            rw [noKind entries hmap kind hkind]
            rfl
    | unsupported map given counts key unknown shown =>
      rw [ofEntry_of_map map given counts]
      exact ofMap_of_unknown key unknown shown
    | @malformed entries kind issues map given rejected =>
      rw [ofEntry_of_map map given kind.truth_name]
      refine bind_eq_ok.mpr ⟨(), by simp [checkKindKey], ?_⟩
      simp only [Kind.ofName?_name]
      exact bind_eq_ok.mpr ⟨_, rejected, rfl⟩

end Rule

end ArgRules
