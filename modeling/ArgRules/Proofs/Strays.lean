import ArgRules.Proofs.Rereading
import ArgRules.Proofs.Spelling

/-!
# Maps with one entry too many

A map that is read as a rule of a kind has entries for fields of that kind only. If one more entry
is added to it, under a name that is no such field, the map is not read any more, and all that is
wrong with it is that entry: each field is found where it was, so each is read as before and no
other issue is noted.

## Main definitions

* `Rule.strayIssue` — the issue with an entry under a name that is no field

## Main results

* `Rule.fieldValue?_put` — the entries of the fields are as before
* `Rule.read_put` — the one issue of a map with one entry too many
* `Rule.ofEntry_put` — the reason why such a map cannot be used
-/

namespace ArgRules

namespace Rule

variable {entries given : Entries} {kind : Kind} {rule : Rule} {key : Value} {name : String}

/-! ### Looking at fields only -/

/-- What is read for a field depends on the entry of that field alone. -/
theorem readField_congr {α : Type} {field : Field} (default : α)
    (read : Value → Except Fault (Except (List Issue) α))
    (h : fieldValue? given field = fieldValue? entries field) :
    readField given field default read = readField entries field default read := by
  rw [readField, readField, h]

/-- The constraints of a kind are read from its own fields. -/
theorem readConstraint_congr
    (h : ∀ field ∈ kind.ownFields, fieldValue? given field = fieldValue? entries field) :
    readConstraint given kind = readConstraint entries kind := by
  cases kind <;> simp only [Kind.ownFields, List.forall_mem_cons] at h <;>
    simp only [readConstraint, readFlag, readLength, readBound, readWhole, readLimit, readPattern,
      readField, h]

/-! ### The stray entry -/

/-- The issue with an entry under a name that is no field. -/
def strayIssue (name : String) : Issue := ⟨[.name name], .extraField⟩

/-- An entry under a name that is none of some fields is a stray. -/
theorem strayProblem?_of_forall_ne {fields : List Field} (hkey : key.asText? = some name)
    (h : ∀ field ∈ fields, field.name ≠ name) : strayProblem? fields key = some .extraField := by
  have hwritten : Reading.written? key = some (some name.toList) := by
    rcases Value.eq_of_asText? hkey with rfl | ⟨m, rfl, rfl⟩ <;> rfl
  have hnone : (fields.any fun field => field.name = name) = false := by simpa using h
  simp [strayProblem?, hwritten, hnone]

theorem ofKey_of_asText? (hkey : key.asText? = some name) : Locator.ofKey key = .name name := by
  rcases Value.eq_of_asText? hkey with rfl | ⟨m, rfl, rfl⟩ <;> rfl

/-- The strays of two maps in a row are noted in a row. -/
theorem reportStrays_append (fields : List Field) (first second : Entries) :
    reportStrays fields (first ++ second) =
      (reportStrays fields first >>= fun _ => reportStrays fields second) := by
  induction first with
  | nil => rfl
  | cons entry rest ih =>
    obtain ⟨key, value⟩ := entry
    rw [List.cons_append, reportStrays, reportStrays, ih]
    cases strayProblem? fields key <;> rfl

section Write

variable (hkey : key.asText? = some name)

include hkey

/-- The entry of a field is as it was before a write under another name. -/
theorem fieldValue?_put {field : Field} (h : field.name ≠ name) (anything : Value) :
    fieldValue? (entries.put key anything) field = fieldValue? entries field := by
  have hother : ¬ (key == .text field.name) = true := by
    rw [Value.beq_text_iff, hkey, Option.some.injEq]
    exact h.symm
  rw [fieldValue?, fieldValue?,
    Table.get?_put_of_spelling? (Value.spelling?_of_asText? hkey) anything, if_neg hother]

variable (hname : ∀ field ∈ declaredFields (some kind), field.name ≠ name)
  (h : read (some kind) entries = .ok (.ok rule))

include hname h

/-- To the fields that were given, an entry under a name that is no field is a stray. -/
theorem strayProblem?_given : strayProblem? rule.frame.given key = some .extraField := by
  refine strayProblem?_of_forall_ne hkey fun field hfield => ?_
  rw [(of_read h).2] at hfield
  exact hname field (List.mem_filter.mp hfield).1

/-- A map that is read has no entry under a name that is no field, so a write there adds one. -/
theorem put_eq_append (anything : Value) :
    entries.put key anything = entries ++ [(key, anything)] := by
  obtain ⟨-, -, -, -, hstrays, hgiven, -⟩ := yields_readRecord_iff.mp (read_eq_ok_iff.mp h)
  refine Table.put_of_forall_ne fun other hother => ?_
  by_contra hsame
  have hspelled := (Value.beq_iff_of_asText? hkey).mp (by simpa using hsame)
  have hnone := yields_reportStrays_iff.mp hstrays other hother
  rw [strayProblem?_given hspelled hname h] at hnone
  contradiction

/-- The added entry is noted, and no other. -/
theorem run_reportStrays_put (anything : Value) :
    (reportStrays rule.frame.given (entries.put key anything)).run [] =
      .ok ((), [strayIssue name]) := by
  obtain ⟨-, -, -, -, hstrays, -, -⟩ := yields_readRecord_iff.mp (read_eq_ok_iff.mp h)
  rw [put_eq_append hkey hname h, reportStrays_append]
  refine run_bind_eq_ok.mpr ⟨(), [], hstrays, ?_⟩
  rw [reportStrays, strayProblem?_given hkey hname h, ofKey_of_asText? hkey]
  rfl

/-- **One entry too many is the only issue** of a map that is read without it. -/
theorem read_put (anything : Value) :
    read (some kind) (entries.put key anything) = .ok (.error [strayIssue name]) := by
  obtain ⟨hoptional, hfalsey, hkind, hconstraint, -, hgiven, hdefault⟩ :=
    yields_readRecord_iff.mp (read_eq_ok_iff.mp h)
  have hsame {field : Field} (hfield : field ∈ declaredFields (some kind)) :
      fieldValue? (entries.put key anything) field = fieldValue? entries field :=
    fieldValue?_put hkey (hname field hfield) anything
  have hown : ∀ field ∈ kind.ownFields,
      fieldValue? (entries.put key anything) field = fieldValue? entries field := by
    intro field hfield
    exact hsame (List.mem_append_right _ (List.mem_cons_of_mem _ hfield))
  have hfields : givenFields (some kind) (entries.put key anything) = rule.frame.given := by
    rw [hgiven]
    exact List.filter_congr fun field hfield => by rw [hsame hfield]
  rw [readFlag, ← readField_congr _ _ (hsame (by simp [declaredFields, Field.shared]))] at hoptional
  rw [readFlag, ← readField_congr _ _ (hsame (by simp [declaredFields, Field.shared]))] at hfalsey
  rw [readKind, ← readField_congr _ _ (hsame (by simp [declaredFields]))] at hkind
  rw [← readConstraint_congr hown] at hconstraint
  rw [← hsame (by simp [declaredFields, Field.shared])] at hdefault
  -- The fields are read without issues, in order, and then the strays are noted.
  refine bind_eq_ok.mpr ⟨(rule, [strayIssue name]), ?_, rfl⟩
  refine run_bind_eq_ok.mpr ⟨_, [], hoptional, run_bind_eq_ok.mpr ⟨_, [], hfalsey, ?_⟩⟩
  refine run_bind_eq_ok.mpr ⟨(), [], hkind, run_bind_eq_ok.mpr ⟨_, [], hconstraint, ?_⟩⟩
  rw [hfields, ← hdefault]
  exact run_bind_eq_ok.mpr ⟨(), _, run_reportStrays_put hkey hname h anything, rfl⟩

omit h

/-- **A rule with one entry too many** is none, and that entry is all there is against it. -/
theorem ofEntry_put {entry other anything : Value} (hmap : entry.asMap? = some entries)
    (hother : other.asMap? = some (entries.put key anything))
    (h : ofEntry entry = .ok (.ok rule)) (hk : rule.frame.constraint.kind? = some kind) :
    ofEntry other = .ok (.error (malformedReason kind [strayIssue name])) := by
  obtain ⟨found, hgiven, hread⟩ := read_of_ofEntry hmap h
  obtain rfl := Option.some.inj (hk.symm.trans (of_read hread).1)
  refine unusable_iff.mpr (.malformed hother ?_ (read_put hkey hname hread anything))
  rw [fieldValue?_put hkey (hname .kind (by simp [declaredFields])), hgiven]

end Write

end Rule

end ArgRules
