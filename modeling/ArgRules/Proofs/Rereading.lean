import ArgRules.Proofs.Defects
import ArgRules.Proofs.Keeping

/-!
# Rules that are written and read again

The fields of a rule may be written leniently, so a map says more than the rule that is read from
it: a truth value can be a word, a bound a text, a pattern its source. `Rule.canonical` writes each
field that was given as the value that was read for it. Here it is proved that such a map is read as
the rule it was written from, with the same fields given; so nothing is lost in writing, and nothing
is interpreted twice. That holds for whatever is kept of a rule: its limits are written as the very
numbers they are, and they are read as these.

## Readings without issues

A reader collects issues, and a rule is there only if none was collected. Since no step takes an
issue away, this is so exactly if every step has been without issues, which `Rule.Yields` says of a
single step. A record is thereby taken apart into its fields, and each field is compared by itself.

## Main definitions

* `Rule.Yields` — a step of reading gives a result and notes no issue
* `Rule.Restates` — a map has given values in place of what another map has

## Main results

* `Rule.read_eq_ok_iff` — the rules that are read are those that are read without issues
* `Rule.read_of_restates` — a map that restates what is kept is read as that
* `Rule.ofEntry_canonical` — reading the canonical form of what is kept gives it again
-/

namespace ArgRules

namespace Rule

/-! ### Readings without issues -/

/-- A step of reading takes no issue away. -/
class Grows {α : Type} (reader : Reader α) : Prop where
  grows : ∀ issues result, reader.run issues = .ok result → issues <+: result.2

/-- A step of reading gives a result and notes no issue. -/
def Yields {α : Type} (reader : Reader α) (a : α) : Prop := reader.run [] = .ok (a, [])

section Readers

variable {α β : Type} {reader : Reader α} {f : α → Reader β}

theorem run_bind_eq_ok {issues : List Issue} {result : β × List Issue} :
    (reader >>= f).run issues = .ok result ↔
      ∃ a noted, reader.run issues = .ok (a, noted) ∧ (f a).run noted = .ok result := by
  rw [StateT.run_bind, bind_eq_ok, Prod.exists]

instance grows_pure (a : α) : Grows (pure a) where
  grows issues result h := by
    obtain rfl := pure_eq_ok.mp h
    exact List.prefix_rfl

instance grows_add (more : List Issue) : Grows (modify (· ++ more) : Reader Unit) where
  grows issues result h := by
    obtain rfl := Except.ok.inj h
    exact List.prefix_append ..

instance grows_lift (x : Except Fault α) : Grows (liftM x : Reader α) where
  grows issues result h := by
    obtain ⟨a, -, h⟩ := bind_eq_ok.mp h
    obtain rfl := pure_eq_ok.mp h
    exact List.prefix_rfl

instance grows_bind [Grows reader] [∀ a, Grows (f a)] : Grows (reader >>= f) where
  grows issues result h := by
    obtain ⟨a, noted, hfirst, hrest⟩ := run_bind_eq_ok.mp h
    exact (Grows.grows _ _ hfirst).trans (Grows.grows _ _ hrest)

@[simp] theorem yields_pure_iff {a b : α} : Yields (pure a) b ↔ a = b := by
  constructor
  · intro h
    exact congrArg Prod.fst (pure_eq_ok.mp h)
  · rintro rfl
    rfl

theorem yields_lift {x : Except Fault α} {a : α} (h : x = .ok a) : Yields (liftM x) a := by
  subst h
  rfl

/-- **Two steps are without issues exactly if each of them is.** -/
theorem yields_bind_iff [∀ a, Grows (f a)] {b : β} :
    Yields (reader >>= f) b ↔ ∃ a, Yields reader a ∧ Yields (f a) b := by
  constructor
  · intro h
    obtain ⟨a, noted, hfirst, hrest⟩ := run_bind_eq_ok.mp h
    obtain rfl : noted = [] := List.prefix_nil.mp (Grows.grows _ _ hrest)
    exact ⟨a, hfirst, hrest⟩
  · rintro ⟨a, hfirst, hrest⟩
    exact run_bind_eq_ok.mpr ⟨a, [], hfirst, hrest⟩

end Readers

/-! ### Fields -/

section Fields

variable {α : Type} {entries given : Entries} {field : Field} {kind : Kind} {default a b : α}
  {read : Value → Except Fault (Except (List Issue) α)} {written : Value}

instance grows_readField : Grows (readField entries field default read) := by
  rw [readField]
  split
  · infer_instance
  · refine @grows_bind _ _ _ _ _ fun found => ?_
    split <;> infer_instance

instance : Grows (readFlag entries field) := grows_readField

instance : Grows (readLength entries field) := grows_readField

instance : Grows (readBound entries field) := grows_readField

instance : Grows (readLimit entries field) := grows_readField

instance : Grows (readPattern entries field) := grows_readField

instance : Grows (readKind entries kind) := grows_readField

/-- **What is kept of a field is read,** if it stands in place of what the field was read from, and
if it is read as itself. Of a field that is not there nothing is kept but its default. -/
theorem Yields.replaced (h : Yields (readField entries field default read) a)
    (hdefault : a = default → b = default)
    (hplace : fieldValue? given field = (fieldValue? entries field).map fun _ => written)
    (hfixed : read written = .ok (.ok b)) : Yields (readField given field default read) b := by
  cases hfound : fieldValue? entries field with
  | none =>
    rw [hfound] at hplace
    rw [readField, hfound] at h
    rw [readField, hplace]
    exact yields_pure_iff.mpr (hdefault (yields_pure_iff.mp h).symm).symm
  | some value =>
    rw [hfound] at hplace
    rw [readField, hplace]
    exact run_bind_eq_ok.mpr ⟨.ok b, [], yields_lift hfixed, rfl⟩

/-- What was read for a field is read again. -/
theorem Yields.restated (h : Yields (readField entries field default read) a)
    (hplace : fieldValue? given field = (fieldValue? entries field).map fun _ => written)
    (hfixed : read written = .ok (.ok a)) : Yields (readField given field default read) a :=
  h.replaced id hplace hfixed

theorem Yields.restated_flag {b : Bool} (h : Yields (readFlag entries field) b)
    (hplace : fieldValue? given field = (fieldValue? entries field).map fun _ => .bool b) :
    Yields (readFlag given field) b :=
  h.restated hplace rfl

theorem Yields.restated_length {length : Option Int} (h : Yields (readLength entries field) length)
    (hplace : fieldValue? given field = (fieldValue? entries field).map fun _ => .ofLength length) :
    Yields (readLength given field) length :=
  h.restated hplace (by cases length <;> rfl)

theorem Yields.replaced_bound {bound kept : Option Bound}
    (h : Yields (readBound entries field) bound) (hkept : Option.Rel Bound.Kept bound kept)
    (hplace : fieldValue? given field = (fieldValue? entries field).map fun _ => .ofBound kept) :
    Yields (readBound given field) kept := by
  refine h.replaced ?_ hplace (by cases kept <;> rfl)
  rintro rfl
  cases hkept
  rfl

theorem Yields.replaced_limit {limit kept : Option Limit}
    (h : Yields (readLimit entries field) limit) (hkept : Option.Rel Limit.Kept limit kept)
    (hplace : fieldValue? given field = (fieldValue? entries field).map fun _ => .ofLimit kept) :
    Yields (readLimit given field) kept := by
  refine h.replaced ?_ hplace ?_
  · rintro rfl
    cases hkept
    rfl
  · cases kept with
    | none => rfl
    | some limit => simp [Value.ofLimit]

theorem Yields.restated_pattern {filter : Option Pattern}
    (h : Yields (readPattern entries field) filter)
    (hplace : fieldValue? given field =
      (fieldValue? entries field).map fun _ => (filter.map .pattern).getD .null) :
    Yields (readPattern given field) filter :=
  h.restated hplace (by cases filter <;> rfl)

theorem Yields.restated_kind (h : Yields (readKind entries kind) ())
    (hplace : fieldValue? given .kind = (fieldValue? entries .kind).map fun _ => .text kind.name) :
    Yields (readKind given kind) () :=
  h.restated hplace (by simp)

end Fields

/-! ### Records -/

variable {entries given : Entries} {kind : Kind} {constraint : Constraint} {rule kept : Rule}

/-- A map has given values in place of what another map has: it has an entry for a field exactly if
the other one does. -/
def Restates (given entries : Entries) (values : List (Field × Value)) : Prop :=
  ∀ value ∈ values, fieldValue? given value.1 = (fieldValue? entries value.1).map fun _ => value.2

@[simp] theorem restates_cons_iff {field : Field} {value : Value} {rest : List (Field × Value)} :
    Restates given entries ((field, value) :: rest) ↔
      fieldValue? given field = ((fieldValue? entries field).map fun _ => value) ∧
        Restates given entries rest := by
  simp [Restates]

@[simp] theorem restates_append_iff {first second : List (Field × Value)} :
    Restates given entries (first ++ second) ↔
      Restates given entries first ∧ Restates given entries second := by
  simp only [Restates, List.forall_mem_append]

instance : Grows (readConstraint entries kind) := by
  cases kind <;> rw [readConstraint] <;> infer_instance

/-- The constraint that is read for a kind is one of that kind. -/
theorem kind?_of_yields (h : Yields (readConstraint entries kind) constraint) :
    constraint.kind? = some kind := by
  cases kind <;> simp only [readConstraint, yields_bind_iff, yields_pure_iff] at h
  all_goals grind [Constraint.kind?]

/-- **What is kept of a constraint is read,** from the values of its fields. -/
theorem Yields.replaced_constraint {kept : Constraint}
    (h : Yields (readConstraint entries kind) constraint) (hkept : constraint.Kept kept)
    (hrestates : Restates given entries (Value.constraintFields kept)) :
    Yields (readConstraint given kind) kept := by
  cases kind with
  | array =>
    simp only [readConstraint, yields_bind_iff, yields_pure_iff] at h ⊢
    obtain ⟨allowEmpty, hempty, low, hlow, high, hhigh, rfl⟩ := h
    cases hkept
    simp only [Value.constraintFields, restates_cons_iff] at hrestates
    obtain ⟨hempty', hlow', hhigh', -⟩ := hrestates
    exact ⟨_, hempty.restated_flag hempty', _, hlow.restated_length hlow', _,
      hhigh.restated_length hhigh', rfl⟩
  | map =>
    simp only [readConstraint, yields_bind_iff, yields_pure_iff] at h ⊢
    obtain ⟨allowEmpty, hempty, rfl⟩ := h
    cases hkept
    simp only [Value.constraintFields, restates_cons_iff] at hrestates
    exact ⟨_, hempty.restated_flag hrestates.1, rfl⟩
  | integer =>
    simp only [readConstraint, yields_bind_iff, yields_pure_iff] at h ⊢
    obtain ⟨low, hlow, high, hhigh, autobound, hauto, rfl⟩ := h
    obtain ⟨low', high', rfl, hlower, hupper⟩ := hkept.of_integer
    simp only [Value.constraintFields, restates_cons_iff] at hrestates
    obtain ⟨hlow', hhigh', hauto', -⟩ := hrestates
    exact ⟨_, hlow.replaced_bound hlower hlow', _, hhigh.replaced_bound hupper hhigh', _,
      hauto.restated_flag hauto', rfl⟩
  | number =>
    simp only [readConstraint, yields_bind_iff, yields_pure_iff] at h ⊢
    obtain ⟨low, hlow, high, hhigh, autobound, hauto, rfl⟩ := h
    obtain ⟨low', high', rfl, hlower, hupper⟩ := hkept.of_number
    simp only [Value.constraintFields, restates_cons_iff] at hrestates
    obtain ⟨hlow', hhigh', hauto', -⟩ := hrestates
    exact ⟨_, hlow.replaced_limit hlower hlow', _, hhigh.replaced_limit hupper hhigh', _,
      hauto.restated_flag hauto', rfl⟩
  | string =>
    simp only [readConstraint, yields_bind_iff, yields_pure_iff] at h ⊢
    obtain ⟨allowEmpty, hempty, filter, hfilter, low, hlow, high, hhigh, rfl⟩ := h
    cases hkept
    simp only [Value.constraintFields, restates_cons_iff] at hrestates
    obtain ⟨hempty', hfilter', hlow', hhigh', -⟩ := hrestates
    exact ⟨_, hempty.restated_flag hempty', _, hfilter.restated_pattern hfilter', _,
      hlow.restated_length hlow', _, hhigh.restated_length hhigh', rfl⟩
  | _ =>
    obtain rfl := yields_pure_iff.mp h
    cases hkept
    exact h

instance grows_reportStrays (fields : List Field) (entries : Entries) :
    Grows (reportStrays fields entries) := by
  induction entries with
  | nil => exact grows_pure _
  | cons entry rest ih =>
    rw [reportStrays]
    split
    · exact @grows_bind _ _ _ _ (grows_add _) fun _ => ih
    · infer_instance

/-- No strays are noted exactly if there are none. -/
theorem yields_reportStrays_iff {fields : List Field} : Yields (reportStrays fields entries) () ↔
    ∀ key ∈ entries.keys, strayProblem? fields key = none := by
  induction entries with
  | nil => exact iff_of_true rfl (by simp)
  | cons entry rest ih =>
    obtain ⟨key, value⟩ := entry
    rw [Table.keys_cons, List.forall_mem_cons, reportStrays, ← ih]
    cases hproblem : strayProblem? fields key with
    | none => exact ⟨fun h => ⟨rfl, h⟩, fun h => h.2⟩
    | some problem =>
      refine iff_of_false (fun h => ?_) (by simp)
      obtain ⟨⟨⟩, hnoted, -⟩ := yields_bind_iff.mp h
      cases hnoted

/-- The name of a field that was given is no stray. -/
theorem strayProblem?_name {fields : List Field} {field : Field} (h : field ∈ fields) :
    strayProblem? fields (.text field.name) = none := by
  have hany : (fields.any fun other => other.name = field.name) = true :=
    List.any_eq_true.mpr ⟨field, h, decide_eq_true rfl⟩
  rw [strayProblem?]
  simpa [Reading.written?, Value.asText?] using hany

/-- What a record without issues consists of. -/
theorem yields_readRecord_iff : Yields (readRecord (some kind) entries) rule ↔
    Yields (readFlag entries .isOptional) rule.frame.isOptional ∧
      Yields (readFlag entries .allowFalsey) rule.frame.allowFalsey ∧
      Yields (readKind entries kind) () ∧
      Yields (readConstraint entries kind) rule.frame.constraint ∧
      Yields (reportStrays rule.frame.given entries) () ∧
      rule.frame.given = givenFields (some kind) entries ∧
      rule.default = (fieldValue? entries .default).getD .null := by
  simp only [readRecord, yields_bind_iff, yields_pure_iff]
  constructor
  · rintro ⟨_, hoptional, _, hfalsey, _, hkind, _, hconstraint, _, hstrays, rfl⟩
    exact ⟨hoptional, hfalsey, hkind, hconstraint, hstrays, rfl, rfl⟩
  · rintro ⟨hoptional, hfalsey, hkind, hconstraint, hstrays, hgiven, hdefault⟩
    rw [hgiven] at hstrays
    refine ⟨_, hoptional, _, hfalsey, _, hkind, _, hconstraint, _, hstrays, ?_⟩
    rw [← hgiven, ← hdefault]

/-- **The rules that are read are those that are read without issues.** -/
theorem read_eq_ok_iff :
    read (some kind) entries = .ok (.ok rule) ↔ Yields (readRecord (some kind) entries) rule := by
  constructor
  · intro h
    obtain ⟨⟨found, issues⟩, hrun, h⟩ := bind_eq_ok.mp h
    have h := pure_eq_ok.mp h
    split at h
    · next hempty =>
      obtain rfl := Except.ok.inj h
      obtain rfl := List.isEmpty_iff.mp hempty
      exact hrun
    · cases h
  · intro h
    exact bind_eq_ok.mpr ⟨(rule, []), h, rfl⟩

/-- The kind of a rule, and the fields that were given to it. -/
theorem of_read (h : read (some kind) entries = .ok (.ok rule)) :
    rule.frame.constraint.kind? = some kind ∧
      rule.frame.given = givenFields (some kind) entries := by
  obtain ⟨-, -, -, hconstraint, -, hgiven, -⟩ := yields_readRecord_iff.mp (read_eq_ok_iff.mp h)
  exact ⟨kind?_of_yields hconstraint, hgiven⟩

/-! ### Fields in place of fields -/

/-- The fields of a rule are those of its record. -/
theorem keys_ruleFields (frame : Frame) (default : Value) :
    Table.keys (Value.ruleFields frame default) = declaredFields frame.constraint.kind? := by
  obtain ⟨isOptional, allowFalsey, constraint, given⟩ := frame
  cases constraint <;> rfl

theorem nodup_declaredFields (kind? : Option Kind) : (declaredFields kind?).Nodup := by
  cases kind? with
  | none => decide
  | some kind => cases kind <;> decide

/-- **A map that restates what is kept of a rule is read as that.** -/
theorem read_of_restates (h : read (some kind) entries = .ok (.ok rule)) (hkept : rule.Kept kept)
    (hrestates : Restates given entries (Value.ruleFields kept.frame kept.default))
    (hkeys : ∀ key ∈ given.keys, ∃ field ∈ kept.frame.given, key = .text field.name) :
    read (some kind) given = .ok (.ok kept) := by
  obtain ⟨hoptional, hfalsey, hkind, hconstraint, -, hgiven, hdefault⟩ :=
    yields_readRecord_iff.mp (read_eq_ok_iff.mp h)
  have hof : kept.frame.constraint.kind? = some kind :=
    hkept.constraint.kind?_eq.trans (kind?_of_yields hconstraint)
  rw [← hkept.isOptional] at hoptional
  rw [← hkept.allowFalsey] at hfalsey
  rw [← hkept.given] at hgiven
  rw [← hkept.default] at hdefault
  -- The declared fields have entries in one map exactly if they have entries in the other.
  have hfields : givenFields (some kind) given = givenFields (some kind) entries := by
    refine List.filter_congr fun field hfield => ?_
    rw [← hof, ← keys_ruleFields kept.frame kept.default] at hfield
    obtain ⟨value, hvalue⟩ := Table.mem_keys_iff.mp hfield
    rw [hrestates _ hvalue, Option.isSome_map]
  have hstrays : Yields (reportStrays kept.frame.given given) () := by
    refine yields_reportStrays_iff.mpr fun key hkey => ?_
    obtain ⟨field, hfield, rfl⟩ := hkeys key hkey
    exact strayProblem?_name hfield
  rw [Value.ruleFields, hof] at hrestates
  simp only [restates_append_iff, restates_cons_iff] at hrestates
  obtain ⟨⟨⟨hoptional', hdefault', hfalsey', -⟩, hkind', -⟩, hconstraint'⟩ := hrestates
  refine read_eq_ok_iff.mpr (yields_readRecord_iff.mpr ⟨hoptional.restated_flag hoptional',
    hfalsey.restated_flag hfalsey', hkind.restated_kind hkind',
    hconstraint.replaced_constraint hkept.constraint hconstraint', hstrays,
    hgiven.trans hfields.symm, ?_⟩)
  rw [hdefault']
  cases hfound : fieldValue? entries .default with
  | none =>
    rw [hfound] at hdefault
    exact hdefault
  | some value => rfl

/-! ### The canonical form -/

/-- Fields with different names are different. -/
theorem name_injective : Function.Injective Field.name := by
  intro first second h
  cases first <;> cases second <;> first | rfl | exact absurd h (by decide)

/-- Reading a map that was written field by field. -/
theorem fieldValue?_written (values : Table Field Value) (field : Field) :
    fieldValue? (values.map fun (f, v) => (.text f.name, v)) field = values.get? field := by
  induction values with
  | nil => rfl
  | cons entry rest ih =>
    obtain ⟨f, v⟩ := entry
    have hsame : (Value.text f.name == Value.text field.name) = (f == field) := by
      rw [Bool.eq_iff_iff, Value.beq_text_iff, beq_iff_eq, ← name_injective.eq_iff]
      exact Option.some_inj
    rw [List.map_cons, fieldValue?, Table.get?_cons, Table.get?_cons, hsame]
    exact if_congr Iff.rfl rfl ih

/-- **The canonical form has the fields that were given, with the values they have.** -/
theorem fieldValue?_canonical {field : Field} {value : Value}
    (h : (field, value) ∈ Value.ruleFields rule.frame rule.default) :
    fieldValue? rule.canonical field =
      if field ∈ rule.frame.given then some value else none := by
  rw [canonical, fieldValue?_written, givenValues]
  have hnodup : (Table.keys (Value.ruleFields rule.frame rule.default)).Nodup := by
    rw [keys_ruleFields]
    exact nodup_declaredFields _
  split
  · next hgiven =>
    rw [Table.get?_filter_key (p := rule.frame.given.contains) fun other hother => ?_]
    · exact Table.get?_of_mem hnodup h
    · rw [eq_of_beq hother]
      exact List.contains_iff_mem.mpr hgiven
  · next hgiven =>
    refine Table.get?_eq_none_iff.mpr fun hkey => hgiven ?_
    obtain ⟨other, hother⟩ := Table.mem_keys_iff.mp hkey
    exact List.contains_iff_mem.mp (List.mem_filter.mp hother).2

/-- The kind of what is kept of a rule, and the fields that were given to it. -/
theorem of_read_kept (h : read (some kind) entries = .ok (.ok rule)) (hkept : rule.Kept kept) :
    kept.frame.constraint.kind? = some kind ∧
      kept.frame.given = givenFields (some kind) entries := by
  obtain ⟨hof, hgiven⟩ := of_read h
  exact ⟨hkept.constraint.kind?_eq.trans hof, hkept.given.trans hgiven⟩

/-- The names in the canonical form are those of the fields that were given, in their order. -/
theorem keys_canonical (h : read (some kind) entries = .ok (.ok rule)) (hkept : rule.Kept kept) :
    kept.canonical.keys = kept.frame.given.map fun field => .text field.name := by
  obtain ⟨hof, hgiven⟩ := of_read_kept h hkept
  have hfields : Table.keys kept.givenValues = kept.frame.given := by
    have hfiltered : Table.keys kept.givenValues =
        (declaredFields (some kind)).filter kept.frame.given.contains := by
      rw [← hof, ← keys_ruleFields kept.frame kept.default, Table.keys, Table.keys, List.filter_map]
      rfl
    rw [hfiltered, hgiven]
    refine List.filter_congr fun field hfield => ?_
    rw [Bool.eq_iff_iff, List.contains_iff_mem, givenFields, List.mem_filter, and_iff_right hfield]
  rw [← hfields]
  simp [canonical, Table.keys]

theorem exists_of_mem_keys_canonical {key : Value} (h : key ∈ rule.canonical.keys) :
    ∃ field ∈ rule.frame.given, key = .text field.name := by
  obtain ⟨value, hvalue⟩ := Table.mem_keys_iff.mp h
  obtain ⟨⟨field, stated⟩, hmem, heq⟩ := List.mem_map.mp hvalue
  exact ⟨field, List.contains_iff_mem.mp (List.mem_filter.mp hmem).2, (Prod.mk.inj heq).1.symm⟩

/-- The canonical form restates the map that a rule was read from. -/
theorem restates_canonical (h : read (some kind) entries = .ok (.ok rule))
    (hkept : rule.Kept kept) :
    Restates kept.canonical entries (Value.ruleFields kept.frame kept.default) := by
  obtain ⟨hof, hgiven⟩ := of_read_kept h hkept
  rintro ⟨field, value⟩ hvalue
  have hdeclared : field ∈ declaredFields (some kind) := by
    rw [← hof, ← keys_ruleFields kept.frame kept.default]
    exact Table.mem_keys_of_mem hvalue
  rw [fieldValue?_canonical hvalue, hgiven, givenFields]
  cases hfound : fieldValue? entries field <;> simp [hdeclared, hfound]

/-- Reading the canonical form gives what was kept again. -/
theorem read_canonical (h : read (some kind) entries = .ok (.ok rule)) (hkept : rule.Kept kept) :
    read (some kind) kept.canonical = .ok (.ok kept) :=
  read_of_restates h hkept (restates_canonical h hkept) fun _ => exists_of_mem_keys_canonical

/-! ### Entries of rule maps -/

variable {entry : Value}

theorem read_of_ofMap {shown : Value} (h : ofMap entries shown = .ok (.ok rule)) :
    ∃ kind : Kind, shown = .text kind.name ∧ read (some kind) entries = .ok (.ok rule) := by
  obtain ⟨⟨⟩, -, h⟩ := bind_eq_ok.mp h
  split at h
  · next name _ =>
    cases hnamed : Kind.ofName? name with
    | none =>
      rw [hnamed] at h
      obtain ⟨text, -, h⟩ := bind_eq_ok.mp h
      cases pure_eq_ok.mp h
    | some kind =>
      rw [hnamed] at h
      obtain ⟨found, hfound, h⟩ := bind_eq_ok.mp h
      refine ⟨kind, congrArg _ (Kind.name_of_ofName? hnamed).symm, ?_⟩
      cases found with
      | ok read =>
        obtain rfl := Except.ok.inj (pure_eq_ok.mp h)
        exact hfound
      | error issues => cases pure_eq_ok.mp h
  · obtain ⟨text, -, h⟩ := bind_eq_ok.mp h
    cases pure_eq_ok.mp h

/-- A map that is a rule names its kind and is read as one of that kind. -/
theorem read_of_ofEntry (hmap : entry.asMap? = some entries)
    (h : ofEntry entry = .ok (.ok rule)) :
    ∃ kind : Kind, fieldValue? entries .kind = some (.text kind.name) ∧
      read (some kind) entries = .ok (.ok rule) := by
  rw [ofEntry.eq_def] at h
  split at h
  · simp [Value.asMap?] at hmap
  · simp only [hmap] at h
    split at h
    · cases pure_eq_ok.mp h
    · next shown hshown =>
      obtain ⟨counts, -, h⟩ := bind_eq_ok.mp h
      split at h
      · obtain ⟨kind, rfl, hread⟩ := read_of_ofMap h
        exact ⟨kind, hshown, hread⟩
      · cases pure_eq_ok.mp h

/-- A map that names its kind is read as one of that kind. -/
theorem ofEntry_of_read (hmap : entry.asMap? = some entries)
    (hkind : fieldValue? entries .kind = some (.text kind.name))
    (h : read (some kind) entries = .ok (.ok rule)) : ofEntry entry = .ok (.ok rule) := by
  rw [ofEntry_of_map hmap hkind kind.truth_name]
  refine bind_eq_ok.mpr ⟨(), by simp [checkKindKey], ?_⟩
  simp only [Kind.ofName?_name]
  exact bind_eq_ok.mpr ⟨_, h, rfl⟩

/-- **The canonical form of what is kept of a rule is that,** if the rule was read from a map. -/
theorem ofEntry_canonical (hmap : entry.asMap? = some entries)
    (h : ofEntry entry = .ok (.ok rule)) (hkept : rule.Kept kept) :
    ofEntry (.map kept.canonical) = .ok (.ok kept) := by
  obtain ⟨kind, hkind, hread⟩ := read_of_ofEntry hmap h
  obtain ⟨hof, -⟩ := of_read_kept hread hkept
  refine ofEntry_of_read (Value.asMap?_map _) ?_ (read_canonical hread hkept)
  have hstated : (Field.kind, Value.text kind.name) ∈
      Value.ruleFields kept.frame kept.default := by
    simp [Value.ruleFields, hof]
  rw [restates_canonical hread hkept _ hstated, hkind]
  rfl

end Rule

end ArgRules
