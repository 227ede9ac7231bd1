import ArgRules.Evaluation
import ArgRules.Proofs.Names

/-!
# Filing

Filing turns a map into a table of names. It is defined for more keys than texts: a string of bytes
is filed under the text that it encodes. A map with texts as keys is filed as it is.

## Writing and filing

Writing to a map and filing it is the same as filing it and writing to the table, as long as no two
keys of the map are filed under the name that is written. If two are, the map keeps two entries, and
the later one has its value filed, whichever was written last.

## Main definitions

* `Table.filed` — the entries of a map under the names that their keys are filed by
* `Fileable` — the keys of a map can be filed

## Main results

* `CheckResult.ofEvaluation_eq_ok` — which evaluations can be filed, and how
* `TextKeyed.filed_eq` — a map with texts as keys is filed as it is
* `Table.ofList_filed_putAll` — writing and filing
* `Table.get?_ofList_filed_outside` — hidden names do not matter for what is filed under others
-/

namespace ArgRules

/-! ### Filing maps -/

namespace Table

variable {α : Type}

/-- The entries of a map under the names that their keys are filed by. -/
def filed (table : Table Value α) : Table String α :=
  table.filterMap fun (key, value) => (Reading.text key).toOption.map (·, value)

@[simp] theorem filed_nil : filed ([] : Table Value α) = [] := rfl

theorem filed_cons {key : Value} {name : String} (h : Reading.text key = .ok name) (value : α)
    (rest : Table Value α) : filed ((key, value) :: rest) = (name, value) :: filed rest := by
  simp [filed, h, Except.toOption]

theorem filed_cons_of_error {key : Value} {problem : Problem}
    (h : Reading.text key = .error problem) (value : α) (rest : Table Value α) :
    filed ((key, value) :: rest) = filed rest := by
  simp [filed, h, Except.toOption]

theorem filed_append (s t : Table Value α) : filed (s ++ t) = s.filed ++ t.filed :=
  List.filterMap_append ..

theorem mem_filed {table : Table Value α} {name : String} {value : α} :
    (name, value) ∈ table.filed ↔
      ∃ key, Reading.text key = .ok name ∧ (key, value) ∈ table := by
  simp only [filed, List.mem_filterMap, Option.map_eq_some_iff, Prod.mk.injEq, Prod.exists]
  constructor
  · rintro ⟨key, _, hmem, _, hname, rfl, rfl⟩
    refine ⟨key, ?_, hmem⟩
    cases hread : Reading.text key <;> simp_all [Except.toOption]
  · rintro ⟨key, hname, hmem⟩
    exact ⟨key, value, hmem, name, by rw [hname]; rfl, rfl, rfl⟩

end Table

/-- A text is filed as it is. -/
theorem Reading.text_of_asText? {key : Value} {name : String} (h : key.asText? = some name) :
    Reading.text key = .ok name := by
  simp [Reading.text, h]

/-- What is no text is filed by its bytes. -/
theorem Reading.text_of_asText?_none {key : Value} (h : key.asText? = none) :
    Reading.text key = match key.asBytes? with
      | some data =>
        match String.fromUTF8? ⟨data.toArray⟩ with
        | some s => .ok s
        | none => .error .textEncoding
      | none => .error .textType := by
  cases key <;> simp only [Value.asText?, reduceCtorEq] at h <;> rfl

/-- A map with texts as keys is filed as it is. -/
theorem TextKeyed.filed_eq {α : Type} {table : Table Value α} (h : TextKeyed table) :
    table.filed = table.named := by
  induction table with
  | nil => rfl
  | cons entry rest ih =>
    obtain ⟨key, value⟩ := entry
    obtain ⟨name, hname, -⟩ := h.head
    rw [Table.filed_cons (Reading.text_of_asText? hname), Table.named_cons_of_text hname,
      ih h.tail]

/-- The keys of a map can be filed. -/
def Fileable {α : Type} (table : Table Value α) : Prop :=
  ∀ key ∈ table.keys, ∃ name, Reading.text key = .ok name

/-! ### Writing and filing -/

/-- Equal keys are filed under the same name. -/
theorem Reading.text_eq_ok_iff_of_beq {key other : Value} {name : String}
    (h : (other == key) = true) : Reading.text other = .ok name ↔ Reading.text key = .ok name := by
  cases hs : key.asText? with
  | some s =>
    have hother := (Value.beq_iff_of_asText? hs).mp h
    rw [text_of_asText? hs, text_of_asText? hother]
  | none =>
    have hbytes : other.asText? = none ∧ other.asBytes? = key.asBytes? := by
      cases key <;> simp [Value.asText?] at hs <;> cases other <;>
        simp_all [BEq.beq, Value.same, Value.sameAtom, Value.asText?, Value.asMap?,
          Value.extent?, Value.asBytes?]
    rw [text_of_asText?_none hs, text_of_asText?_none hbytes.1, hbytes.2]

/-- What has been written to a map that can be filed can be filed. -/
theorem Fileable.of_putAll {α : Type} {table writes : Table Value α}
    (h : Fileable (table.putAll writes)) : Fileable writes := by
  induction writes generalizing table with
  | nil => simp [Fileable]
  | cons write rest ih =>
    obtain ⟨key, value⟩ := write
    rw [Table.putAll_cons] at h
    rw [Fileable, Table.keys_cons, List.forall_mem_cons]
    refine ⟨?_, ih h⟩
    obtain ⟨k, hmem, hk⟩ := Table.exists_mem_keys_put table key value
    obtain ⟨name, hname⟩ := h k (Table.mem_keys_putAll_of_mem hmem rest)
    rcases hk with rfl | heq
    · exact ⟨name, hname⟩
    · exact ⟨name, (Reading.text_eq_ok_iff_of_beq heq).mp hname⟩

namespace Table

theorem keys_filed {α : Type} (table : Table Value α) :
    table.filed.keys = table.keys.filterMap fun key => (Reading.text key).toOption := by
  induction table with
  | nil => rfl
  | cons entry rest ih =>
    obtain ⟨key, value⟩ := entry
    cases h : Reading.text key with
    | error problem =>
      rw [filed_cons_of_error h, ih, keys_cons, List.filterMap_cons_none (by rw [h]; rfl)]
    | ok name =>
      rw [filed_cons h, keys_cons, keys_cons, ih, List.filterMap_cons_some (by rw [h]; rfl)]

theorem filed_map_snd {α β : Type} (f : α → β) (table : Table Value α) :
    filed (table.map fun (key, value) => (key, f value)) =
      table.filed.map fun (name, value) => (name, f value) := by
  induction table with
  | nil => rfl
  | cons entry rest ih =>
    obtain ⟨key, value⟩ := entry
    cases h : Reading.text key with
    | error problem => simp [filed_cons_of_error h, ih]
    | ok name => simp [filed_cons h, ih]

/-- A write to a map, filed: it adds an entry at the end, or it changes the value of one. -/
theorem filed_put_cases {α : Type} {key : Value} {name : String}
    (hkey : Reading.text key = .ok name) (table : Table Value α) (value : α) :
    (table.put key value).filed = table.filed ++ [(name, value)] ∨
      ∃ before old after, table.filed = before ++ (name, old) :: after ∧
        (table.put key value).filed = before ++ (name, value) :: after := by
  induction table with
  | nil => exact Or.inl (by simp [put, filed_cons hkey])
  | cons entry rest ih =>
    obtain ⟨k, old⟩ := entry
    rw [put]
    split
    · next heq =>
      have hk := (Reading.text_eq_ok_iff_of_beq heq).mpr hkey
      exact Or.inr ⟨[], old, filed rest, by rw [filed_cons hk, List.nil_append],
        by rw [filed_cons hk, List.nil_append]⟩
    · cases hk : Reading.text k with
      | error problem =>
        rw [filed_cons_of_error hk, filed_cons_of_error hk]
        exact ih
      | ok s =>
        rw [filed_cons hk, filed_cons hk]
        rcases ih with hadd | ⟨before, old', after, hrest, hput⟩
        · exact Or.inl (by rw [hadd, List.cons_append])
        · exact Or.inr ⟨(s, old) :: before, old', after, by rw [hrest, List.cons_append],
            by rw [hput, List.cons_append]⟩

theorem ofList_filed_put {α : Type} {key : Value} {name : String}
    (hkey : Reading.text key = .ok name) {table : Table Value α}
    (hone : table.filed.keys.count name ≤ 1) (value : α) :
    ofList (table.put key value).filed = (ofList table.filed).put name value := by
  rcases filed_put_cases hkey table value with hadd | ⟨before, old, after, htable, hput⟩
  · rw [hadd, ofList, putAll_append]
    rfl
  · -- the entry that is changed is the only one under its name, so no later one hides it
    have hfree : name ∉ keys after := by
      rw [htable, keys_append, keys_cons, List.count_append, List.count_cons_self] at hone
      rw [← List.count_pos_iff]
      omega
    have hthere : name ∈ ((ofList before).put name old).keys :=
      mem_keys_of_get? (get?_put_self _ name old)
    rw [hput, htable, ofList, ofList, putAll_append, putAll_append, putAll_cons, putAll_cons,
      ← ofList, put_putAll hthere hfree, put_put]

/-- **Writing and filing.** -/
theorem ofList_filed_putAll {α : Type} {table writes : Table Value α} (hfile : Fileable writes)
    (hd : writes.filed.keys.Nodup)
    (hone : ∀ name ∈ writes.filed.keys, table.filed.keys.count name ≤ 1) :
    ofList (table.putAll writes).filed = (ofList table.filed).putAll writes.filed := by
  induction writes generalizing table with
  | nil => rfl
  | cons write rest ih =>
    obtain ⟨key, value⟩ := write
    obtain ⟨name, hname⟩ := hfile key (mem_keys_of_mem (List.mem_cons_self ..))
    rw [filed_cons hname, keys_cons] at hone
    rw [filed_cons hname, keys_cons, List.nodup_cons] at hd
    rw [putAll_cons, filed_cons hname, putAll_cons,
      ← ofList_filed_put hname (hone name (List.mem_cons_self ..))]
    refine ih (fun k hk => hfile k (List.mem_cons_of_mem _ hk)) hd.2 fun other hother => ?_
    have hne : name ≠ other := by
      rintro rfl
      exact hd.1 hother
    have hcount := hone other (List.mem_cons_of_mem _ hother)
    rcases filed_put_cases hname table value with hadd | ⟨before, old, after, htable, hput⟩
    · rw [hadd, keys_append, List.count_append, keys_cons, List.count_cons_of_ne hne]
      simpa using hcount
    · rw [hput]
      rw [htable] at hcount
      simpa only [keys_append, keys_cons] using hcount

end Table

/-! ### Hidden names -/

/-- Hidden names are texts, so they do not matter for what can be filed. -/
theorem Fileable.of_outside_eq {α : Type} {table other : Table Value α} {hidden : String → Bool}
    (h : Fileable table) (heq : other.outside hidden = table.outside hidden) :
    Fileable other := by
  intro key hkey
  cases hhidden : key.asText?.any hidden with
  | true =>
    obtain ⟨name, hname, -⟩ := (Option.any_eq_true ..).mp hhidden
    exact ⟨name, Reading.text_of_asText? hname⟩
  | false =>
    obtain ⟨value, hmem⟩ := Table.mem_keys_iff.mp hkey
    have hvisible : (key, value) ∈ other.outside hidden :=
      List.mem_filter.mpr ⟨hmem, by rw [hhidden, Bool.not_false]⟩
    rw [heq] at hvisible
    exact h key (Table.mem_keys_of_mem (List.mem_filter.mp hvisible).1)

/-- What is filed under a name that is not hidden does not depend on the entries of hidden names.
The induction is on the entries to come, over two tables that agree at the name so far. -/
theorem Table.get?_ofList_filed_outside {α : Type} {hidden : String → Bool} {name : String}
    (h : hidden name = false) (table : Table Value α) :
    (ofList (table.outside hidden).filed).get? name = (ofList table.filed).get? name := by
  suffices ∀ s t : Table String α, s.get? name = t.get? name →
      (s.putAll (table.outside hidden).filed).get? name = (t.putAll table.filed).get? name from
    this [] [] rfl
  induction table with
  | nil => exact fun _ _ hagree => hagree
  | cons entry rest ih =>
    intro s t hagree
    obtain ⟨key, value⟩ := entry
    rw [outside, List.filter_cons, ← outside]
    cases hhidden : key.asText?.any hidden with
    | true =>
      obtain ⟨other, hother, hotherHidden⟩ := (Option.any_eq_true ..).mp hhidden
      have hne : other ≠ name := by
        rintro rfl
        rw [h] at hotherHidden
        contradiction
      rw [if_neg (by simp), filed_cons (Reading.text_of_asText? hother), putAll_cons]
      exact ih s _ (hagree.trans (get?_put_of_ne t value hne).symm)
    | false =>
      rw [Bool.not_false, if_pos rfl]
      cases hfiled : Reading.text key with
      | error problem =>
        rw [filed_cons_of_error hfiled, filed_cons_of_error hfiled]
        exact ih s t hagree
      | ok other =>
        rw [filed_cons hfiled, filed_cons hfiled, putAll_cons, putAll_cons]
        refine ih _ _ ?_
        by_cases hne : other = name
        · rw [hne, get?_put_self, get?_put_self]
        · rw [get?_put_of_ne s value hne, get?_put_of_ne t value hne, hagree]

/-! ### Filing evaluations -/

namespace Filing

variable {α : Type} (place : String)

/-- Filing goes through the entries and notes an issue for each key that cannot be filed. -/
theorem foldl_step (entries : Table Value α) (filed : Table String α) (issues : List Issue) :
    ∃ more, entries.foldl (step place) (filed, issues) =
        (filed.putAll entries.filed, issues ++ more) ∧ (more = [] ↔ Fileable entries) := by
  induction entries generalizing filed issues with
  | nil => exact ⟨[], by simp, by simp [Fileable]⟩
  | cons entry rest ih =>
    obtain ⟨key, value⟩ := entry
    rw [List.foldl_cons]
    cases h : Reading.text key with
    | ok name =>
      obtain ⟨more, hfold, hmore⟩ := ih (filed.put name value) issues
      refine ⟨more, ?_, ?_⟩
      · rw [Table.filed_cons h, Table.putAll_cons, ← hfold]
        simp [step, entryName, h, Except.mapError]
      · rw [hmore]
        simp [Fileable, h]
    | error problem =>
      obtain ⟨more, hfold, hmore⟩ :=
        ih filed (issues ++ [⟨[.name place, Locator.ofKey key, .name "[key]"], problem⟩])
      refine ⟨⟨[.name place, Locator.ofKey key, .name "[key]"], problem⟩ :: more, ?_, ?_⟩
      · rw [Table.filed_cons_of_error h, ← List.singleton_append, ← List.append_assoc, ← hfold]
        simp [step, entryName, h, Except.mapError]
      · simp [Fileable, h]

theorem table_fst (entries : Table Value α) :
    (table place entries).1 = Table.ofList entries.filed := by
  obtain ⟨more, hfold, -⟩ := foldl_step place entries [] []
  simp [table, hfold, Table.ofList]

theorem table_snd_eq_nil_iff (entries : Table Value α) :
    (table place entries).2 = [] ↔ Fileable entries := by
  obtain ⟨more, hfold, hmore⟩ := foldl_step place entries [] []
  simp [table, hfold, hmore]

end Filing

/-- **Which evaluations can be filed, and how.** -/
theorem CheckResult.ofEvaluation_eq_ok {evaluation : Evaluation} {result : CheckResult} :
    ofEvaluation evaluation = .ok result ↔
      (Fileable evaluation.args ∧ Fileable evaluation.changes) ∧
        result = ⟨Table.ofList evaluation.args.filed, Table.ofList evaluation.changes.filed,
          evaluation.violations⟩ := by
  have hissues : ((Filing.table "args" evaluation.args).2 ++
      (Filing.table "changes" evaluation.changes).2).isEmpty ↔
      Fileable evaluation.args ∧ Fileable evaluation.changes := by
    simp [Filing.table_snd_eq_nil_iff]
  simp only [ofEvaluation, Filing.table_fst]
  split
  · next h => simp [hissues.mp h, eq_comm]
  · next h => simp [mt hissues.mpr h]

end ArgRules
