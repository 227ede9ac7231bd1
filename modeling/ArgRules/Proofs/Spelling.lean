import ArgRules.Proofs.Filing

/-!
# Keys that spell something

Keys can be any values, and equality of values is not that of a lawful table: a number that is no
number equals nothing, itself included. But of the keys that can be filed each is a text or a
sequence of bytes, so each spells something, and whatever equals it spells the same. At such keys a
table is read and written like any other.

Equal keys are filed alike, and keys that are filed alike need not be equal: a text and the bytes
that encode it have the same name and spell different things.

## Main definitions

* `Value.spelling?` — the text or the bytes that a key spells
* `Table.Apart` — no key of a table equals a later one

## Main results

* `Value.beq_iff_of_spelling?` — what equals a key that spells something
* `Table.get?_put_of_spelling?` — reading after a write at such a key
* `Table.Apart.putAll` — writes keep the keys apart
-/

namespace ArgRules

/-! ### Spelling -/

namespace Value

/-- The text or the bytes that a key spells. -/
def spelling? (key : Value) : Option (String ⊕ List UInt8) :=
  match key.asText? with
  | some s => some (.inl s)
  | none => key.asBytes?.map .inr

variable {key other : Value} {spelling : String ⊕ List UInt8}

theorem spelling?_of_asText? {s : String} (h : key.asText? = some s) :
    key.spelling? = some (.inl s) := by
  rw [spelling?, h]

/-- What equals a key that spells something spells the same. -/
theorem beq_iff_of_spelling? (h : key.spelling? = some spelling) :
    (other == key) = true ↔ other.spelling? = some spelling := by
  cases key <;> simp only [spelling?, asText?, asBytes?, Option.map_none, Option.map_some,
    reduceCtorEq, Option.some.injEq] at h <;> subst h <;> cases other <;>
    simp [BEq.beq, same, sameAtom, spelling?, asText?, asBytes?, asMap?, extent?]

/-- What a key that spells something equals spells the same. -/
theorem beq_iff_of_spelling?_left (h : key.spelling? = some spelling) :
    (key == other) = true ↔ other.spelling? = some spelling := by
  rw [eq_comm (a := other.spelling?), ← h]
  cases key <;> simp only [spelling?, asText?, asBytes?, Option.map_none, Option.map_some,
    reduceCtorEq, Option.some.injEq] at h <;> cases other <;>
    simp [BEq.beq, same, sameAtom, spelling?, asText?, asBytes?, extent?]

end Value

/-- A key that can be filed spells something. -/
theorem Reading.exists_spelling? {key : Value} {name : String} (h : text key = .ok name) :
    ∃ spelling, key.spelling? = some spelling := by
  cases htext : key.asText? with
  | some s => exact ⟨_, Value.spelling?_of_asText? htext⟩
  | none =>
    rw [text_of_asText?_none htext] at h
    cases hbytes : key.asBytes? with
    | some data => exact ⟨.inr data, by rw [Value.spelling?, htext, hbytes, Option.map_some]⟩
    | none => simp [hbytes] at h

/-! ### Tables whose keys differ -/

namespace Table

section

variable {κ α : Type} [BEq κ]

/-- No key of a table equals a later one. -/
def Apart (table : Table κ α) : Prop := table.keys.Pairwise fun a b => (a == b) = false

variable {table : Table κ α} {key : κ} {value : α}

theorem apart_nil : Apart ([] : Table κ α) := List.Pairwise.nil

theorem apart_cons : Apart ((key, value) :: table) ↔
    (∀ k ∈ table.keys, (key == k) = false) ∧ Apart table :=
  List.pairwise_cons

theorem Apart.of_sublist {other : List κ} (h : Apart table) (hsub : other.Sublist table.keys) :
    other.Pairwise fun a b => (a == b) = false :=
  List.Pairwise.sublist hsub h

theorem get?_eq_none_iff_forall :
    table.get? key = none ↔ ∀ k ∈ table.keys, (k == key) = false := by
  induction table with
  | nil => simp
  | cons entry rest ih =>
    obtain ⟨k, v⟩ := entry
    rw [get?_cons, keys_cons, List.forall_mem_cons, ← ih]
    cases k == key <;> simp

/-- A write at a key that is not there adds an entry at the end. -/
theorem put_of_forall_ne (h : ∀ k ∈ table.keys, (k == key) = false) :
    table.put key value = table ++ [(key, value)] := by
  induction table with
  | nil => rfl
  | cons entry rest ih =>
    obtain ⟨k, v⟩ := entry
    have hk : (k == key) = false := h k (List.mem_cons_self ..)
    rw [put, if_neg (by simp [hk]), ih fun k' hk' => h k' (List.mem_cons_of_mem _ hk')]
    rfl

/-- A write keeps the keys, or else there is no key that equals the new one. -/
theorem keys_put_cases (table : Table κ α) (key : κ) (value : α) :
    (table.put key value).keys = table.keys ∨ ∀ k ∈ table.keys, (k == key) = false := by
  induction table with
  | nil => exact Or.inr (by simp)
  | cons entry rest ih =>
    obtain ⟨k, v⟩ := entry
    rw [put]
    split
    · exact Or.inl rfl
    · next hk =>
      rcases ih with hkeys | hfree
      · exact Or.inl (by rw [keys_cons, keys_cons, hkeys])
      · exact Or.inr (List.forall_mem_cons.mpr ⟨by simpa using hk, hfree⟩)

/-- A write adds no key but its own, and that only if there is nothing to be read at it. -/
theorem mem_keys_put_new {other : κ} (h : other ∈ (table.put key value).keys) :
    other ∈ table.keys ∨ other = key ∧ table.get? key = none := by
  rcases keys_put_cases table key value with hkeys | hfree
  · exact Or.inl (hkeys ▸ h)
  · exact (mem_keys_put h).imp_right fun heq => ⟨heq, get?_eq_none_iff_forall.mpr hfree⟩

theorem mem_keys_putAll_new {writes : Table κ α} {other : κ}
    (h : other ∈ (table.putAll writes).keys) :
    other ∈ table.keys ∨ other ∈ writes.keys ∧ table.get? other = none := by
  induction writes generalizing table with
  | nil => exact Or.inl h
  | cons write rest ih =>
    obtain ⟨k, v⟩ := write
    rcases ih h with hput | ⟨hrest, hnone⟩
    · rcases mem_keys_put_new hput with hkey | ⟨rfl, hnone⟩
      · exact Or.inl hkey
      · exact Or.inr ⟨List.mem_cons_self .., hnone⟩
    · refine Or.inr ⟨List.mem_cons_of_mem _ hrest, get?_eq_none_iff_forall.mpr fun k' hk' => ?_⟩
      exact get?_eq_none_iff_forall.mp hnone k' (mem_keys_put_of_mem hk' k v)

theorem Apart.put (h : Apart table) (key : κ) (value : α) : Apart (table.put key value) := by
  rcases keys_put_cases table key value with hkeys | hfree
  · rw [Apart, hkeys]
    exact h
  · rw [put_of_forall_ne hfree, Apart, keys_append]
    refine List.pairwise_append.mpr ⟨h, List.pairwise_singleton .., fun k hk other hother => ?_⟩
    obtain rfl := List.mem_singleton.mp hother
    exact hfree k hk

/-- **Writes keep the keys apart.** -/
theorem Apart.putAll (h : Apart table) (writes : List (κ × α)) : Apart (table.putAll writes) := by
  induction writes generalizing table with
  | nil => exact h
  | cons write rest ih => exact ih (h.put _ _)

/-- Several writes at keys that differ, from each other and from those that are there. -/
theorem putAll_of_apart {writes : Table κ α} (h : Apart writes)
    (hfree : ∀ k ∈ table.keys, ∀ w ∈ writes.keys, (k == w) = false) :
    table.putAll writes = table ++ writes := by
  induction writes generalizing table with
  | nil => simp
  | cons write rest ih =>
    obtain ⟨key, value⟩ := write
    obtain ⟨hkey, hrest⟩ := apart_cons.mp h
    rw [putAll_cons, put_of_forall_ne fun k hk => hfree k hk key (by simp), ih hrest]
    · simp
    · intro k hk w hw
      rw [keys_append, List.mem_append] at hk
      rcases hk with hk | hk
      · exact hfree k hk w (List.mem_cons_of_mem _ hw)
      · obtain rfl := List.mem_singleton.mp hk
        exact hkey w hw

/-- A table whose keys differ is the table of its own entries. -/
theorem ofList_of_apart (h : Apart table) : ofList table = table :=
  putAll_of_apart h (by simp)

end

/-! ### Reading and writing at keys that spell something -/

variable {α : Type} {table : Table Value α} {key : Value} {spelling : String ⊕ List UInt8}

/-- Keys that spell the same find the same. -/
theorem get?_congr_of_spelling? {other : Value} (h : key.spelling? = some spelling)
    (hother : other.spelling? = some spelling) (table : Table Value α) :
    table.get? other = table.get? key := by
  induction table with
  | nil => rfl
  | cons entry rest ih =>
    obtain ⟨k, v⟩ := entry
    have hsame : (k == other) = (k == key) := by
      rw [Bool.eq_iff_iff, Value.beq_iff_of_spelling? hother, Value.beq_iff_of_spelling? h]
    rw [get?_cons, get?_cons, hsame, ih]

/-- **Reading after a write** at a key that spells something. -/
theorem get?_put_of_spelling? (h : key.spelling? = some spelling) (value : α) (other : Value) :
    (table.put key value).get? other = if key == other then some value else table.get? other := by
  induction table with
  | nil => rw [put, get?_cons]
  | cons entry rest ih =>
    obtain ⟨k, v⟩ := entry
    rw [put]
    by_cases hk : (k == key) = true
    · -- the key that is there spells the same, so it answers for the new one
      have hspells := (Value.beq_iff_of_spelling? h).mp hk
      have hsame : (k == other) = (key == other) := by
        rw [Bool.eq_iff_iff, Value.beq_iff_of_spelling?_left hspells,
          Value.beq_iff_of_spelling?_left h]
      rw [if_pos hk, get?_cons, get?_cons, hsame]
      split <;> rfl
    · rw [if_neg hk, get?_cons, get?_cons, ih]
      by_cases hother : (key == other) = true
      · have hspells := (Value.beq_iff_of_spelling?_left h).mp hother
        have hk' : ¬ (k == other) = true := by
          rwa [Value.beq_iff_of_spelling? hspells, ← Value.beq_iff_of_spelling? h]
        rw [if_pos hother, if_neg hk', if_pos hother]
      · rw [if_neg hother, if_neg hother]

/-- Every key of a table spells something. -/
def Spelled (table : Table Value α) : Prop :=
  ∀ key ∈ table.keys, ∃ spelling, key.spelling? = some spelling

variable {writes : Table Value α}

theorem Spelled.head {value : α} (h : Spelled ((key, value) :: table)) :
    ∃ spelling, key.spelling? = some spelling :=
  h key (List.mem_cons_self ..)

theorem Spelled.tail {value : α} (h : Spelled ((key, value) :: table)) : Spelled table :=
  fun k hk => h k (List.mem_cons_of_mem _ hk)

/-- **Reading after several writes** at keys that spell something and differ: what was written, or
else what was there. -/
theorem get?_putAll_of_spelled (hspelled : Spelled writes) (hapart : Apart writes)
    (table : Table Value α) (other : Value) :
    (table.putAll writes).get? other = (writes.get? other).or (table.get? other) := by
  induction writes generalizing table with
  | nil => rw [putAll_nil, get?_nil, Option.none_or]
  | cons write rest ih =>
    obtain ⟨key, value⟩ := write
    obtain ⟨spelling, hkey⟩ := hspelled.head
    obtain ⟨hfresh, hrest⟩ := apart_cons.mp hapart
    rw [putAll_cons, ih hspelled.tail hrest, get?_put_of_spelling? hkey, get?_cons]
    by_cases hother : (key == other) = true
    · have hnone : get? rest other = none := by
        -- what equals the other key would spell the same as the one that is written
        have hspells := (Value.beq_iff_of_spelling?_left hkey).mp hother
        refine get?_eq_none_iff_forall.mpr fun k hk => ?_
        rw [← hfresh k hk, Bool.eq_iff_iff, Value.beq_iff_of_spelling? hspells,
          Value.beq_iff_of_spelling?_left hkey]
      rw [hnone, if_pos hother, if_pos hother, Option.none_or, Option.some_or]
    · rw [if_neg hother, if_neg hother]

/-- Every entry of a table is found, if its keys spell something and differ. -/
theorem get?_of_mem_of_spelled {value : α} (hspelled : Spelled table) (hapart : Apart table)
    (h : (key, value) ∈ table) : table.get? key = some value := by
  induction table with
  | nil => simp at h
  | cons entry rest ih =>
    obtain ⟨k, v⟩ := entry
    obtain ⟨hfresh, hrest⟩ := apart_cons.mp hapart
    rw [get?_cons]
    rcases List.mem_cons.mp h with heq | hmem
    · obtain ⟨rfl, rfl⟩ := Prod.mk.inj heq
      obtain ⟨spelling, hkey⟩ := hspelled.head
      rw [if_pos ((Value.beq_iff_of_spelling? hkey).mpr hkey)]
    · have hne : (k == key) = false := hfresh key (mem_keys_of_mem hmem)
      rw [if_neg (by simp [hne]), ih hspelled.tail hrest hmem]

end Table

/-- The keys of a map that can be filed spell something. -/
theorem Fileable.spelled {α : Type} {table : Table Value α} (h : Fileable table) :
    table.Spelled := by
  intro key hkey
  obtain ⟨name, hname⟩ := h key hkey
  exact Reading.exists_spelling? hname

end ArgRules
