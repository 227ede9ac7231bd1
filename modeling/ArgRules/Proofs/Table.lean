import ArgRules.Table
import Mathlib.Data.List.Nodup

/-!
# Tables with keys of a lawful equality

Reading and writing a table whose keys have a lawful equality. Writing at a new key adds an entry at
the end, writing at a key that is there keeps all keys in their places, and several writes at
different keys are read back one by one.

## Main results

* `Table.get?_putAll` — reading after several writes at different keys
* `Table.get?_ofList_append_cons`, `Table.mem_of_get?_ofList` — reading a list of writes
* `Table.keys_put_of_mem`, `Table.nodup_keys_putAll` — the keys after writes
* `Table.ofList_eq_self` — a table with different keys is the table of its own entries
* `Table.get?_filter_key`, `Table.filter_put` — reading and writing the entries of some keys
* `Table.putAll_perm` — writes at different keys can be made in any order
-/

namespace ArgRules.Table

variable {κ α β : Type}

@[simp] theorem keys_nil : keys ([] : Table κ α) = [] := rfl

@[simp] theorem keys_cons (k : κ) (v : α) (rest : Table κ α) :
    keys ((k, v) :: rest) = k :: keys rest := rfl

@[simp] theorem keys_append (s t : Table κ α) : keys (s ++ t) = keys s ++ keys t := by
  simp [keys]

theorem mem_keys_of_mem {table : Table κ α} {key : κ} {value : α} (h : (key, value) ∈ table) :
    key ∈ table.keys :=
  List.mem_map_of_mem h

theorem mem_keys_iff {table : Table κ α} {key : κ} :
    key ∈ table.keys ↔ ∃ value, (key, value) ∈ table := by
  simp [keys]

/-- Changing the values changes no key. -/
@[simp] theorem keys_map_snd (f : α → β) (table : Table κ α) :
    keys (table.map fun (k, v) => (k, f v)) = table.keys := by
  simp [keys, Function.comp_def]

/-- Tables that go side by side have the same keys. -/
theorem keys_of_forall₂ {R : κ × α → κ × β → Prop} {s : Table κ α} {t : Table κ β}
    (h : List.Forall₂ (fun a b => b.1 = a.1 ∧ R a b) s t) : t.keys = s.keys := by
  induction h with
  | nil => rfl
  | cons head _ ih => exact congrArg₂ List.cons head.1 ih

section Equality

variable [BEq κ]

theorem get?_cons (k key : κ) (v : α) (rest : Table κ α) :
    get? ((k, v) :: rest) key = if k == key then some v else get? rest key := rfl

theorem putAll_append (table : Table κ α) (first second : List (κ × α)) :
    table.putAll (first ++ second) = (table.putAll first).putAll second :=
  List.foldl_append ..

/-! ### The entries of some keys

A question `p` about keys that equal keys answer alike. -/

theorem get?_filter_key {p : κ → Bool} {key : κ} (h : ∀ k, (k == key) = true → p k = true)
    (table : Table κ α) : get? (table.filter fun entry => p entry.1) key = table.get? key := by
  induction table with
  | nil => rfl
  | cons entry rest ih =>
    obtain ⟨k, v⟩ := entry
    rw [List.filter_cons, get?_cons, ← ih]
    by_cases hk : (k == key) = true
    · rw [if_pos (h k hk), get?_cons]
    · rw [if_neg hk]
      split
      · rw [get?_cons, if_neg hk]
      · rfl

/-- A write at a key that is asked for is a write to the entries that are asked for. -/
theorem filter_put {p : κ → Bool} {key : κ} (h : ∀ k, (k == key) = true → p k = true)
    (hkey : p key = true) (table : Table κ α) (value : α) :
    (table.put key value).filter (fun entry => p entry.1) =
      put (table.filter fun entry => p entry.1) key value := by
  induction table with
  | nil => simp [put, hkey]
  | cons entry rest ih =>
    obtain ⟨k, v⟩ := entry
    by_cases hk : (k == key) = true
    · simp [put, hk, h k hk]
    · rw [put, if_neg hk, List.filter_cons, List.filter_cons, ih]
      split
      · rw [put, if_neg hk]
      · rfl

/-- A write at a key that is not asked for leaves the entries that are asked for. -/
theorem filter_put_of_not {p : κ → Bool} {key : κ} (h : ∀ k, (k == key) = true → p k = false)
    (hkey : p key = false) (table : Table κ α) (value : α) :
    (table.put key value).filter (fun entry => p entry.1) =
      table.filter fun entry => p entry.1 := by
  induction table with
  | nil => simp [put, hkey]
  | cons entry rest ih =>
    obtain ⟨k, v⟩ := entry
    rw [put]
    by_cases hk : (k == key) = true
    · simp [hk, h k hk]
    · rw [if_neg hk, List.filter_cons, List.filter_cons, ih]

/-- Several writes at keys that are asked for. -/
theorem filter_putAll {p : κ → Bool} {writes : Table κ α}
    (h : ∀ key ∈ writes.keys, p key = true ∧ ∀ k, (k == key) = true → p k = true)
    (table : Table κ α) : (table.putAll writes).filter (fun entry => p entry.1) =
      putAll (table.filter fun entry => p entry.1) writes := by
  induction writes generalizing table with
  | nil => rfl
  | cons write rest ih =>
    obtain ⟨k, v⟩ := write
    obtain ⟨hkey, hequal⟩ := h k (List.mem_cons_self ..)
    rw [putAll_cons, putAll_cons, ih fun key hmem => h key (List.mem_cons_of_mem _ hmem),
      filter_put hequal hkey]

theorem mem_keys_put {table : Table κ α} {key other : κ} {value : α}
    (h : other ∈ (table.put key value).keys) : other ∈ table.keys ∨ other = key := by
  induction table with
  | nil => simpa [put] using h
  | cons entry rest ih =>
    obtain ⟨k, v⟩ := entry
    rw [put] at h
    split at h
    · exact Or.inl h
    · rcases List.mem_cons.mp h with rfl | hrest
      · exact Or.inl (by simp)
      · exact (ih hrest).imp_left (List.mem_cons_of_mem _)

theorem mem_keys_putAll {table writes : Table κ α} {key : κ}
    (h : key ∈ (table.putAll writes).keys) : key ∈ table.keys ∨ key ∈ writes.keys := by
  induction writes generalizing table with
  | nil => exact Or.inl h
  | cons write rest ih =>
    obtain ⟨k, v⟩ := write
    rcases ih h with hput | hrest
    · rcases mem_keys_put hput with hkey | rfl
      · exact Or.inl hkey
      · exact Or.inr (by simp)
    · exact Or.inr (List.mem_cons_of_mem _ hrest)

theorem mem_keys_put_of_mem {table : Table κ α} {key : κ} (h : key ∈ table.keys) (k : κ)
    (value : α) : key ∈ (table.put k value).keys := by
  induction table with
  | nil => simp at h
  | cons entry rest ih =>
    obtain ⟨k', v⟩ := entry
    rw [put]
    split
    · exact h
    · rcases List.mem_cons.mp h with rfl | hrest
      · exact List.mem_cons_self ..
      · exact List.mem_cons_of_mem _ (ih hrest)

theorem mem_keys_putAll_of_mem {table : Table κ α} {key : κ} (h : key ∈ table.keys)
    (writes : List (κ × α)) : key ∈ (table.putAll writes).keys := by
  induction writes generalizing table with
  | nil => exact h
  | cons write rest ih => exact ih (mem_keys_put_of_mem h _ _)

/-- After a write there is an entry at the key, or at one that equals it. -/
theorem exists_mem_keys_put (table : Table κ α) (key : κ) (value : α) :
    ∃ k ∈ (table.put key value).keys, k = key ∨ (k == key) = true := by
  induction table with
  | nil => exact ⟨key, by simp [put], Or.inl rfl⟩
  | cons entry rest ih =>
    obtain ⟨k, v⟩ := entry
    rw [put]
    split
    · next heq => exact ⟨k, by simp, Or.inr heq⟩
    · obtain ⟨k', hmem, hk'⟩ := ih
      exact ⟨k', List.mem_cons_of_mem _ hmem, hk'⟩

theorem get?_map_snd (f : α → β) (table : Table κ α) (key : κ) :
    get? (table.map fun (k, v) => (k, f v)) key = (table.get? key).map f := by
  induction table with
  | nil => rfl
  | cons entry rest ih =>
    obtain ⟨k, v⟩ := entry
    simp only [List.map_cons, get?_cons, ih]
    split <;> rfl

theorem mem_of_get?_cons {table : Table κ α} {key : κ} {value : α}
    (h : table.get? key = some value) : ∃ k, (k == key) = true ∧ (k, value) ∈ table := by
  induction table with
  | nil => simp at h
  | cons entry rest ih =>
    obtain ⟨k, v⟩ := entry
    rw [get?_cons] at h
    split at h
    · next hk => exact ⟨k, hk, by simp_all⟩
    · obtain ⟨k', hk', hmem⟩ := ih h
      exact ⟨k', hk', List.mem_cons_of_mem _ hmem⟩

/-- Tables that go side by side have entries at the same keys. -/
theorem get?_of_forall₂ {R : κ × α → κ × β → Prop} {s : Table κ α} {t : Table κ β}
    (h : List.Forall₂ (fun a b => b.1 = a.1 ∧ R a b) s t) (key : κ) :
    s.get? key = none ∧ t.get? key = none ∨
      ∃ k a b, (k == key) = true ∧ s.get? key = some a ∧ t.get? key = some b ∧
        R (k, a) (k, b) := by
  induction h with
  | nil => exact Or.inl ⟨rfl, rfl⟩
  | @cons x y xs ys head _ ih =>
    obtain ⟨k, a⟩ := x
    obtain ⟨k', b⟩ := y
    obtain ⟨rfl, hR⟩ := head
    rw [get?_cons, get?_cons]
    split
    · next heq => exact Or.inr ⟨_, a, b, heq, rfl, rfl, hR⟩
    · exact ih

end Equality

section Lawful

variable [BEq κ] [LawfulBEq κ]

/-! ### Reading -/

theorem mem_of_get? {table : Table κ α} {key : κ} {value : α}
    (h : table.get? key = some value) : (key, value) ∈ table := by
  obtain ⟨k, hk, hmem⟩ := mem_of_get?_cons h
  rwa [eq_of_beq hk] at hmem

theorem get?_eq_none_iff {table : Table κ α} {key : κ} :
    table.get? key = none ↔ key ∉ table.keys := by
  induction table with
  | nil => simp
  | cons entry rest ih =>
    obtain ⟨k, v⟩ := entry
    by_cases h : k = key
    · simp [get?_cons, h]
    · simp [get?_cons, h, ih, Ne.symm h]

theorem contains_iff {table : Table κ α} {key : κ} :
    table.contains key = true ↔ key ∈ table.keys := by
  rw [contains, Option.isSome_iff_ne_none, ne_eq, get?_eq_none_iff, not_not]

theorem mem_keys_of_get? {table : Table κ α} {key : κ} {value : α}
    (h : table.get? key = some value) : key ∈ table.keys :=
  mem_keys_of_mem (mem_of_get? h)

theorem get?_of_mem {table : Table κ α} {key : κ} {value : α} (hd : table.keys.Nodup)
    (h : (key, value) ∈ table) : table.get? key = some value := by
  induction table with
  | nil => simp at h
  | cons entry rest ih =>
    obtain ⟨k, v⟩ := entry
    rw [keys_cons, List.nodup_cons] at hd
    rcases List.mem_cons.mp h with heq | hmem
    · obtain ⟨rfl, rfl⟩ := Prod.mk.inj heq
      simp [get?_cons]
    · have hne : k ≠ key := by
        rintro rfl
        exact hd.1 (mem_keys_of_mem hmem)
      simpa [get?_cons, hne] using ih hd.2 hmem

/-! ### Writing -/

theorem put_of_not_mem {table : Table κ α} {key : κ} (h : key ∉ table.keys) (value : α) :
    table.put key value = table ++ [(key, value)] := by
  induction table with
  | nil => rfl
  | cons entry rest ih =>
    obtain ⟨k, v⟩ := entry
    simp only [keys_cons, List.mem_cons, not_or] at h
    simp [put, Ne.symm h.1, ih h.2]

theorem keys_put_of_mem {table : Table κ α} {key : κ} (h : key ∈ table.keys) (value : α) :
    (table.put key value).keys = table.keys := by
  induction table with
  | nil => simp at h
  | cons entry rest ih =>
    obtain ⟨k, v⟩ := entry
    by_cases hk : k = key
    · simp [put, hk]
    · have hrest : key ∈ keys rest := by simpa [Ne.symm hk] using h
      simp [put, hk, ih hrest]

theorem nodup_keys_put {table : Table κ α} (h : table.keys.Nodup) (key : κ) (value : α) :
    (table.put key value).keys.Nodup := by
  by_cases hk : key ∈ table.keys
  · rwa [keys_put_of_mem hk]
  · rw [put_of_not_mem hk, keys_append, List.nodup_append]
    refine ⟨h, by simp, fun a ha b hb => ?_⟩
    rw [keys_cons, keys_nil, List.mem_singleton] at hb
    rintro rfl
    exact hk (hb ▸ ha)

theorem nodup_keys_putAll {table : Table κ α} (h : table.keys.Nodup) (writes : List (κ × α)) :
    (table.putAll writes).keys.Nodup := by
  induction writes generalizing table with
  | nil => exact h
  | cons write rest ih => exact ih (nodup_keys_put h _ _)

/-- Several writes at new and different keys add their entries at the end. -/
theorem putAll_of_disjoint {table : Table κ α} {writes : Table κ α} (hd : writes.keys.Nodup)
    (h : ∀ key ∈ writes.keys, key ∉ table.keys) : table.putAll writes = table ++ writes := by
  induction writes generalizing table with
  | nil => simp
  | cons write rest ih =>
    obtain ⟨k, v⟩ := write
    rw [keys_cons, List.nodup_cons] at hd
    rw [putAll_cons, put_of_not_mem (h k (by simp)), ih hd.2]
    · simp
    · intro key hkey
      have hne : key ≠ k := by
        rintro rfl
        exact hd.1 hkey
      simpa [hne] using h key (by simp [hkey])

/-- A table with different keys is the table of its own entries. -/
theorem ofList_eq_self {table : Table κ α} (h : table.keys.Nodup) : ofList table = table :=
  putAll_of_disjoint h (by simp)

@[simp] theorem put_put (table : Table κ α) (key : κ) (old value : α) :
    (table.put key old).put key value = table.put key value := by
  induction table with
  | nil => simp [put]
  | cons entry rest ih =>
    obtain ⟨k, v⟩ := entry
    by_cases hk : k = key <;> simp [put, hk, ih]

/-- Writing at a key that is there does not depend on whether another key is written first. -/
theorem put_comm {table : Table κ α} {key other : κ} (h : key ∈ table.keys) (hne : other ≠ key)
    (value w : α) : (table.put other w).put key value = (table.put key value).put other w := by
  induction table with
  | nil => simp at h
  | cons entry rest ih =>
    obtain ⟨k, v⟩ := entry
    by_cases hk : k = key
    · subst hk
      simp [put, Ne.symm hne]
    · have hrest : key ∈ keys rest := by simpa [Ne.symm hk] using h
      by_cases ho : k = other
      · subst ho
        simp [put, hne]
      · simp [put, hk, ho, ih hrest]

/-- Writing at a key that is there, before several writes at other keys or after them. -/
theorem put_putAll {table : Table κ α} {writes : Table κ α} {key : κ} (h : key ∈ table.keys)
    (hfree : key ∉ writes.keys) (value : α) :
    (table.putAll writes).put key value = (table.put key value).putAll writes := by
  induction writes generalizing table with
  | nil => rfl
  | cons write rest ih =>
    obtain ⟨k, v⟩ := write
    rw [keys_cons, List.mem_cons, not_or] at hfree
    rw [putAll_cons, putAll_cons, ih (mem_keys_put_of_mem h k v) hfree.2,
      put_comm h (Ne.symm hfree.1)]

theorem exists_keys_putAll (table : Table κ α) (writes : List (κ × α)) :
    ∃ new, (table.putAll writes).keys = table.keys ++ new := by
  induction writes generalizing table with
  | nil => exact ⟨[], by simp⟩
  | cons write rest ih =>
    obtain ⟨k, v⟩ := write
    obtain ⟨new, hnew⟩ := ih (table.put k v)
    rw [putAll_cons, hnew]
    by_cases hk : k ∈ table.keys
    · exact ⟨new, by rw [keys_put_of_mem hk]⟩
    · exact ⟨k :: new, by simp [put_of_not_mem hk]⟩

/-- Writes at keys that are there add no keys. -/
theorem keys_putAll_of_subset {table : Table κ α} {writes : Table κ α}
    (h : ∀ key ∈ writes.keys, key ∈ table.keys) : (table.putAll writes).keys = table.keys := by
  induction writes generalizing table with
  | nil => rfl
  | cons write rest ih =>
    obtain ⟨k, v⟩ := write
    have hput : (table.put k v).keys = table.keys := keys_put_of_mem (h k (by simp)) v
    rw [putAll_cons, ih, hput]
    intro key hkey
    rw [hput]
    exact h key (List.mem_cons_of_mem _ hkey)

/-- A table is known by its keys in order and by what is read at them. -/
theorem eq_of_keys_eq {s t : Table κ α} (hkeys : s.keys = t.keys) (hd : t.keys.Nodup)
    (h : ∀ entry ∈ s, t.get? entry.1 = some entry.2) : s = t := by
  induction s generalizing t with
  | nil => exact (List.map_eq_nil_iff.mp hkeys.symm).symm
  | cons entry rest ih =>
    obtain ⟨k, v⟩ := entry
    cases t with
    | nil => simp at hkeys
    | cons other others =>
      obtain ⟨k', v'⟩ := other
      rw [keys_cons, keys_cons, List.cons.injEq] at hkeys
      obtain ⟨rfl, hrest⟩ := hkeys
      rw [keys_cons, List.nodup_cons, ← hrest] at hd
      have hv : v' = v := by simpa [get?_cons] using h (k, v) (List.mem_cons_self ..)
      rw [hv, ih hrest (hrest ▸ hd.2)]
      intro entry hentry
      have hne : k ≠ entry.1 := by
        rintro rfl
        exact hd.1 (List.mem_map_of_mem hentry)
      simpa [get?_cons, hne] using h entry (List.mem_cons_of_mem _ hentry)

/-- **Reading after several writes** at different keys: what was written, or else what was there. -/
theorem get?_putAll {table : Table κ α} {writes : Table κ α} (hd : writes.keys.Nodup) (key : κ) :
    (table.putAll writes).get? key = (writes.get? key).or (table.get? key) := by
  induction writes generalizing table with
  | nil => simp
  | cons write rest ih =>
    obtain ⟨k, v⟩ := write
    rw [keys_cons, List.nodup_cons] at hd
    rw [putAll_cons, ih hd.2, get?_cons]
    by_cases hk : k = key
    · subst hk
      rw [get?_put_self, get?_eq_none_iff.mpr hd.1]
      simp
    · rw [get?_put_of_ne _ _ hk]
      simp [hk]

/-- Writes at other keys leave what is read. -/
theorem get?_putAll_of_not_mem {table : Table κ α} {writes : Table κ α} {key : κ}
    (h : key ∉ writes.keys) : (table.putAll writes).get? key = table.get? key := by
  induction writes generalizing table with
  | nil => rfl
  | cons write rest ih =>
    obtain ⟨k, v⟩ := write
    rw [keys_cons, List.mem_cons, not_or] at h
    rw [putAll_cons, ih h.2, get?_put_of_ne _ _ (Ne.symm h.1)]

/-- Of several writes at a key the last one is left. -/
theorem get?_ofList_append_cons {first last : List (κ × α)} {key : κ} {value : α}
    (h : key ∉ keys last) : (ofList (first ++ (key, value) :: last)).get? key = some value := by
  rw [ofList, putAll_append, putAll_cons, get?_putAll_of_not_mem h, get?_put_self]

/-- What is written at a key is one of the values that are given for it. -/
theorem exists_get?_ofList {writes : Table κ α} {key : κ} (h : key ∈ writes.keys) :
    ∃ value, (key, value) ∈ writes ∧ (ofList writes).get? key = some value := by
  suffices ∀ table : Table κ α, ∃ value, (key, value) ∈ writes ∧
      (table.putAll writes).get? key = some value from this []
  induction writes with
  | nil => simp at h
  | cons write rest ih =>
    obtain ⟨k, v⟩ := write
    intro table
    rw [putAll_cons]
    by_cases hrest : key ∈ keys rest
    · obtain ⟨value, hmem, hvalue⟩ := ih hrest (table.put k v)
      exact ⟨value, List.mem_cons_of_mem _ hmem, hvalue⟩
    · obtain rfl : key = k := by simpa [hrest] using h
      exact ⟨v, List.mem_cons_self .., by rw [get?_putAll_of_not_mem hrest, get?_put_self]⟩

theorem mem_of_get?_ofList {writes : Table κ α} {key : κ} {value : α}
    (h : (ofList writes).get? key = some value) : (key, value) ∈ writes := by
  have hkey : key ∈ writes.keys := (mem_keys_putAll (mem_keys_of_get? h)).resolve_left (by simp)
  obtain ⟨written, hmem, hwritten⟩ := exists_get?_ofList hkey
  rw [hwritten] at h
  rwa [Option.some.inj h] at hmem

/-- Writing what is there changes nothing. -/
theorem put_eq_self {table : Table κ α} {key : κ} {value : α} (h : table.get? key = some value) :
    table.put key value = table := by
  induction table with
  | nil => simp at h
  | cons entry rest ih =>
    obtain ⟨k, v⟩ := entry
    rw [get?_cons] at h
    by_cases hk : k = key
    · simp_all [put]
    · simp_all [put]

theorem putAll_eq_self {table writes : Table κ α}
    (h : ∀ write ∈ writes, table.get? write.1 = some write.2) : table.putAll writes = table := by
  induction writes with
  | nil => rfl
  | cons write rest ih =>
    obtain ⟨k, v⟩ := write
    rw [putAll_cons, put_eq_self (h (k, v) (List.mem_cons_self ..))]
    exact ih fun write hmem => h write (List.mem_cons_of_mem _ hmem)

/-! ### Order -/

theorem get?_eq_some_iff {table : Table κ α} (hd : table.keys.Nodup) {key : κ} {value : α} :
    table.get? key = some value ↔ (key, value) ∈ table :=
  ⟨mem_of_get?, get?_of_mem hd⟩

/-- The order of the entries does not matter for reading. -/
theorem get?_of_perm {s t : Table κ α} (h : s.Perm t) (hd : t.keys.Nodup) (key : κ) :
    s.get? key = t.get? key := by
  have hs : s.keys.Nodup := (h.map _).nodup_iff.mpr hd
  ext value
  rw [get?_eq_some_iff hs, get?_eq_some_iff hd, h.mem_iff]

/-- Tables that are read alike have the same entries, up to their order. -/
theorem perm_of_get?_eq {s t : Table κ α} (hs : s.keys.Nodup) (ht : t.keys.Nodup)
    (h : ∀ key, s.get? key = t.get? key) : s.Perm t := by
  rw [List.perm_ext_iff_of_nodup (List.Nodup.of_map _ hs) (List.Nodup.of_map _ ht)]
  rintro ⟨key, value⟩
  rw [← get?_eq_some_iff hs, ← get?_eq_some_iff ht, h]

/-- **Writes at different keys can be made in any order.** -/
theorem putAll_perm {table writes other : Table κ α} (h : writes.Perm other)
    (hd : other.keys.Nodup) (htable : table.keys.Nodup) :
    (table.putAll writes).Perm (table.putAll other) := by
  refine perm_of_get?_eq (nodup_keys_putAll htable _) (nodup_keys_putAll htable _) fun key => ?_
  rw [get?_putAll ((h.map _).nodup_iff.mpr hd), get?_putAll hd, get?_of_perm h hd]

/-- A table that reads like another one, and whose keys go on after the keys of that one, has the
entries of that one and then entries with nothing in them. -/
theorem exists_append_of_getD_eq {s t : Table κ α} {new : List κ} (nothing : α)
    (hkeys : s.keys = t.keys ++ new) (hd : s.keys.Nodup)
    (hread : ∀ key, (s.get? key).getD nothing = (t.get? key).getD nothing) :
    ∃ absent, (∀ entry ∈ absent, entry.2 = nothing) ∧ s = t ++ absent := by
  obtain ⟨kept, absent, rfl, hkept, habsent⟩ := List.map_eq_append_iff.mp hkeys
  have hentry : ∀ entry ∈ kept ++ absent, entry.2 = (t.get? entry.1).getD nothing := by
    intro entry hmem
    rw [← hread, get?_of_mem hd hmem]
    rfl
  rw [hkeys, List.nodup_append] at hd
  refine ⟨absent, fun entry hmem => ?_, ?_⟩
  · have hnew : entry.1 ∉ t.keys := fun hthere =>
      hd.2.2 _ hthere _ (habsent ▸ List.mem_map_of_mem hmem) rfl
    rw [hentry entry (List.mem_append_right _ hmem), get?_eq_none_iff.mpr hnew]
    rfl
  · rw [eq_of_keys_eq hkept hd.1]
    intro entry hmem
    obtain ⟨value, hvalue⟩ := mem_keys_iff.mp (hkept ▸ List.mem_map_of_mem hmem)
    rw [hentry entry (List.mem_append_left _ hmem), get?_of_mem hd.1 hvalue]
    rfl

end Lawful

end ArgRules.Table
