import ArgRules.Value.Equality
import ArgRules.Proofs.Table

/-!
# Maps with texts as keys

The keys of a map are values, and their equality is not lawful: not-a-number does not equal itself.
Among texts it is. A map whose keys are texts can therefore be read as a table of names, and reading
and writing the map is reading and writing that table.

## Main definitions

* `TextKeyed` — the keys of a map are texts, each another one
* `Table.named` — the entries of a map under the names that their keys are
* `Table.outside` — the entries of a map whose names are not hidden

## Main results

* `Table.get?_named`, `Table.named_put` — reading and writing by name
* `TextKeyed.putAll` — writing at texts keeps the keys texts
* `Table.outside_put`, `Table.outside_put_of_hidden` — writing, seen from outside
-/

namespace ArgRules

/-! ### Texts as keys -/

/-- The values that are texts: the texts themselves and the modes. -/
theorem Value.eq_of_asText? {key : Value} {name : String} (h : key.asText? = some name) :
    key = text name ∨ ∃ m, key = mode m ∧ name = m.name := by
  cases key with
  | text s => exact Or.inl (congrArg text (Option.some.inj h))
  | mode m => exact Or.inr ⟨m, rfl, (Option.some.inj h).symm⟩
  | _ => contradiction

/-- A key equals a text exactly if it is that text. -/
theorem Value.beq_iff_of_asText? {key other : Value} {name : String}
    (h : other.asText? = some name) : (key == other) = true ↔ key.asText? = some name := by
  rcases eq_of_asText? h with rfl | ⟨m, rfl, rfl⟩ <;> cases key <;>
    simp [BEq.beq, same, sameAtom, asText?, asMap?, extent?, asBytes?]

/-- Equal keys are the same text, or neither is a text. -/
theorem Value.asText?_eq_of_beq {key other : Value} (h : (key == other) = true) :
    key.asText? = other.asText? := by
  cases hother : other.asText? with
  | some name => exact (beq_iff_of_asText? hother).mp h
  | none =>
    cases key <;> simp only [asText?] <;> cases other <;>
      simp_all [BEq.beq, same, sameAtom, asText?, extent?, asBytes?]

theorem Value.beq_text_iff {key : Value} {name : String} :
    (key == text name) = true ↔ key.asText? = some name :=
  beq_iff_of_asText? rfl

namespace Table

variable {α β : Type}

/-- The entries of a map under the names that their keys are. -/
def named (table : Table Value α) : Table String α :=
  table.filterMap fun (key, value) => key.asText?.map (·, value)

@[simp] theorem named_nil : named ([] : Table Value α) = [] := rfl

theorem named_cons_of_text {key : Value} {name : String} (h : key.asText? = some name) (value : α)
    (rest : Table Value α) : named ((key, value) :: rest) = (name, value) :: named rest := by
  simp [named, h]

theorem named_cons_of_none {key : Value} (h : key.asText? = none) (value : α)
    (rest : Table Value α) : named ((key, value) :: rest) = named rest := by
  simp [named, h]

theorem named_map_snd (f : α → β) (table : Table Value α) :
    named (table.map fun (key, value) => (key, f value)) =
      table.named.map fun (name, value) => (name, f value) := by
  induction table with
  | nil => rfl
  | cons entry rest ih =>
    obtain ⟨key, value⟩ := entry
    cases h : key.asText? with
    | none => simp [named_cons_of_none h, ih]
    | some name => simp [named_cons_of_text h, ih]

theorem mem_named {table : Table Value α} {name : String} {value : α} :
    (name, value) ∈ table.named ↔ ∃ key, key.asText? = some name ∧ (key, value) ∈ table := by
  simp only [named, List.mem_filterMap, Option.map_eq_some_iff, Prod.mk.injEq, Prod.exists]
  constructor
  · rintro ⟨key, v, hmem, s, hs, rfl, rfl⟩
    exact ⟨key, hs, hmem⟩
  · rintro ⟨key, hs, hmem⟩
    exact ⟨key, value, hmem, name, hs, rfl, rfl⟩

/-- **Reading by name.** Keys that are no texts do not stand in the way. -/
theorem get?_named {key : Value} {name : String} (h : key.asText? = some name)
    (table : Table Value α) : table.named.get? name = table.get? key := by
  induction table with
  | nil => rfl
  | cons entry rest ih =>
    obtain ⟨k, v⟩ := entry
    rw [get?_cons]
    cases hk : k.asText? with
    | none =>
      rw [named_cons_of_none hk, if_neg (by simp [Value.beq_iff_of_asText? h, hk]), ih]
    | some s =>
      rw [named_cons_of_text hk, get?_cons, ih]
      simp only [Value.beq_iff_of_asText? h, hk, Option.some.injEq, beq_iff_eq]

theorem get?_named_text (table : Table Value α) (name : String) :
    table.named.get? name = table.get? (.text name) :=
  get?_named rfl table

/-- **Writing by name.** -/
theorem named_put {key : Value} {name : String} (h : key.asText? = some name)
    (table : Table Value α) (value : α) :
    (table.put key value).named = table.named.put name value := by
  induction table with
  | nil => simp [put, named_cons_of_text h]
  | cons entry rest ih =>
    obtain ⟨k, v⟩ := entry
    rw [put]
    cases hk : k.asText? with
    | none =>
      rw [if_neg (by simp [Value.beq_iff_of_asText? h, hk]), named_cons_of_none hk,
        named_cons_of_none hk, ih]
    | some s =>
      simp only [Value.beq_iff_of_asText? h, hk, Option.some.injEq]
      split
      · next hs => simp [named_cons_of_text hk, put, hs]
      · next hs => simp [named_cons_of_text hk, put, hs, ih]

theorem keys_named (table : Table Value α) :
    table.named.keys = table.keys.filterMap Value.asText? := by
  induction table with
  | nil => rfl
  | cons entry rest ih =>
    obtain ⟨key, value⟩ := entry
    cases h : key.asText? with
    | none => simp [named_cons_of_none h, ih, h]
    | some name => simp [named_cons_of_text h, ih, h]

/-- Writing several times by name. -/
theorem named_putAll {writes : Table Value α}
    (h : ∀ key ∈ writes.keys, ∃ name, key.asText? = some name) (table : Table Value α) :
    (table.putAll writes).named = table.named.putAll writes.named := by
  induction writes generalizing table with
  | nil => rfl
  | cons write rest ih =>
    obtain ⟨key, value⟩ := write
    obtain ⟨name, hname⟩ := h key (mem_keys_of_mem (List.mem_cons_self ..))
    rw [putAll_cons, ih fun k hk => h k (List.mem_cons_of_mem _ hk), named_put hname,
      named_cons_of_text hname, putAll_cons]

end Table

/-! ### Maps with texts as keys -/

/-- The keys of a map are texts, each another one. -/
structure TextKeyed {α : Type} (table : Table Value α) : Prop where
  isText : ∀ key ∈ table.keys, ∃ name, key.asText? = some name
  distinct : table.named.keys.Nodup

namespace TextKeyed

variable {α : Type} {table : Table Value α}

theorem nil : TextKeyed ([] : Table Value α) := ⟨by simp, by simp⟩

theorem tail {entry : Value × α} {rest : Table Value α} (h : TextKeyed (entry :: rest)) :
    TextKeyed rest := by
  obtain ⟨key, value⟩ := entry
  obtain ⟨name, hname⟩ := h.isText key (by simp)
  have hd := h.distinct
  rw [Table.named_cons_of_text hname, Table.keys_cons, List.nodup_cons] at hd
  exact ⟨fun k hk => h.isText k (List.mem_cons_of_mem _ hk), hd.2⟩

/-- The first key is a text, and no other key is the same text. -/
theorem head {key : Value} {value : α} {rest : Table Value α}
    (h : TextKeyed ((key, value) :: rest)) :
    ∃ name, key.asText? = some name ∧ name ∉ rest.named.keys := by
  obtain ⟨name, hname⟩ := h.isText key (by simp)
  have hd := h.distinct
  rw [Table.named_cons_of_text hname, Table.keys_cons, List.nodup_cons] at hd
  exact ⟨name, hname, hd.1⟩

/-- A map has as many entries as names. -/
theorem length_named (h : TextKeyed table) : table.named.length = table.length := by
  induction table with
  | nil => rfl
  | cons entry rest ih =>
    obtain ⟨key, value⟩ := entry
    obtain ⟨name, hname, -⟩ := h.head
    rw [Table.named_cons_of_text hname, List.length_cons, List.length_cons, ih h.tail]

/-- A map with fewer keys. -/
theorem of_keys_sublist {β : Type} {other : Table Value β} (h : TextKeyed table)
    (hsub : other.keys.Sublist table.keys) : TextKeyed other := by
  refine ⟨fun key hkey => h.isText key (hsub.subset hkey), ?_⟩
  rw [Table.keys_named]
  exact (Table.keys_named table ▸ h.distinct).sublist (hsub.filterMap _)

/-- A map with the same keys in another order. -/
theorem of_keys_perm {β : Type} {other : Table Value β} (h : TextKeyed table)
    (hperm : other.keys.Perm table.keys) : TextKeyed other := by
  refine ⟨fun key hkey => h.isText key (hperm.subset hkey), ?_⟩
  rw [Table.keys_named]
  exact (hperm.filterMap _).nodup_iff.mpr (Table.keys_named table ▸ h.distinct)

/-- The order of the entries does not matter for reading at texts. -/
theorem get?_of_perm {other : Table Value α} (h : TextKeyed table) (hperm : other.Perm table)
    {key : Value} {name : String} (hname : key.asText? = some name) :
    other.get? key = table.get? key := by
  rw [← Table.get?_named hname, ← Table.get?_named hname]
  exact Table.get?_of_perm (hperm.filterMap _) h.distinct name

/-- The keys of two parts of a map are different texts. -/
theorem disjoint_of_append {first second : Table Value α} (h : TextKeyed (first ++ second)) :
    first.named.keys.Disjoint second.named.keys := by
  have hd := h.distinct
  rw [Table.named, List.filterMap_append, Table.keys_append] at hd
  exact List.disjoint_of_nodup_append hd

/-- Writing at texts. -/
theorem putAll {writes : Table Value α} (h : TextKeyed table)
    (hwrites : ∀ key ∈ writes.keys, ∃ name, key.asText? = some name) :
    TextKeyed (table.putAll writes) := by
  refine ⟨fun key hkey => ?_, ?_⟩
  · rcases Table.mem_keys_putAll hkey with hkey | hkey
    · exact h.isText key hkey
    · exact hwrites key hkey
  · rw [Table.named_putAll hwrites]
    exact Table.nodup_keys_putAll h.distinct _

end TextKeyed

/-! ### The entries outside some names -/

namespace Table

variable {α : Type} {hidden : String → Bool} {key : Value}

/-- The entries of a map whose names are not hidden. Keys that are no texts have no name, and they
are not hidden. -/
def outside (hidden : String → Bool) (table : Table Value α) : Table Value α :=
  table.filter fun entry => !entry.1.asText?.any hidden

theorem get?_outside (h : key.asText?.any hidden = false) (table : Table Value α) :
    (table.outside hidden).get? key = table.get? key :=
  get?_filter_key (p := fun k : Value => !k.asText?.any hidden)
    (fun k hk => by rw [Value.asText?_eq_of_beq hk, h, Bool.not_false]) table

/-- A write outside is a write to the entries outside. -/
theorem outside_put (h : key.asText?.any hidden = false) (table : Table Value α) (value : α) :
    (table.put key value).outside hidden = (table.outside hidden).put key value :=
  filter_put (p := fun k : Value => !k.asText?.any hidden)
    (fun k hk => by rw [Value.asText?_eq_of_beq hk, h, Bool.not_false])
    (by rw [h, Bool.not_false]) table value

/-- A write at a hidden name is not seen from outside. -/
theorem outside_put_of_hidden (h : key.asText?.any hidden = true) (table : Table Value α)
    (value : α) : (table.put key value).outside hidden = table.outside hidden :=
  filter_put_of_not (p := fun k : Value => !k.asText?.any hidden)
    (fun k hk => by rw [Value.asText?_eq_of_beq hk, h, Bool.not_true])
    (by rw [h, Bool.not_true]) table value

theorem named_outside (hidden : String → Bool) (table : Table Value α) :
    (table.outside hidden).named = table.named.filter fun entry => !hidden entry.1 := by
  induction table with
  | nil => rfl
  | cons entry rest ih =>
    obtain ⟨k, v⟩ := entry
    rw [outside, List.filter_cons, ← outside]
    cases hk : k.asText? with
    | none => simp [named_cons_of_none hk, ih]
    | some name => cases hh : hidden name <;> simp [named_cons_of_text hk, hh, ih]

end Table

end ArgRules
