/-!
# Ordered tables

A table is a list of keys with their values in the order in which the keys were first written.
Writing to a key that is there changes its value and not its place.

## The lookup contract

`get?` answers by the first entry with an equal key, `put` changes that entry or adds one at the
end, `erase` removes every entry with an equal key. Which keys are equal is the key type's own
decision: the tables of this library have names as keys, or values, which have an equality of their
own.

## Main definitions

* `Table` — the tables
* `Table.get?`, `Table.put`, `Table.erase`, `Table.keys` — reading and writing
* `Table.ofList` — the table of a list of writes
-/

namespace ArgRules

/-- Keys with their values, in the order of the first write. -/
abbrev Table (κ α : Type) := List (κ × α)

namespace Table

variable {κ α : Type} [BEq κ]

/-- The value at a key. -/
def get? : Table κ α → κ → Option α
  | [], _ => none
  | (k, v) :: rest, key => if k == key then some v else get? rest key

/-- Writes a value at a key. -/
def put : Table κ α → κ → α → Table κ α
  | [], key, value => [(key, value)]
  | (k, v) :: rest, key, value =>
    if k == key then (k, value) :: rest else (k, v) :: put rest key value

/-- Removes a key. -/
def erase (table : Table κ α) (key : κ) : Table κ α := table.filter fun entry => !(entry.1 == key)

/-- The keys in order. -/
def keys (table : Table κ α) : List κ := table.map (·.1)

/-- Whether a key has a value. -/
def contains (table : Table κ α) (key : κ) : Bool := (table.get? key).isSome

/-- Makes several writes, from left to right. -/
def putAll (table : Table κ α) (writes : List (κ × α)) : Table κ α :=
  writes.foldl (fun t (k, v) => t.put k v) table

/-- The table of a list of writes. -/
def ofList (writes : List (κ × α)) : Table κ α := putAll [] writes

@[simp] theorem get?_nil (key : κ) : get? ([] : Table κ α) key = none := rfl

@[simp] theorem putAll_nil (table : Table κ α) : table.putAll [] = table := rfl

@[simp] theorem putAll_cons (table : Table κ α) (k : κ) (v : α) (rest : List (κ × α)) :
    table.putAll ((k, v) :: rest) = (table.put k v).putAll rest := rfl

section Lawful

variable [LawfulBEq κ]

@[simp] theorem get?_put_self (table : Table κ α) (key : κ) (value : α) :
    (table.put key value).get? key = some value := by
  induction table with
  | nil => simp [put, get?]
  | cons entry rest ih =>
    obtain ⟨k, v⟩ := entry
    by_cases h : k = key <;> simp [put, get?, h, ih]

theorem get?_put_of_ne (table : Table κ α) {key other : κ} (value : α) (h : key ≠ other) :
    (table.put key value).get? other = table.get? other := by
  induction table with
  | nil => simp [put, get?, h]
  | cons entry rest ih =>
    obtain ⟨k, v⟩ := entry
    by_cases hk : k = key
    · subst hk; simp [put, get?, h]
    · simp [put, get?, hk, ih]

end Lawful

end Table

end ArgRules
