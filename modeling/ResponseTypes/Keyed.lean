/-!
# Entries under unique keys, in order of first arrival

An object of a JSON document, a table of a configuration and the type tables of this library all
keep their entries in the order in which the keys first came, and let a later value replace an
earlier one in its place.

## Main definitions

- `Keyed`: a list of keys with their values.
- `Keyed.get?`, `Keyed.insert`: look up and replace-or-append.
- `Keyed.ofList`: insertion of a whole list, one entry after the other.
-/

namespace ResponseTypes

/-- Entries in order.  The operations of this module keep keys unique. -/
abbrev Keyed (α : Type) := List (String × α)

namespace Keyed

variable {α : Type}

/-- The value under a key. -/
def get? : Keyed α → String → Option α
  | [], _ => none
  | (k, v) :: rest, key => if k = key then some v else get? rest key

/-- Whether a key has a value. -/
def contains (entries : Keyed α) (key : String) : Bool :=
  (entries.get? key).isSome

/-- A value under a key: in the key's place if it has one, else at the end. -/
def insert : Keyed α → String → α → Keyed α
  | [], key, value => [(key, value)]
  | (k, v) :: rest, key, value =>
    if k = key then (k, value) :: rest else (k, v) :: insert rest key value

/-- The keys in order. -/
def keys (entries : Keyed α) : List String :=
  entries.map (·.1)

/-- The values in order. -/
def values (entries : Keyed α) : List α :=
  entries.map (·.2)

/-- Insertion of entries one after the other into what is there. -/
def insertAll (entries : Keyed α) (more : List (String × α)) : Keyed α :=
  more.foldl (fun acc (key, value) => acc.insert key value) entries

/-- The entries of a list, a repeated key keeping its first place and its last value. -/
def ofList (more : List (String × α)) : Keyed α :=
  insertAll [] more

/-! ## What an insertion changes -/

@[simp]
theorem get?_nil (key : String) : get? ([] : Keyed α) key = none := rfl

@[simp]
theorem get?_insert_self (entries : Keyed α) (key : String) (value : α) :
    (entries.insert key value).get? key = some value := by
  induction entries with
  | nil => simp [insert, get?]
  | cons e rest ih =>
    by_cases h : e.1 = key <;> simp [insert, get?, h, ih]

@[simp]
theorem get?_insert_of_ne (entries : Keyed α) {key other : String} (value : α)
    (h : other ≠ key) : (entries.insert key value).get? other = entries.get? other := by
  induction entries with
  | nil => simp [insert, get?, Ne.symm h]
  | cons e rest ih =>
    by_cases hk : e.1 = key
    · simp [insert, get?, hk, Ne.symm h]
    · by_cases ho : e.1 = other <;> simp_all [insert, get?]

/-- An insertion adds its key at the end, unless the key is there. -/
theorem keys_insert (entries : Keyed α) (key : String) (value : α) :
    (entries.insert key value).keys =
      if key ∈ entries.keys then entries.keys else entries.keys ++ [key] := by
  induction entries with
  | nil => simp [insert, keys]
  | cons e rest ih =>
    by_cases h : e.1 = key
    · simp [insert, keys, h]
    · have ih' := ih
      simp only [keys] at ih'
      simp only [insert, h, if_false, keys, List.map_cons, ih', List.mem_cons]
      by_cases m : key ∈ List.map (·.1) rest <;> simp [m, Ne.symm h]

theorem nodup_keys_insert (entries : Keyed α) (key : String) (value : α)
    (h : entries.keys.Nodup) : (entries.insert key value).keys.Nodup := by
  rw [keys_insert]
  split
  · exact h
  · rename_i fresh
    exact List.nodup_append.2 ⟨h, by simp, by
      intro a ha b hb same
      simp only [List.mem_singleton] at hb
      exact fresh (hb ▸ same ▸ ha)⟩

/-- A list of entries gives every key once. -/
theorem nodup_keys_ofList (more : List (String × α)) : (ofList more).keys.Nodup := by
  suffices h : ∀ entries : Keyed α, entries.keys.Nodup → (insertAll entries more).keys.Nodup from
    h [] List.nodup_nil
  induction more with
  | nil => exact fun _ h => h
  | cons e rest ih => exact fun entries h => ih _ (nodup_keys_insert entries e.1 e.2 h)

end Keyed
end ResponseTypes
