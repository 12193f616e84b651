/-!
# Dictionaries in key order

A `Dict α` is a list of named entries kept in ascending order of name (by code
point). Reading takes the first entry of a name, writing keeps the order, and so
two dictionaries written through `insert` list the same names in the same order.

* `get?_insert_self`, `get?_insert_of_ne`: **what was written is read back, and
  nothing else moves**.
* `get?_erase_self`, `get?_erase_of_ne`: the same for removal.
-/

namespace ServiceLoom

/-- Named entries in ascending order of name. -/
abbrev Dict (α : Type) := List (String × α)

namespace Dict

variable {α : Type}

/-- The value stored under a name. -/
def get? : Dict α → String → Option α
  | [], _ => none
  | (k, v) :: rest, key => if k = key then some v else get? rest key

/-- Whether a name has an entry. -/
def contains (d : Dict α) (key : String) : Bool := (d.get? key).isSome

/-- Writes an entry, replacing the one of the same name. -/
def insert : Dict α → String → α → Dict α
  | [], key, value => [(key, value)]
  | (k, v) :: rest, key, value =>
    if k < key then (k, v) :: insert rest key value
    else if k = key then (key, value) :: rest
    else (key, value) :: (k, v) :: rest

/-- Removes the entries of a name. -/
def erase (d : Dict α) (key : String) : Dict α := d.filter (·.1 ≠ key)

/-- Writes every entry of `patch` over `base`. -/
def merge (base patch : Dict α) : Dict α :=
  patch.foldl (fun d e => d.insert e.1 e.2) base

/-- The dictionary that results from writing the entries one after the other. -/
def ofEntries (entries : List (String × α)) : Dict α := merge [] entries

/-- The names, in order. -/
def keys (d : Dict α) : List String := d.map (·.1)

@[simp] theorem get?_nil (key : String) : get? ([] : Dict α) key = none := rfl

@[simp] theorem get?_insert_self (d : Dict α) (key : String) (value : α) :
    (d.insert key value).get? key = some value := by
  induction d with
  | nil => simp [insert, get?]
  | cons e rest ih =>
    obtain ⟨k, v⟩ := e
    by_cases hlt : k < key
    · have hne : k ≠ key := fun h => absurd (h ▸ hlt) (String.lt_irrefl key)
      simp [insert, hlt, get?, hne, ih]
    · by_cases heq : k = key <;> simp [insert, hlt, heq, get?]

theorem get?_insert_of_ne (d : Dict α) {key other : String} (value : α)
    (h : other ≠ key) : (d.insert key value).get? other = d.get? other := by
  induction d with
  | nil => simp [insert, get?, h.symm]
  | cons e rest ih =>
    obtain ⟨k, v⟩ := e
    by_cases hlt : k < key
    · simp [insert, hlt, get?, ih]
    · by_cases heq : k = key
      · subst heq; simp [insert, get?, h.symm]
      · simp [insert, hlt, heq, get?, h.symm]

@[simp] theorem get?_erase_self (d : Dict α) (key : String) :
    (d.erase key).get? key = none := by
  induction d with
  | nil => rfl
  | cons e rest ih =>
    obtain ⟨k, v⟩ := e
    by_cases h : k = key
    · simpa [erase, h] using ih
    · simpa [erase, h, get?] using ih

theorem get?_erase_of_ne (d : Dict α) {key other : String} (h : other ≠ key) :
    (d.erase key).get? other = d.get? other := by
  induction d with
  | nil => rfl
  | cons e rest ih =>
    obtain ⟨k, v⟩ := e
    by_cases hk : k = key
    · subst hk
      simp only [get?, h.symm, if_false]
      simpa [erase] using ih
    · simp only [erase, get?, List.filter, ne_eq, hk,
        not_false_eq_true, decide_true]
      split
      · rfl
      · simpa [erase] using ih

end Dict

end ServiceLoom
