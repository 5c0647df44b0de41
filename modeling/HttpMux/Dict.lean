/-!
# `HttpMux.Dict`: dictionaries with text keys, kept sorted

A dictionary is a list of entries in ascending order of their keys. Strings are ordered by code
points, which is the order of their UTF-8 bytes. Equal contents are therefore equal values, and
printing the entries in order prints them sorted.

- `Dict.get?_insert`: what insertion does to look-up.
- `Dict.get?_erase`: what removal does to look-up.
-/

set_option autoImplicit false

namespace HttpMux

/-- A dictionary from texts to values; its operations keep the entries sorted by key. -/
structure Dict (α : Type) where
  entries : List (String × α)
  deriving BEq, Inhabited

namespace Dict

variable {α β : Type}

/-- The dictionary without entries. -/
def empty : Dict α := ⟨[]⟩

/-- Whether there is no entry. -/
def isEmpty (d : Dict α) : Bool := d.entries.isEmpty

/-- The number of entries. -/
def size (d : Dict α) : Nat := d.entries.length

/-- The keys in ascending order. -/
def keys (d : Dict α) : List String := d.entries.map Prod.fst

/-- The value under a key in a list of entries: that of the first entry with the key. -/
def lookup (k : String) : List (String × α) → Option α
  | [] => none
  | (k', v) :: es => if k = k' then some v else lookup k es

/-- Puts an entry in front of the first greater key, in place of an entry with the same key. -/
def insertEntry (k : String) (v : α) : List (String × α) → List (String × α)
  | [] => [(k, v)]
  | (k', v') :: es =>
    if k = k' then (k, v) :: es
    else if k < k' then (k, v) :: (k', v') :: es
    else (k', v') :: insertEntry k v es

/-- The value under a key, if there is one. -/
def get? (d : Dict α) (k : String) : Option α := lookup k d.entries

/-- Whether there is an entry under the key. -/
def contains (d : Dict α) (k : String) : Bool := (d.get? k).isSome

/-- Sets the value under a key. -/
def insert (d : Dict α) (k : String) (v : α) : Dict α := ⟨insertEntry k v d.entries⟩

/-- Removes the entry under a key, if there is one. -/
def erase (d : Dict α) (k : String) : Dict α := ⟨d.entries.filter (·.1 ≠ k)⟩

/-- The first key that satisfies `p`. -/
def findKey? (d : Dict α) (p : String → Bool) : Option String := d.keys.find? p

/-- The dictionary of the pairs; a later pair replaces an earlier one with the same key. -/
def ofList (es : List (String × α)) : Dict α :=
  es.foldl (fun d (k, v) => d.insert k v) empty

/-- Adds every entry of `extra`, which wins over an entry of `d` with the same key. -/
def extend (d extra : Dict α) : Dict α :=
  extra.entries.foldl (fun d (k, v) => d.insert k v) d

/-- The dictionary with every value changed by `f`. -/
def map (f : String → α → β) (d : Dict α) : Dict β :=
  ⟨d.entries.map fun (k, v) => (k, f k v)⟩

/-! ### Look-up after a change -/

/-- An entry that is put into a list is found under its key, and the other keys are as before. -/
theorem lookup_insertEntry (k j : String) (v : α) (es : List (String × α)) :
    lookup j (insertEntry k v es) = if j = k then some v else lookup j es := by
  induction es with
  | nil => simp [insertEntry, lookup]
  | cons e es ih =>
    obtain ⟨k', v'⟩ := e
    unfold insertEntry
    split
    · subst k'; simp only [lookup]; split <;> rfl
    · split <;> simp only [lookup]
      rw [ih]; split <;> split <;> simp_all

/-- Insertion changes look-up under its key only. -/
theorem get?_insert (d : Dict α) (k j : String) (v : α) :
    (d.insert k v).get? j = if j = k then some v else d.get? j :=
  lookup_insertEntry k j v d.entries

/-- Without the entries of a key nothing is found under it, and the other keys are as before. -/
theorem lookup_filter_ne (k j : String) (es : List (String × α)) :
    lookup j (es.filter (·.1 ≠ k)) = if j = k then none else lookup j es := by
  induction es with
  | nil => simp [lookup]
  | cons e es ih =>
    obtain ⟨k', v'⟩ := e
    by_cases h : k' = k <;> by_cases hj : j = k' <;> simp_all [lookup]

/-- Removal changes look-up under its key only. -/
theorem get?_erase (d : Dict α) (k j : String) :
    (d.erase k).get? j = if j = k then none else d.get? j :=
  lookup_filter_ne k j d.entries

end Dict

end HttpMux
