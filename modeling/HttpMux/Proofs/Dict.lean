import HttpMux.Context
import Mathlib.Data.String.Basic

/-!
# `HttpMux.Proofs.Dict`: dictionaries stay sorted, and look-up after merging

* `Dict.Sorted`: the keys ascend strictly. Every dictionary made by insertions is sorted.
* `Dict.ofList_eq_of_perm`: a sorted dictionary can be made from its entries in any order.
* `Dict.Sorted.ext`: sorted dictionaries are equal if look-up finds the same in both.
* `Dict.get?_map` and `Dict.mem_keys_iff`: what changing every value does to look-up, and which keys
  there are.
* `Dict.get?_extend`: what merging two dictionaries does to look-up.
* `Context.value?_withValue` and `Context.withValue_withValue`: environment values that are set.
* `Context.param?_withParams`: new URL parameters win over those of the same name.
-/

set_option autoImplicit false

namespace HttpMux

namespace Dict

variable {α : Type}

/-! ### Order of the keys -/

/-- The keys of the dictionary ascend strictly. -/
def Sorted (d : Dict α) : Prop := d.entries.Pairwise (·.1 < ·.1)

/-- An empty dictionary is sorted. -/
theorem sorted_empty : (empty : Dict α).Sorted := List.Pairwise.nil

/-- A new entry is all that an insertion adds. -/
theorem mem_insertEntry {k : String} {v : α} {es : List (String × α)} {e : String × α}
    (h : e ∈ insertEntry k v es) : e = (k, v) ∨ e ∈ es := by
  induction es with
  | nil => exact .inl (List.mem_singleton.mp h)
  | cons e' es ih =>
    rw [insertEntry] at h
    split at h
    · rcases List.mem_cons.mp h with h | h
      · exact .inl h
      · exact .inr (List.mem_cons_of_mem e' h)
    · split at h
      · exact List.mem_cons.mp h
      · rcases List.mem_cons.mp h with h | h
        · exact .inr (h ▸ List.mem_cons_self)
        · exact (ih h).imp_right (List.mem_cons_of_mem e')

/-- An insertion leaves the keys ascending. -/
theorem pairwise_insertEntry {es : List (String × α)} (h : es.Pairwise (·.1 < ·.1)) (k : String)
    (v : α) : (insertEntry k v es).Pairwise (·.1 < ·.1) := by
  induction es with
  | nil => exact List.pairwise_singleton _ _
  | cons e es ih =>
    obtain ⟨hhead, htail⟩ := List.pairwise_cons.mp h
    rw [insertEntry]
    split
    · -- The entry replaces one with the same key.
      rename_i heq
      exact List.pairwise_cons.mpr ⟨fun x hx => heq ▸ hhead x hx, htail⟩
    · split
      · -- The entry goes in front of a greater key, and with it in front of all that follow.
        rename_i hlt
        refine List.pairwise_cons.mpr ⟨fun x hx => ?_, h⟩
        rcases List.mem_cons.mp hx with rfl | hx
        · exact hlt
        · exact hlt.trans (hhead x hx)
      · -- The entry goes further back, behind a smaller key.
        rename_i hne hnlt
        refine List.pairwise_cons.mpr ⟨fun x hx => ?_, ih htail⟩
        rcases mem_insertEntry hx with rfl | hx
        · exact lt_of_le_of_ne (not_lt.mp hnlt) (Ne.symm hne)
        · exact hhead x hx

/-- An insertion keeps a dictionary sorted. -/
theorem Sorted.insert {d : Dict α} (h : d.Sorted) (k : String) (v : α) : (d.insert k v).Sorted :=
  pairwise_insertEntry h k v

/-- Every dictionary made from a list of pairs is sorted. -/
theorem sorted_ofList (es : List (String × α)) : (ofList es).Sorted := by
  rw [ofList]
  exact List.foldlRecOn es _ sorted_empty fun d hd e _ => hd.insert e.1 e.2

/-- Every entry of a dictionary made from a list of pairs is one of the pairs. -/
theorem mem_of_mem_ofList {es : List (String × α)} {e : String × α}
    (h : e ∈ (ofList es).entries) : e ∈ es := by
  -- Said of all entries at once, as the dictionary grows over the pairs.
  have hall : ∀ x ∈ (ofList es).entries, x ∈ es := by
    rw [ofList]
    refine List.foldlRecOn (motive := fun d : Dict α => ∀ x ∈ d.entries, x ∈ es) es _ nofun ?_
    intro d hd e he x hx
    rcases mem_insertEntry hx with rfl | hx
    · exact he
    · exact hd x hx
  exact hall e h

/-- An entry with a new key is added, and nothing else changes. -/
theorem perm_insertEntry {k : String} {es : List (String × α)} (h : ∀ e ∈ es, k ≠ e.1) (v : α) :
    (insertEntry k v es).Perm ((k, v) :: es) := by
  induction es with
  | nil => exact .refl _
  | cons e es ih =>
    rw [insertEntry, if_neg (h e List.mem_cons_self)]
    split
    · exact .refl _
    · exact ((ih fun x hx => h x (List.mem_cons_of_mem e hx)).cons e).trans (.swap ..)

/-- Pairs with keys of their own are added to a dictionary that has none of these keys. -/
theorem perm_foldl_insert {es : List (String × α)} (hes : es.Pairwise (·.1 ≠ ·.1)) {d : Dict α}
    (hd : ∀ e ∈ es, ∀ x ∈ d.entries, e.1 ≠ x.1) :
    (es.foldl (fun d (k, v) => d.insert k v) d).entries.Perm (es ++ d.entries) := by
  -- The dictionary grows by each pair, and the pairs that are left still have keys of their own.
  induction es generalizing d with
  | nil => exact .refl _
  | cons e es ih =>
    obtain ⟨hhead, htail⟩ := List.pairwise_cons.mp hes
    have hinsert : (d.insert e.1 e.2).entries.Perm (e :: d.entries) :=
      perm_insertEntry (hd e List.mem_cons_self) e.2
    have hnew : ∀ x ∈ es, ∀ y ∈ (d.insert e.1 e.2).entries, x.1 ≠ y.1 := by
      intro x hx y hy
      rcases List.mem_cons.mp (hinsert.mem_iff.mp hy) with rfl | hy
      · exact (hhead x hx).symm
      · exact hd x (List.mem_cons_of_mem e hx) y hy
    exact (ih htail hnew).trans ((hinsert.append_left es).trans List.perm_middle)

/-- Pairs with keys of their own are the entries of the dictionary made from them. -/
theorem perm_ofList {es : List (String × α)} (h : es.Pairwise (·.1 ≠ ·.1)) :
    (ofList es).entries.Perm es := by
  have hperm := perm_foldl_insert h (d := empty) nofun
  rwa [show (empty : Dict α).entries = [] from rfl, List.append_nil] at hperm

/-- The entries of a sorted dictionary make the same dictionary in any order. -/
theorem ofList_eq_of_perm {d : Dict α} (hd : d.Sorted) {es : List (String × α)}
    (h : es.Perm d.entries) : ofList es = d := by
  have hkeys : es.Pairwise (·.1 ≠ ·.1) :=
    (h.pairwise_iff Ne.symm).mpr (List.Pairwise.imp ne_of_lt hd)
  have hperm : (ofList es).entries.Perm d.entries := (perm_ofList hkeys).trans h
  -- Two ascending lists with the same members are equal.
  have hentries : (ofList es).entries = d.entries :=
    hperm.eq_of_pairwise (fun a b _ _ hab hba => absurd (hab.trans hba) (lt_irrefl _))
      (sorted_ofList es) hd
  obtain ⟨entries⟩ := d
  exact congrArg Dict.mk hentries

/-- A second insertion under the same key replaces the first one. -/
theorem insertEntry_insertEntry (k : String) (v v' : α) (es : List (String × α)) :
    insertEntry k v' (insertEntry k v es) = insertEntry k v' es := by
  induction es with
  | nil => simp [insertEntry]
  | cons e es ih =>
    rw [insertEntry, insertEntry]
    split
    · simp [insertEntry]
    · split
      · simp [insertEntry]
      · rename_i hne hnlt
        rw [insertEntry, if_neg hne, if_neg hnlt, ih]

/-- Of two values that are inserted under one key, the second one stays. -/
theorem insert_insert (d : Dict α) (k : String) (v v' : α) :
    (d.insert k v).insert k v' = d.insert k v' :=
  congrArg Dict.mk (insertEntry_insertEntry k v v' d.entries)

/-! ### Look-up and entries -/

/-- Look-up finds an entry exactly if it is there, as long as no two have the same key. -/
theorem lookup_eq_some_iff {es : List (String × α)} (h : es.Pairwise (·.1 ≠ ·.1)) {k : String}
    {v : α} : lookup k es = some v ↔ (k, v) ∈ es := by
  induction es with
  | nil => simp [lookup]
  | cons e es ih =>
    obtain ⟨k', v'⟩ := e
    obtain ⟨hhead, htail⟩ := List.pairwise_cons.mp h
    rw [lookup, List.mem_cons, Prod.mk.injEq]
    split
    · rename_i heq
      subst heq
      -- No later entry has this key.
      have hlater : (k, v) ∉ es := fun hmem => hhead _ hmem rfl
      simp [hlater, eq_comm]
    · rename_i hne
      simp [hne, ih htail]

/-- Look-up in a sorted dictionary finds an entry exactly if it is there. -/
theorem Sorted.get?_eq_some_iff {d : Dict α} (h : d.Sorted) {k : String} {v : α} :
    d.get? k = some v ↔ (k, v) ∈ d.entries :=
  lookup_eq_some_iff (List.Pairwise.imp ne_of_lt h)

/-- Sorted dictionaries are equal if look-up finds the same in both. -/
theorem Sorted.ext {d d' : Dict α} (hd : d.Sorted) (hd' : d'.Sorted)
    (h : ∀ k, d.get? k = d'.get? k) : d = d' := by
  -- What look-up finds are the entries, so both have the same, each of them once.
  have hmem : ∀ e, e ∈ d.entries ↔ e ∈ d'.entries := fun e => by
    rw [← hd.get?_eq_some_iff, ← hd'.get?_eq_some_iff, h]
  have hnodup : ∀ {d : Dict α}, d.Sorted → d.entries.Nodup := fun hsorted =>
    List.Pairwise.imp (fun hlt heq => hlt.ne (congrArg Prod.fst heq)) hsorted
  have hperm := (List.perm_ext_iff_of_nodup (hnodup hd) (hnodup hd')).mpr hmem
  rw [← ofList_eq_of_perm hd (.refl _), ← ofList_eq_of_perm hd' hperm]

/-- Taking away a key leaves a dictionary sorted. -/
theorem Sorted.erase {d : Dict α} (h : d.Sorted) (k : String) : (d.erase k).Sorted :=
  List.Pairwise.sublist List.filter_sublist h

/-- An insertion replaces the entry with the same key. -/
theorem Sorted.insert_erase {d : Dict α} (h : d.Sorted) (k : String) (v : α) :
    (d.erase k).insert k v = d.insert k v := by
  refine ((h.erase k).insert k v).ext (h.insert k v) fun j => ?_
  rw [get?_insert, get?_insert, get?_erase]
  split <;> rfl

/-- A sorted dictionary after an insertion: the new entry, and all with another key. -/
theorem Sorted.perm_insert {d : Dict α} (h : d.Sorted) (k : String) (v : α) :
    (d.insert k v).entries.Perm ((k, v) :: d.entries.filter (·.1 ≠ k)) := by
  rw [← h.insert_erase]
  refine perm_insertEntry (fun e he => ?_) v
  exact Ne.symm (of_decide_eq_true (List.mem_filter.mp he).2)

/-! ### Changing every value -/

section Map

variable {β : Type} (f : String → α → β)

/-- Changing values leaves the keys. -/
@[simp]
theorem keys_map (d : Dict α) : (d.map f).keys = d.keys := by
  rw [keys, map, List.map_map, keys]
  rfl

/-- Changing values leaves a dictionary sorted. -/
theorem Sorted.map {d : Dict α} (h : d.Sorted) : (d.map f).Sorted :=
  List.pairwise_map.mpr h

/-- Look-up among changed values finds the changed value. -/
theorem lookup_map (k : String) (es : List (String × α)) :
    lookup k (es.map fun (k, v) => (k, f k v)) = (lookup k es).map (f k) := by
  induction es with
  | nil => rfl
  | cons e es ih =>
    rw [List.map_cons, lookup, lookup, ih]
    split
    · rename_i hk
      rw [← hk]
      rfl
    · rfl

/-- Look-up in a dictionary with changed values finds the changed value. -/
theorem get?_map (d : Dict α) (k : String) : (d.map f).get? k = (d.get? k).map (f k) :=
  lookup_map f k d.entries

end Map

/-- The keys are those under which look-up finds a value. -/
theorem mem_keys_iff {d : Dict α} {k : String} : k ∈ d.keys ↔ (d.get? k).isSome := by
  obtain ⟨es⟩ := d
  show k ∈ es.map Prod.fst ↔ (lookup k es).isSome
  induction es with
  | nil => simp [lookup]
  | cons e es ih =>
    rw [List.map_cons, List.mem_cons, ih, lookup]
    split
    · rename_i hk
      simp [hk]
    · rename_i hk
      simp [hk]

/-! ### Look-up after merging -/

/-- Under a key that all keys of a list are greater than, there is nothing in the list. -/
theorem lookup_eq_none_of_lt {k : String} {es : List (String × α)} (h : ∀ e ∈ es, k < e.1) :
    lookup k es = none := by
  induction es with
  | nil => rfl
  | cons e es ih =>
    rw [lookup, if_neg (h e List.mem_cons_self).ne, ih fun x hx => h x (List.mem_cons_of_mem e hx)]

/-- In a merged dictionary, look-up finds the new entry first, and the old one where there is no
new one. -/
theorem get?_extend {extra : Dict α} (h : extra.Sorted) (d : Dict α) (k : String) :
    (d.extend extra).get? k = (extra.get? k).or (d.get? k) := by
  obtain ⟨es⟩ := extra
  rw [extend, get?]
  show (List.foldl _ d es).get? k = (lookup k es).or (d.get? k)
  induction es generalizing d with
  | nil => rfl
  | cons e es ih =>
    obtain ⟨hhead, htail⟩ := List.pairwise_cons.mp h
    rw [List.foldl_cons, ih _ htail, get?_insert, lookup]
    by_cases hk : k = e.1
    · subst hk
      -- The keys ascend, so no later entry replaces this one.
      rw [lookup_eq_none_of_lt hhead, if_pos rfl, if_pos rfl, Option.none_or, Option.some_or]
    · rw [if_neg hk, if_neg hk]

end Dict

/-- What a context has under a key after a value was set. -/
theorem Context.value?_withValue (c : Context) (key other : String) (v : Json) :
    (c.withValue key v).value? other = if other = key then some v else c.value? other :=
  Dict.get?_insert c.env key other v

/-- Of two values that are set under one key, the second one stays. -/
theorem Context.withValue_withValue (c : Context) (key : String) (v v' : Json) :
    (c.withValue key v).withValue key v' = c.withValue key v' := by
  rw [withValue, withValue, Dict.insert_insert]
  rfl

/-- New URL parameters win over those of the same name, and the others stay. -/
theorem Context.param?_withParams (c : Context) {params : Dict String} (h : params.Sorted)
    (name : String) :
    (c.withParams params).param? name = (params.get? name).or (c.param? name) :=
  Dict.get?_extend h c.params name

end HttpMux
