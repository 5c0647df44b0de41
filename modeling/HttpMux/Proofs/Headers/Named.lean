import HttpMux.Proofs.Headers

/-!
# `HttpMux.Proofs.Headers.Named`: the headers of one name

Headers are kept under the exact spelling of their names, so one name can have several headers, one
for each spelling. Look-up takes the first of them, and so does removal. Nothing here asks for one
spelling only.

* `named`: the headers of one name, whatever its spelling.
* `value?_eq` and `spelling?_eq`: look-up finds the first of them.
* `named_without`: removal takes the first of them away, so none is left exactly if there was at
  most one (`named_without_eq_nil_iff`).
* `others_without` and `others_set`: removing and setting a header leave all headers of other names.
* `IsSet` and `isSet_set`: a header that is set is there, and it is the only one of its name if
  there was at most one before.
-/

set_option autoImplicit false

namespace HttpMux

/-! ### Entries of dictionaries -/

namespace Dict

variable {α : Type} {k : String}

/-- An entry that was inserted is there. -/
theorem mem_insertEntry_self (k : String) (v : α) (es : List (String × α)) :
    (k, v) ∈ insertEntry k v es := by
  induction es with
  | nil => exact List.mem_singleton.mpr rfl
  | cons e es ih =>
    rw [insertEntry]
    split
    · exact List.mem_cons_self
    · split
      · exact List.mem_cons_self
      · exact List.mem_cons_of_mem e ih

/-- Among the keys that satisfy `p`, an insertion under another key is not seen. -/
theorem filter_insertEntry {p : String → Bool} (hk : p k = false) (v : α)
    (es : List (String × α)) :
    ((insertEntry k v es).filter fun e => p e.1) = es.filter fun e => p e.1 := by
  induction es with
  | nil => simp [insertEntry, hk]
  | cons e es ih =>
    rw [insertEntry]
    split
    · -- The entry replaces one with the same key.
      rename_i heq
      simp [hk, ← heq]
    · split
      · rw [List.filter_cons_of_neg (by simp [hk])]
      · rw [List.filter_cons, List.filter_cons, ih]

end Dict

namespace Headers

open Text

variable {h : Headers} {name : String}

/-! ### Look-up -/

/-- The headers of one name, whatever its spelling. -/
def named (name : String) (h : Headers) : List (String × String) :=
  h.entries.filter fun e => lower e.1 = lower name

/-- A header is one of the name if it is there and its own name is a spelling of it. -/
theorem mem_named_iff {e : String × String} :
    e ∈ named name h ↔ e ∈ h.entries ∧ lower e.1 = lower name := by
  rw [named, List.mem_filter, decide_eq_true_iff]

/-- Look-up goes through the headers in order, and compares names without regard to case. -/
theorem find?_sameName (h : Headers) (name : String) :
    (h.entries.find? fun e => sameName e.1 name) = (named name h).head? := by
  rw [named, List.head?_filter]
  congr
  funext e
  rw [Bool.eq_iff_iff, sameName_iff, decide_eq_true_iff]

/-- The spelling that look-up finds is that of the first header of the name. -/
theorem spelling?_eq (h : Headers) (name : String) :
    h.spelling? name = (named name h).head?.map Prod.fst := by
  rw [← find?_sameName, spelling?, Dict.findKey?, Dict.keys, List.find?_map]
  rfl

/-- If there is a first header that agrees with the name, it is the first under its own key. -/
theorem lookup_spelling (es : List (String × String)) (name : String) :
    ((es.map Prod.fst).find? fun k => sameName k name).bind (fun k => Dict.lookup k es)
      = (es.find? fun e => sameName e.1 name).map Prod.snd := by
  -- The first header of the name may stand behind others, so the two searches are compared header
  -- by header.
  induction es with
  | nil => rfl
  | cons e es ih =>
    rw [List.map_cons, List.find?_cons, List.find?_cons]
    cases hname : sameName e.1 name with
    | true => simp [Dict.lookup]
    | false =>
      -- What is found further back has another key than this header.
      have hlookup : ∀ k, sameName k name = true → Dict.lookup k (e :: es) = Dict.lookup k es := by
        intro k hk
        refine if_neg ?_
        rintro rfl
        rw [hname] at hk
        cases hk
      rw [← ih]
      cases hfind : (es.map Prod.fst).find? fun k => sameName k name with
      | none => rfl
      | some k =>
        exact hlookup k (List.find?_some (p := fun k => sameName k name) hfind)

/-- The value that look-up finds is that of the first header of the name. -/
theorem value?_eq (h : Headers) (name : String) :
    h.value? name = (named name h).head?.map Prod.snd := by
  rw [← find?_sameName, ← lookup_spelling]
  rfl

/-- A name is there if there is a header of it. -/
theorem has_iff_named : h.has name = true ↔ named name h ≠ [] := by
  rw [has, spelling?_eq, Option.isSome_map, List.isSome_head?]

/-- Without a header of the name, look-up finds nothing. -/
theorem value?_of_named_eq_nil (hnone : named name h = []) : h.value? name = none := by
  rw [value?_eq, hnone]
  rfl

/-- With one header of the name, look-up finds its value. -/
theorem value?_of_named_eq_singleton {k v : String} (hone : named name h = [(k, v)]) :
    h.value? name = some v := by
  rw [value?_eq, hone]
  rfl

/-- If there is at most one header of a name, look-up finds its value and no other. -/
theorem value?_eq_some_iff (hone : (named name h).length ≤ 1) {v : String} :
    h.value? name = some v ↔ ∃ e ∈ h.entries, lower e.1 = lower name ∧ e.2 = v := by
  have hmem : (∃ e ∈ h.entries, lower e.1 = lower name ∧ e.2 = v)
      ↔ ∃ e ∈ named name h, e.2 = v := by
    simp only [mem_named_iff, and_assoc]
  rw [value?_eq, hmem]
  match named name h, hone with
  | [], _ => simp
  | [e], _ => simp

/-! ### Other names -/

/-- The headers of a name are among the others of a name that does not agree with it. -/
theorem named_eq_filter_others {other : String} (hne : lower other ≠ lower name) :
    named other h = (others name h).filter fun e => lower e.1 = lower other := by
  rw [others, List.filter_filter, named]
  refine List.filter_congr fun e _ => ?_
  by_cases he : lower e.1 = lower other
  · simp [he, hne]
  · simp [he]

/-- Taking away a key leaves all headers of other names than its own. -/
theorem others_erase {k : String} (hk : lower k = lower name) :
    others name (h.erase k) = others name h := by
  rw [others, Dict.erase, List.filter_filter, others]
  refine List.filter_congr fun e _ => ?_
  by_cases he : e.1 = k
  · simp [he, hk]
  · simp [he]

/-- Removing a header leaves all headers of other names. -/
theorem others_without (h : Headers) (name : String) :
    others name (h.without name) = others name h := by
  rw [without]
  cases hk : h.spelling? name with
  | none => rfl
  | some k => exact others_erase (of_spelling?_eq_some hk).2

/-- Setting a header leaves all headers of other names. -/
theorem others_set (h : Headers) (name value : String) :
    others name (h.set name value) = others name h := by
  rw [← others_without h name]
  exact Dict.filter_insertEntry (p := fun k => lower k ≠ lower name) (by simp) value _

/-- Removing a header leaves the headers of every other name. -/
theorem named_without_of_ne {other : String} (hne : lower other ≠ lower name) :
    named other (h.without name) = named other h := by
  rw [named_eq_filter_others hne, others_without, ← named_eq_filter_others hne]

/-- Setting a header leaves the headers of every other name. -/
theorem named_set_of_ne {other : String} (hne : lower other ≠ lower name) (value : String) :
    named other (h.set name value) = named other h := by
  rw [named_eq_filter_others hne, others_set, ← named_eq_filter_others hne]

/-! ### The name itself -/

/-- A removal takes away the first header of the name. -/
theorem named_without (hkeys : h.entries.Pairwise (·.1 ≠ ·.1)) (name : String) :
    named name (h.without name) = (named name h).tail := by
  rw [without, spelling?_eq]
  cases hfirst : named name h with
  | nil => exact hfirst
  | cons e es =>
    -- Keys differ, so taking away the key of the first header of the name takes away no other one.
    have hrest : ∀ e' ∈ es, e'.1 ≠ e.1 := by
      have hpairwise := hkeys.sublist (List.filter_sublist (p := fun e => lower e.1 = lower name))
      rw [← named, hfirst] at hpairwise
      exact fun e' he' => ((List.pairwise_cons.mp hpairwise).1 e' he').symm
    have herase : named name (h.erase e.1) = (named name h).filter (·.1 ≠ e.1) := by
      rw [named, Dict.erase, named, List.filter_comm]
    show named name (h.erase e.1) = es
    rw [herase, hfirst, List.filter_cons_of_neg (by simp), List.filter_eq_self]
    simpa using hrest

/-- After a removal no header of the name is left exactly if there was at most one. -/
theorem named_without_eq_nil_iff (hkeys : h.entries.Pairwise (·.1 ≠ ·.1)) :
    named name (h.without name) = [] ↔ (named name h).length ≤ 1 := by
  rw [named_without hkeys, ← List.length_eq_zero_iff, List.length_tail]
  omega

/-- If there is at most one header of a name, a removal leaves none. -/
theorem named_without_of_length_le (hone : (named name h).length ≤ 1) :
    named name (h.without name) = [] := by
  rw [without, spelling?_eq]
  cases hfirst : named name h with
  | nil => exact hfirst
  | cons e es =>
    obtain rfl : es = [] := by
      rw [hfirst, List.length_cons] at hone
      exact List.length_eq_zero_iff.mp (by omega)
    show named name (h.erase e.1) = []
    rw [named, Dict.erase, List.filter_comm, ← named, hfirst]
    simp

/-- A header that was set is there as it was set. -/
theorem mem_set (h : Headers) (name value : String) :
    (name, value) ∈ (h.set name value).entries :=
  Dict.mem_insertEntry_self name value _

/-- A header that is set is the only one of its name, if there was at most one. -/
theorem named_set (hone : (named name h).length ≤ 1) (value : String) :
    named name (h.set name value) = [(name, value)] := by
  have hnone := named_without_of_length_le hone
  -- After the removal no spelling is left, so the insertion replaces nothing.
  have hnew : ∀ e ∈ (h.without name).entries, name ≠ e.1 := by
    rintro e he rfl
    have hmem : e ∈ named e.1 (h.without e.1) := mem_named_iff.mpr ⟨he, rfl⟩
    rw [hnone] at hmem
    cases hmem
  have hperm : (named name (h.set name value)).Perm
      (((name, value) :: (h.without name).entries).filter fun e => lower e.1 = lower name) :=
    (Dict.perm_insertEntry hnew value).filter _
  rw [List.filter_cons_of_pos (by simp), ← named, hnone] at hperm
  exact hperm.eq_singleton

/-- A header was set: it is there, and it is the only one of its name if there was at most one. -/
structure IsSet (name value : String) (before after : Headers) : Prop where
  mem : (name, value) ∈ named name after
  only : (named name before).length ≤ 1 → named name after = [(name, value)]

/-- Setting a header sets it. -/
theorem isSet_set (h : Headers) (name value : String) : IsSet name value h (h.set name value) where
  mem := mem_named_iff.mpr ⟨mem_set h name value, rfl⟩
  only hone := named_set hone value

/-- What happens to other names before and after does not matter. -/
theorem IsSet.congr {value : String} {before after before' after' : Headers}
    (hset : IsSet name value before after) (hbefore : named name before' = named name before)
    (hafter : named name after' = named name after) : IsSet name value before' after' where
  mem := hafter ▸ hset.mem
  only hone := hafter.trans (hset.only (hbefore ▸ hone))

end Headers

end HttpMux
