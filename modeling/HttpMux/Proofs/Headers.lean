import HttpMux.Headers
import HttpMux.Proofs.Dict
import Mathlib.Data.List.Nodup

/-!
# `HttpMux.Proofs.Headers`: headers as a map whose keys have no case

Headers are kept under the exact spelling of their names, and look-up takes the first name that
agrees up to case. As long as no two names agree up to case, there is only one to take, and the
headers are a map from names in small letters to values.

* `OneSpelling`: no two names agree up to case.
* `OneSpelling.set` and `OneSpelling.without`: setting and removing keep it so.
* `OneSpelling.perm_set` and `OneSpelling.entries_without`: which headers there are afterwards.
* `folded`: the headers under their names in small letters. There, setting a header is an insertion
  (`OneSpelling.folded_set`), removing it is a removal (`OneSpelling.folded_without`), and looking
  it up is a look-up (`OneSpelling.get?_folded`).
-/

set_option autoImplicit false

namespace HttpMux.Headers

open Text

variable {h : Headers}

/-- No two names agree up to the case of ASCII letters. -/
def OneSpelling (h : Headers) : Prop := (h.entries.map fun e => lower e.1).Nodup

/-- Without headers no name is spelled twice. -/
theorem oneSpelling_empty : OneSpelling Dict.empty := List.nodup_nil

/-- The headers without those of one name, whatever its spelling. -/
def others (name : String) (h : Headers) : List (String × String) :=
  h.entries.filter fun e => lower e.1 ≠ lower name

/-- A header is one of another name if it is there and its own name is no spelling of this one. -/
theorem mem_others_iff {name : String} {e : String × String} :
    e ∈ others name h ↔ e ∈ h.entries ∧ lower e.1 ≠ lower name := by
  rw [others, List.mem_filter, decide_eq_true_iff]

/-- A stored spelling is the name of a header, and it agrees with the name that is looked for. -/
theorem of_spelling?_eq_some {name k : String} (hk : h.spelling? name = some k) :
    (∃ v, (k, v) ∈ h.entries) ∧ lower k = lower name := by
  have hname : sameName k name = true := List.find?_some (p := fun k => sameName k name) hk
  obtain ⟨e, he, rfl⟩ := List.mem_map.mp (List.mem_of_find?_eq_some hk)
  exact ⟨⟨e.2, he⟩, sameName_iff.mp hname⟩

/-- A name is not found only if no header has it. -/
theorem of_spelling?_eq_none {name : String} (hk : h.spelling? name = none)
    {e : String × String} (he : e ∈ h.entries) : lower e.1 ≠ lower name := fun hname =>
  List.find?_eq_none.mp hk e.1 (List.mem_map_of_mem he) (sameName_iff.mpr hname)

namespace OneSpelling

/-- Two headers whose names agree up to case are the same header. -/
theorem eq_of_lower_eq (hh : h.OneSpelling) {e e' : String × String} (he : e ∈ h.entries)
    (he' : e' ∈ h.entries) (hname : lower e.1 = lower e'.1) : e = e' :=
  List.inj_on_of_nodup_map hh he he' hname

/-- No name occurs twice. -/
theorem names_ne (hh : h.OneSpelling) : h.entries.Pairwise (·.1 ≠ ·.1) :=
  List.Pairwise.imp (fun hne heq => hne (congrArg lower heq)) (List.pairwise_map.mp hh)

/-- A header is found under its exact name if it is there. -/
theorem get?_eq_some_iff (hh : h.OneSpelling) {k v : String} :
    h.get? k = some v ↔ (k, v) ∈ h.entries :=
  Dict.lookup_eq_some_iff hh.names_ne

/-! ### Look-up -/

/-- Whichever header agrees with a name, its spelling is the one that look-up finds. -/
theorem spelling?_eq_some (hh : h.OneSpelling) {e : String × String} (he : e ∈ h.entries)
    {name : String} (hname : lower e.1 = lower name) : h.spelling? name = some e.1 := by
  -- Look-up finds some header of the name, and there is only one.
  cases hk : h.spelling? name with
  | none => exact absurd hname (of_spelling?_eq_none hk he)
  | some k =>
    obtain ⟨⟨v, hv⟩, hlower⟩ := of_spelling?_eq_some hk
    rw [hh.eq_of_lower_eq he hv (hname.trans hlower.symm)]

/-- A value is found under a name exactly if a header has both, in any spelling of the name. -/
theorem value?_eq_some_iff (hh : h.OneSpelling) {name v : String} :
    h.value? name = some v ↔ ∃ e ∈ h.entries, lower e.1 = lower name ∧ e.2 = v := by
  rw [value?, Option.bind_eq_some_iff]
  constructor
  · rintro ⟨k, hk, hv⟩
    exact ⟨(k, v), hh.get?_eq_some_iff.mp hv, (of_spelling?_eq_some hk).2, rfl⟩
  · rintro ⟨e, he, hname, rfl⟩
    exact ⟨e.1, hh.spelling?_eq_some he hname, hh.get?_eq_some_iff.mpr he⟩

/-! ### Setting and removing -/

/-- Removing a header removes it under any spelling, and nothing else. -/
theorem entries_without (hh : h.OneSpelling) (name : String) :
    (h.without name).entries = others name h := by
  rw [without, others]
  cases hk : h.spelling? name with
  | none =>
    refine (List.filter_eq_self.mpr fun e he => ?_).symm
    exact decide_eq_true (of_spelling?_eq_none hk he)
  | some k =>
    obtain ⟨⟨v, hv⟩, hlower⟩ := of_spelling?_eq_some hk
    refine List.filter_congr fun e he => decide_eq_decide.mpr (not_congr ⟨?_, fun hname => ?_⟩)
    · rintro rfl
      exact hlower
    · rw [hh.eq_of_lower_eq he hv (hname.trans hlower.symm)]

/-- Removing a header leaves one spelling for each name. -/
theorem without (hh : h.OneSpelling) (name : String) : (h.without name).OneSpelling := by
  rw [OneSpelling, hh.entries_without]
  exact hh.sublist (List.filter_sublist.map _)

/-- Setting a header leaves the others, and adds it in the spelling given. -/
theorem perm_set (hh : h.OneSpelling) (name value : String) :
    (h.set name value).entries.Perm ((name, value) :: others name h) := by
  have hnew : ∀ e ∈ (h.without name).entries, name ≠ e.1 := by
    rw [hh.entries_without]
    rintro e he rfl
    exact (mem_others_iff.mp he).2 rfl
  rw [← hh.entries_without]
  exact Dict.perm_insertEntry hnew value

/-- Setting a header leaves one spelling for each name. -/
theorem set (hh : h.OneSpelling) (name value : String) : (h.set name value).OneSpelling := by
  -- The headers of other names do not have this one, in whatever spelling.
  have hnew : lower name ∉ (others name h).map fun e => lower e.1 := by
    rw [List.mem_map]
    rintro ⟨e, he, hname⟩
    exact (mem_others_iff.mp he).2 hname
  refine ((hh.perm_set name value).map _).nodup_iff.mpr (List.nodup_cons.mpr ⟨hnew, ?_⟩)
  exact hh.sublist (List.filter_sublist.map _)

end OneSpelling

/-! ### Names in small letters -/

/-- A header under its name in small letters. -/
def foldName (e : String × String) : String × String := (lower e.1, e.2)

/-- The headers under their names in small letters. -/
def folded (h : Headers) : Headers := Dict.ofList (h.entries.map foldName)

/-- The headers under their names in small letters are sorted by these. -/
theorem sorted_folded (h : Headers) : h.folded.Sorted := Dict.sorted_ofList _

namespace OneSpelling

/-- With one spelling for each name, the headers under their names in small letters are the headers
themselves, in another order: no two of them get one name. -/
theorem perm_folded (hh : h.OneSpelling) : h.folded.entries.Perm (h.entries.map foldName) :=
  Dict.perm_ofList (List.pairwise_map.mpr (List.pairwise_map.mp hh))

/-- Looking a header up is looking it up under its name in small letters. -/
theorem get?_folded (hh : h.OneSpelling) (name : String) :
    h.folded.get? (lower name) = h.value? name := by
  ext v
  rw [h.sorted_folded.get?_eq_some_iff, hh.perm_folded.mem_iff, List.mem_map,
    hh.value?_eq_some_iff]
  simp only [foldName, Prod.mk.injEq]

/-- Removing a header is removing it under its name in small letters. -/
theorem folded_without (hh : h.OneSpelling) (name : String) :
    (h.without name).folded = h.folded.erase (lower name) := by
  refine Dict.ofList_eq_of_perm (h.sorted_folded.erase _) ?_
  have hothers : (others name h).map foldName
      = (h.entries.map foldName).filter fun e => e.1 ≠ lower name := by
    rw [List.filter_map]
    rfl
  rw [hh.entries_without, hothers]
  exact (hh.perm_folded.filter _).symm

/-- Setting a header is inserting it under its name in small letters. -/
theorem folded_set (hh : h.OneSpelling) (name value : String) :
    (h.set name value).folded = h.folded.insert (lower name) value := by
  -- Setting removes first, so the insertion is of a name that the other headers do not have.
  rw [← h.sorted_folded.insert_erase, ← hh.folded_without]
  refine Dict.ofList_eq_of_perm ((sorted_folded _).insert _ _) ?_
  have hnew : ∀ e ∈ (h.without name).folded.entries, lower name ≠ e.1 := by
    rw [hh.folded_without]
    intro e he hname
    have hne : e.1 ≠ lower name := by simpa using (List.mem_filter.mp he).2
    exact hne hname.symm
  calc (h.set name value).entries.map foldName
    _ |>.Perm (((name, value) :: others name h).map foldName) := (hh.perm_set name value).map _
    _ |>.Perm ((lower name, value) :: (h.without name).folded.entries) := by
      rw [List.map_cons, ← hh.entries_without]
      exact (hh.without name).perm_folded.symm.cons _
    _ |>.Perm ((h.without name).folded.insert (lower name) value).entries :=
      (Dict.perm_insertEntry hnew value).symm

end OneSpelling

end HttpMux.Headers
