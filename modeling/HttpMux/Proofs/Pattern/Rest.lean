import HttpMux.Proofs.Pattern.Filling

/-!
# `HttpMux.Proofs.Pattern.Rest`: what an asterisk is bound to

The asterisk of a placeholder pattern is bound to an end of the path.

* `Placeholder.getLast?_of_spelled`: a pattern that ends in a slash has a last literal that does.
* `Placeholder.suffix_of_match?`: the text that the asterisk is bound to.
-/

set_option autoImplicit false

namespace HttpMux.Placeholder

open Bytes (ofText)

/-- If a pattern ends in a slash in front of its asterisk, then so does the last literal, because no
name does. -/
theorem getLast?_of_spelled {slots : List (Slot String)} {last : String}
    (hnames : ∀ s ∈ slots, ofText s.name ≠ [] ∧ slash ∉ ofText s.name)
    (h : (ofText (spelled slots last)).getLast? = some slash) :
    (ofText last).getLast? = some slash := by
  induction slots with
  | nil => rwa [spelled_nil] at h
  | cons s slots ih =>
    obtain ⟨⟨hne, hslash⟩, hlater⟩ := List.forall_mem_cons.mp hnames
    rw [spelled_cons, Bytes.ofText_append, List.getLast?_append, Option.or_eq_some_iff] at h
    rcases h with h | ⟨-, h⟩
    · exact ih hlater h
    · -- The pattern would end in the name.
      rw [Bytes.ofText_append, List.getLast?_append_of_ne_nil _ hne] at h
      exact absurd (List.mem_of_getLast? h) hslash

/-- Names are not empty, and they have no slash in them. -/
theorem name_of_parse {raw : String} {p : Placeholder} (h : parse raw = .ok p) :
    ∀ s ∈ p.slots, ofText s.name ≠ [] ∧ slash ∉ ofText s.name := by
  obtain ⟨-, -, -, hnames, -⟩ := of_parse h
  intro s hs
  have hrun : ofText s.name ∈ runs (ofText (splitRest raw).1) :=
    hnames ▸ List.mem_map_of_mem hs
  refine ⟨((exists_parse_iff raw).mp ⟨p, h⟩).1 _ hrun, fun hslash => ?_⟩
  obtain ⟨rest, hname⟩ := exists_nameOf_of_mem_runs hrun
  have hbreak := not_isBreak_of_mem_nameOf (hname ▸ hslash)
  cases hbreak

/-- What a pattern with an asterisk is read into. -/
theorem of_parse_asterisk {body : String} {p : Placeholder} (h : parse (body ++ "*") = .ok p) :
    p.openEnded = true ∧ Chained p.last p.slots
      ∧ (body.toList.getLast? = some '/' → p.last.toList.getLast? = some '/') := by
  have hsplit : splitRest (body ++ "*") = (body, true) := by
    rw [splitRest, String.toList_append]
    simp
  obtain ⟨-, hopen, hspelled, -, hchained⟩ := of_parse h
  rw [hsplit] at hopen hspelled
  refine ⟨hopen, hchained, fun hslash => ?_⟩
  refine getLast?_eq_slash_iff.mp (getLast?_of_spelled (name_of_parse h) ?_)
  rw [hspelled]
  exact getLast?_eq_slash_iff.mpr hslash

/-- The asterisk of a pattern is bound to an end of the path. If the pattern has a slash in front of
the asterisk, then this end begins with a slash. -/
theorem suffix_of_match? {body : String} {p : Placeholder} (hparse : parse (body ++ "*") = .ok p)
    {path : String} {captured : Dict String} (h : p.match? path = some captured) :
    ∃ front rest, path = front ++ rest ∧ captured.get? Context.restParam = some rest
      ∧ (body.toList.getLast? = some '/' → rest.toList.head? = some '/') := by
  obtain ⟨hopen, hchained, hslash⟩ := of_parse_asterisk hparse
  have haccepts : p.accepts path := by
    rw [match?, Option.map_eq_some_iff] at h
    obtain ⟨c, hc, -⟩ := h
    exact Option.isSome_iff_exists.mpr ⟨c, hc⟩
  obtain ⟨values, rest, rfl, hadmits⟩ := exists_fill_of_accepts hchained haccepts
  rw [match?_eq, captured?_fill hchained hadmits, hopen, Option.map_some, Option.some.injEq] at h
  obtain ⟨front, hlast, -⟩ := exists_append_lastSlash p.last
  -- The slash that ends the last literal is part of what the asterisk is bound to.
  have hpath : p.fill values rest = filled p.slots values front (lastSlash p.last ++ rest) := by
    conv => lhs; rw [fill, filled, hlast]
    simp only [filled, String.append_assoc]
  refine ⟨filled p.slots values front "", lastSlash p.last ++ rest, ?_, ?_, fun hend => ?_⟩
  · rw [hpath, filled_rest]
  · rw [← h, bound, if_pos hopen, Dict.get?_insert, if_pos rfl]
    rfl
  · rw [lastSlash, if_pos (hslash hend)]
    simp

end HttpMux.Placeholder
