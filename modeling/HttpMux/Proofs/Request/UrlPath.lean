import HttpMux.Proofs.Pattern.Bindings
import HttpMux.Proofs.Request.Target

/-!
# `HttpMux.Proofs.Request.UrlPath`: the path of a request as a lens

The target of a request is taken apart at its first question mark and put together again. Looking
at the path and replacing it are the two halves of a lens: what was put in is seen, what was seen
can be put back, and of two replacements the later one counts. Everything else stays.

A path must have no question mark in it for this. The parts of a path that patterns bind have none.

* `Text.mem_of_mem_cut`: an ASCII character of a piece is a character of the text.
* `Placeholder.eq_cut_of_match?`: what is bound is a piece of the path.
* `Request.target_eq`: a target is its path and its query.
* `Request.urlPath_lens`: the laws.
-/

set_option autoImplicit false

namespace HttpMux

open Bytes (ofText)

/-- An ASCII character of a piece of a text is a character of the text. -/
theorem Text.mem_of_mem_cut {c : Char} (hc : c.toNat < 128) {s : String} {sp : Span}
    (h : c ∈ (cut s sp).toList) : c ∈ s.toList := by
  rw [← Bytes.mem_ofChars_iff hc, ← Bytes.ofText_eq] at h ⊢
  rw [cut] at h
  cases htext : Bytes.text? (sp.bytesOf (ofText s)) with
  | none =>
    rw [htext] at h
    cases h
  | some t =>
    rw [htext, Option.getD_some, Bytes.ofText_of_text? htext] at h
    exact List.mem_of_mem_drop (List.mem_of_mem_take h)

/-- What a pattern binds is a piece of the path. -/
theorem Placeholder.eq_cut_of_match? {p : Placeholder} {path : String} {captured : Dict String}
    (h : p.match? path = some captured) {name value : String}
    (hvalue : captured.get? name = some value) : ∃ sp, value = Text.cut path sp := by
  rw [match?, Option.map_eq_some_iff] at h
  obtain ⟨c, -, rfl⟩ := h
  -- The values of names are pieces, and the rest behind an asterisk is one more.
  have hnamed (hname : (Dict.ofList (p.names.zip (c.values.map (Text.cut path)))).get? name
      = some value) : ∃ sp, value = Text.cut path sp := by
    have hmem := Dict.mem_of_mem_ofList ((Dict.sorted_ofList _).get?_eq_some_iff.mp hname)
    obtain ⟨sp, -, hsp⟩ := List.mem_map.mp (List.of_mem_zip hmem).2
    exact ⟨sp, hsp.symm⟩
  dsimp only at hvalue
  split at hvalue
  · rw [Dict.get?_insert] at hvalue
    split at hvalue
    · exact ⟨c.rest, (Option.some.inj hvalue).symm⟩
    · exact hnamed hvalue
  · exact hnamed hvalue

namespace Request

/-- A target is its path, and behind a question mark its query, if there is one. -/
theorem target_eq (r : Request) :
    r.target = match r.query? with
      | some q => r.urlPath ++ "?" ++ q
      | none => r.urlPath := by
  rw [query?, urlPath]
  cases hcut : Text.splitFirst? '?' r.target with
  | none => rfl
  | some cut => exact (Text.splitFirst?_eq_some_iff.mp hcut).1

/-- The laws of replacing the path of a request by one without a question mark. The new path is the
path of the new request, and its query and all other parts are as before. Putting back the path of
a request changes nothing. A second replacement undoes the first. What a placeholder pattern binds
to a part of the path of a request, the asterisk included, has no question mark and may replace
it. -/
theorem urlPath_lens (r : Request) {path : String} (h : '?' ∉ path.toList) (later : String) :
    (r.withUrlPath path).urlPath = path
      ∧ (r.withUrlPath path).query? = r.query?
      ∧ (∃ target, r.withUrlPath path = { r with target })
      ∧ r.withUrlPath r.urlPath = r
      ∧ (r.withUrlPath path).withUrlPath later = r.withUrlPath later
      ∧ ∀ (p : Placeholder) captured name value, p.match? r.urlPath = some captured →
          captured.get? name = some value → '?' ∉ value.toList := by
  refine ⟨urlPath_withUrlPath h, query?_withUrlPath h, ⟨_, rfl⟩, ?_, ?_, ?_⟩
  · exact congrArg (fun target => { r with target }) (target_eq r).symm
  · rw [withUrlPath, query?_withUrlPath h]
    rfl
  · -- A question mark in a value would be one in the path, from which the value is cut.
    intro p captured name value hmatch hvalue hmark
    obtain ⟨sp, rfl⟩ := Placeholder.eq_cut_of_match? hmatch hvalue
    exact mark_not_mem_urlPath r (Text.mem_of_mem_cut (by decide) hmark)

/-- A request whose query has a question mark in it. -/
def twoMarks : Request := ⟨.get, "/a/b?x?y", .http11, Dict.empty, [], none⟩

/-- The query stays as it is, and the asterisk of a pattern is bound to a path without it. -/
theorem urlPath_lens_twoMarks :
    (twoMarks.withUrlPath "/é").urlPath = "/é" ∧ (twoMarks.withUrlPath "/é").query? = some "x?y"
      ∧ (twoMarks.withUrlPath "/é").withUrlPath "" = twoMarks.withUrlPath "" := by
  have hmark : '?' ∉ "/é".toList := by decide
  obtain ⟨hpath, hquery, -, -, hlater, -⟩ := urlPath_lens twoMarks hmark ""
  exact ⟨hpath, hquery.trans (by decide), hlater⟩

end Request

end HttpMux
