import HttpMux.Proofs.Text.Cutting
import HttpMux.Request.Basic

/-!
# `HttpMux.Proofs.Request.Target`: replacing the path of a request

The path of a request never has a question mark, so neither has any piece of it. With such a piece
as the new path, a request keeps its query and everything else.
-/

set_option autoImplicit false

namespace HttpMux.Request

/-- The path ends in front of the first question mark. -/
theorem mark_not_mem_urlPath (r : Request) : '?' ∉ r.urlPath.toList := by
  rw [urlPath, Text.splitFirst?]
  cases hcut : Text.splitFirstChars? '?' r.target.toList with
  | some cut =>
    obtain ⟨-, hnot⟩ := Text.eq_append_of_splitFirstChars? hcut
    show '?' ∉ (String.ofList cut.1).toList
    rwa [String.toList_ofList]
  | none =>
    show '?' ∉ r.target.toList
    intro hmem
    -- Any question mark would have cut the target.
    obtain ⟨before, after, htarget, hnot⟩ := List.eq_append_cons_of_mem hmem
    rw [htarget, Text.splitFirstChars?_append hnot] at hcut
    cases hcut

variable {r : Request} {path : String}

/-- With another path, the target falls apart into this path and the query. -/
theorem splitFirst?_withUrlPath (h : '?' ∉ path.toList) :
    Text.splitFirst? '?' (r.withUrlPath path).target = r.query?.map (path, ·) := by
  rw [withUrlPath, Text.splitFirst?]
  cases r.query? with
  | some q =>
    have hlist : (path ++ "?" ++ q).toList = path.toList ++ '?' :: q.toList := by
      simp [String.toList_append]
    dsimp only
    rw [hlist, Text.splitFirstChars?_append h]
    simp
  | none =>
    dsimp only
    rw [Text.splitFirstChars?_eq_none h]
    rfl

/-- The path is the new one. -/
theorem urlPath_withUrlPath (h : '?' ∉ path.toList) : (r.withUrlPath path).urlPath = path := by
  rw [urlPath, splitFirst?_withUrlPath h, withUrlPath]
  cases r.query? <;> rfl

/-- The query is that of the old target. -/
theorem query?_withUrlPath (h : '?' ∉ path.toList) : (r.withUrlPath path).query? = r.query? := by
  rw [query?, splitFirst?_withUrlPath h]
  cases r.query? <;> rfl

end HttpMux.Request
