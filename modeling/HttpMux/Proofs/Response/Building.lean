import HttpMux.Proofs.Headers
import HttpMux.Response.Basic
import Mathlib.Data.List.Induction

/-!
# `HttpMux.Proofs.Response.Building`: the headers of responses that are built step by step

A response starts as a new one or as one that spells out its status, and is then changed any number
of times. Every change edits the headers: it sets some and takes some away.

* `Headers.Edit`: an edit, what it does to headers (`Edit.apply`), and what it does to a map from
  names in small letters (`Edit.applyFolded`).
* `Response.Change.edits` and `Response.history`: the edits of a change, and all edits that a
  response has gone through. `Response.headers_built` says that there are no others.
* `Response.header?_withHeader` and `Response.header?_withoutHeader`: look-up after a change.
* `Response.headers_like_map`: the headers of every response are a map from names without case.
-/

set_option autoImplicit false

namespace HttpMux

open Text

/-! ### Edits -/

namespace Headers

/-- A header is set or taken away. -/
inductive Edit
  | set (name value : String)
  | drop (name : String)

namespace Edit

/-- The name that is edited. -/
def name : Edit → String
  | set name _ => name
  | drop name => name

/-- The value that the name has afterwards, if it has one. -/
def value? : Edit → Option String
  | set _ value => some value
  | drop _ => none

/-- The headers after the edit. -/
def apply (h : Headers) : Edit → Headers
  | set name value => h.set name value
  | drop name => h.without name

/-- The edit of a map from names in small letters. -/
def applyFolded (d : Dict String) : Edit → Dict String
  | set name value => d.insert (lower name) value
  | drop name => d.erase (lower name)

/-- An edit gives its name the new value, and other names keep theirs. -/
theorem get?_applyFolded (e : Edit) (d : Dict String) (k : String) :
    (e.applyFolded d).get? k = if k = lower e.name then e.value? else d.get? k := by
  cases e with
  | set name value => exact Dict.get?_insert d (lower name) k value
  | drop name => exact Dict.get?_erase d (lower name) k

end Edit

/-- The last edit of a name in any spelling. -/
def lastEdit? (name : String) (edits : List Edit) : Option Edit :=
  (edits.filter fun e => lower e.name = lower name).getLast?

/-- The last edit of a name is the very last one, if that is one of the name. -/
theorem lastEdit?_concat (name : String) (edits : List Edit) (e : Edit) :
    lastEdit? name (edits ++ [e])
      = if lower e.name = lower name then some e else lastEdit? name edits := by
  rw [lastEdit?, List.filter_append, lastEdit?]
  split <;> simp_all

/-- After edits of an empty map, a name has the value that its last edit gave it. -/
theorem get?_foldl_applyFolded (edits : List Edit) (name : String) :
    (edits.foldl Edit.applyFolded Dict.empty).get? (lower name)
      = (lastEdit? name edits).bind Edit.value? := by
  -- The last edit is taken off, as it decides what its own name has.
  induction edits using List.reverseRecOn with
  | nil => rfl
  | append_singleton edits e ih =>
    rw [List.foldl_concat, Edit.get?_applyFolded, lastEdit?_concat, ih]
    by_cases hname : lower e.name = lower name
    · rw [if_pos hname.symm, if_pos hname, Option.bind_some]
    · rw [if_neg (Ne.symm hname), if_neg hname]

namespace OneSpelling

variable {h : Headers}

/-- An edit leaves one spelling for each name. -/
theorem apply (hh : h.OneSpelling) (e : Edit) : (e.apply h).OneSpelling := by
  cases e with
  | set name value => exact hh.set name value
  | drop name => exact hh.without name

/-- An edit can be made under the names in small letters. -/
theorem folded_apply (hh : h.OneSpelling) (e : Edit) :
    (e.apply h).folded = e.applyFolded h.folded := by
  cases e with
  | set name value => exact hh.folded_set name value
  | drop name => exact hh.folded_without name

/-- Any number of edits keep one spelling for each name, and they can be made under the names in
small letters. -/
theorem foldl_apply (hh : h.OneSpelling) (edits : List Edit) :
    OneSpelling (edits.foldl Edit.apply h)
      ∧ folded (edits.foldl Edit.apply h) = edits.foldl Edit.applyFolded h.folded := by
  induction edits generalizing h with
  | nil => exact ⟨hh, rfl⟩
  | cons e edits ih =>
    obtain ⟨hspelling, hfolded⟩ := ih (hh.apply e)
    exact ⟨hspelling, by rw [List.foldl_cons, hfolded, hh.folded_apply, List.foldl_cons]⟩

end OneSpelling

end Headers

open Headers (Edit lastEdit?)

namespace Response

variable {r : Response}

/-- A header that is set is found under its name in any spelling, and the others stay. -/
theorem header?_withHeader (hr : r.headers.OneSpelling) (name value other : String) :
    (r.withHeader name value).header? other
      = if lower other = lower name then some value else r.header? other := by
  have hset : (r.withHeader name value).header? other = (r.headers.set name value).value? other :=
    rfl
  rw [hset, ← (hr.set name value).get?_folded, hr.folded_set, Dict.get?_insert, hr.get?_folded,
    header?]

/-- A header that is removed is not found under its name in any spelling, and the others stay. -/
theorem header?_withoutHeader (hr : r.headers.OneSpelling) (name other : String) :
    (r.withoutHeader name).header? other
      = if lower other = lower name then none else r.header? other := by
  have hwithout : (r.withoutHeader name).header? other = (r.headers.without name).value? other :=
    rfl
  rw [hwithout, ← (hr.without name).get?_folded, hr.folded_without, Dict.get?_erase,
    hr.get?_folded, header?]

/-! ### Building a response -/

/-- What a response is built from. -/
inductive Start
  | new (status : Status)
  | ofStatus (status : Status)

/-- The response to build on. -/
def Start.response : Start → Response
  | new status => .new status
  | ofStatus status => .ofStatus status

/-- A change of a response. -/
inductive Change
  | header (name value : String)
  | contentType (value : String)
  | text (s : String)
  | body (bs : Bytes)
  | json (v : Json)
  | remove (name : String)
  | status (status : Status)

/-- The response after the change. -/
def Change.apply (r : Response) : Change → Response
  | header name value => r.withHeader name value
  | contentType value => r.withContentType value
  | text s => r.withText s
  | body bs => r.withBody bs
  | json v => r.withJson v
  | remove name => (r.takeHeader name).2
  | status s => { r with status := s }

/-- The response that some changes make of a start. -/
def built (start : Start) (changes : List Change) : Response :=
  changes.foldl Change.apply start.response

/-! ### The edits of the headers -/

/-- The header that says how long a body is. -/
def lengthEdit (body : Bytes) : Edit := .set "Content-Length" (toString body.length)

/-- The edits that a start has gone through. -/
def Start.edits : Start → List Edit
  | new _ => [.set "Server" "microweb-rs"]
  | ofStatus status =>
    [.set "Server" "microweb-rs", .set "Content-Type" "text/plain; charset=utf-8",
      lengthEdit (Bytes.ofText (status.phrase ++ "\n"))]

/-- The edits that a change makes. -/
def Change.edits : Change → List Edit
  | header name value => [.set name value]
  | contentType value => [.set "Content-Type" value]
  | text s => [lengthEdit (Bytes.ofText s)]
  | body bs => [lengthEdit bs]
  | json v => [.set "Content-Type" "application/json", lengthEdit (Bytes.ofText v.render)]
  | remove name => [.drop name]
  | status _ => []

/-- All edits that the headers of a response have gone through. -/
def history (start : Start) (changes : List Change) : List Edit :=
  start.edits ++ changes.flatMap Change.edits

/-- The headers of a start come from its edits. -/
theorem headers_start (start : Start) :
    start.response.headers = start.edits.foldl Edit.apply Dict.empty := by
  cases start <;> rfl

/-- A change does to the headers what its edits do. -/
theorem headers_apply (r : Response) (c : Change) :
    (c.apply r).headers = c.edits.foldl Edit.apply r.headers := by
  cases c with
  | remove name =>
    rw [Change.apply, takeHeader_eq]
    rfl
  | _ => rfl

/-- The headers of a response come from the edits of its history, one after the other. -/
theorem headers_built (start : Start) (changes : List Change) :
    (built start changes).headers = (history start changes).foldl Edit.apply Dict.empty := by
  induction changes using List.reverseRecOn with
  | nil =>
    rw [history, List.flatMap_nil, List.append_nil]
    exact headers_start start
  | append_singleton changes c ih =>
    have hhistory : history start (changes ++ [c]) = history start changes ++ c.edits := by
      simp [history]
    rw [built, List.foldl_concat, headers_apply, hhistory, List.foldl_append, ← ih, built]

/-- No two names of a built response agree up to case. -/
theorem oneSpelling_built (start : Start) (changes : List Change) :
    (built start changes).headers.OneSpelling := by
  rw [headers_built]
  exact (Headers.oneSpelling_empty.foldl_apply _).1

/-- The headers of a built response behave as a map whose keys have no case. No two names agree up
to case. Every change is made under the names in small letters as it is made under the names
themselves. Setting a header leaves all other names, and the name gets the spelling given. Taking
one away leaves all other names, and gives the value that was there. Look-up finds the value under
the name in small letters, which is the last one set and not taken away since. Whichever header
agrees with a name, it is the one that look-up finds. -/
theorem headers_like_map (start : Start) (changes : List Change) :
    let r := built start changes
    r.headers.OneSpelling
      ∧ (∀ c : Change,
          (c.apply r).headers.folded = c.edits.foldl Edit.applyFolded r.headers.folded)
      ∧ (∀ name value, (r.withHeader name value).headers.entries.Perm
          ((name, value) :: r.headers.entries.filter fun e => lower e.1 ≠ lower name))
      ∧ (∀ name, (r.takeHeader name).1 = r.header? name
          ∧ (r.takeHeader name).2.headers.entries
              = r.headers.entries.filter fun e => lower e.1 ≠ lower name)
      ∧ (∀ name, r.header? name = r.headers.folded.get? (lower name))
      ∧ (∀ name, r.header? name = (lastEdit? name (history start changes)).bind Edit.value?)
      ∧ ∀ e ∈ r.headers.entries, ∀ name, sameName e.1 name →
          r.headers.spelling? name = some e.1 ∧ r.header? name = some e.2 := by
  intro r
  have hr : r.headers.OneSpelling := oneSpelling_built start changes
  -- Everything follows from there being one spelling of each name, which lets look-up find any
  -- header.
  refine ⟨hr, fun c => ?_, fun name value => ?_, fun name => ?_, fun name => ?_, fun name => ?_,
    fun e he name hname => ?_⟩
  · rw [headers_apply]
    exact (hr.foldl_apply c.edits).2
  · exact hr.perm_set name value
  · rw [takeHeader_eq]
    exact ⟨rfl, hr.entries_without name⟩
  · exact (hr.get?_folded name).symm
  · have hfolded : r.headers.folded
        = (history start changes).foldl Edit.applyFolded Dict.empty := by
      rw [show r.headers = _ from headers_built start changes]
      exact (Headers.oneSpelling_empty.foldl_apply _).2
    rw [header?, ← hr.get?_folded, hfolded, Headers.get?_foldl_applyFolded]
  · have hlower := sameName_iff.mp hname
    exact ⟨hr.spelling?_eq_some he hlower, hr.value?_eq_some_iff.mpr ⟨e, he, hlower, rfl⟩⟩

end Response

end HttpMux
