import HttpMux.Layers.Decoding
import HttpMux.Proofs.Chain.Outermost
import HttpMux.Proofs.Dict
import HttpMux.Proofs.FormUrlencoded
import HttpMux.Proofs.Text.Cutting
import Mathlib.Data.List.Induction

/-!
# `HttpMux.Proofs.Layers.Query`: the decoded query

The layer cuts the query out of the target, decodes its pairs and groups the values by their names.
Nothing is lost on the way, however often a name occurs and whatever stands between two pairs of the
same name.

* `queryText_targetText`: the query of a target, with or without a fragment behind it.
* `get?_grouped`: the values of each name, in their order.
* `Groups`: what the object of a list of pairs has to be, and `groups_values` that it is.
* `urlQuery_around`: what the inner chain gets.
-/

set_option autoImplicit false

namespace HttpMux

open Text

variable {A : App} {M : Type → Type} [Monad M]

namespace Layers

/-! ### Cutting the query out -/

/-- A target with a query, and a fragment if there is one. -/
def targetText (path query : String) : Option String → String
  | none => path ++ "?" ++ query
  | some fragment => path ++ "?" ++ query ++ "#" ++ fragment

/-- What is behind the first question mark of the target, the fragment included. -/
theorem query?_targetText {path : String} (hpath : '?' ∉ path.toList) (query : String)
    (fragment : Option String) (r : Request) :
    Request.query? { r with target := targetText path query fragment }
      = some (match fragment with
        | none => query
        | some fragment => query ++ "#" ++ fragment) := by
  have hcut : ∀ rest, splitFirst? '?' (path ++ "?" ++ rest) = some (path, rest) := fun rest =>
    splitFirst?_eq_some_iff.mpr ⟨rfl, hpath⟩
  cases fragment with
  | none => simp [Request.query?, targetText, hcut]
  | some fragment =>
    have htarget : targetText path query (some fragment)
        = path ++ "?" ++ (query ++ "#" ++ fragment) := by
      simp [targetText, String.append_assoc]
    rw [Request.query?, htarget, hcut]
    rfl

/-- A query without the sign of a fragment is found again in the target. -/
theorem queryText_targetText {path query : String} (hpath : '?' ∉ path.toList)
    (hquery : '#' ∉ query.toList) (fragment : Option String) (r : Request) :
    queryText { r with target := targetText path query fragment } = query := by
  rw [queryText, query?_targetText hpath]
  cases fragment with
  | none =>
    -- Without a fragment nothing is cut off.
    have hnone : splitFirst? '#' query = none := by
      rw [splitFirst?, splitFirstChars?_eq_none hquery]
      rfl
    simp [hnone]
  | some fragment =>
    have hcut : splitFirst? '#' (query ++ "#" ++ fragment) = some (query, fragment) :=
      splitFirst?_eq_some_iff.mpr ⟨rfl, hquery⟩
    simp [hcut]

/-! ### Grouping -/

/-- The values that a list of pairs has under a name, in their order. -/
def valuesOf (name : String) (pairs : List (String × String)) : List String :=
  (pairs.filter (·.1 = name)).map Prod.snd

/-- One more pair adds its value under its own name. -/
theorem valuesOf_concat (name : String) (pairs : List (String × String)) (p : String × String) :
    valuesOf name (pairs ++ [p])
      = if p.1 = name then valuesOf name pairs ++ [p.2] else valuesOf name pairs := by
  rw [valuesOf, List.filter_append, List.map_append, valuesOf]
  split <;> simp [*]

/-- A name that does not occur has no values. -/
theorem valuesOf_eq_nil {name : String} {pairs : List (String × String)}
    (h : name ∉ pairs.map Prod.fst) : valuesOf name pairs = [] := by
  rw [valuesOf, List.map_eq_nil_iff, List.filter_eq_nil_iff]
  intro p hp hname
  exact h (of_decide_eq_true hname ▸ List.mem_map_of_mem hp)

/-- One more pair is put behind those of its name. -/
theorem grouped_concat (pairs : List (String × String)) (p : String × String) :
    grouped (pairs ++ [p])
      = (grouped pairs).insert p.1 (((grouped pairs).get? p.1).getD [] ++ [p.2]) := by
  rw [grouped, List.foldl_concat]
  rfl

/-- The names of the object are in order. -/
theorem sorted_grouped (pairs : List (String × String)) : (grouped pairs).Sorted := by
  rw [grouped]
  exact List.foldlRecOn pairs _ Dict.sorted_empty fun d hd p _ => hd.insert p.1 _

/-- Under each name that occurs there are its values in their order, and nothing under another. -/
theorem get?_grouped (pairs : List (String × String)) (name : String) :
    (grouped pairs).get? name
      = if name ∈ pairs.map Prod.fst then some (valuesOf name pairs) else none := by
  -- Values are put behind those before, so the induction takes the last pair off.
  induction pairs using List.reverseRecOn with
  | nil => rfl
  | append_singleton pairs p ih =>
    rw [grouped_concat, Dict.get?_insert, valuesOf_concat, List.map_append, List.map_singleton]
    by_cases hname : name = p.1
    · subst hname
      -- The new value goes behind those that the name has, or is its first one.
      have hbefore : ((grouped pairs).get? p.1).getD [] = valuesOf p.1 pairs := by
        rw [ih]
        split
        · rfl
        · rename_i hnew
          rw [valuesOf_eq_nil hnew]
          rfl
      simp [hbefore]
    · rw [if_neg hname, if_neg (Ne.symm hname), ih]
      simp only [List.mem_append, List.mem_singleton, hname, or_false]

/-- The object has one entry for each name that occurs, with the array of the values of the name in
their order. -/
structure Groups (pairs : List (String × String)) (values : Dict Json) : Prop where
  sorted : values.Sorted
  keys : ∀ name, name ∈ values.keys ↔ name ∈ pairs.map Prod.fst
  values : ∀ name ∈ pairs.map Prod.fst,
    values.get? name = some (.array ((valuesOf name pairs).map .string))

/-- The object that the layer makes has one entry for each name. -/
theorem groups_values (pairs : List (String × String)) :
    Groups pairs ((grouped pairs).map fun _ vs => .array (vs.map .string)) where
  sorted := (sorted_grouped pairs).map _
  keys name := by
    rw [Dict.keys_map, Dict.mem_keys_iff, get?_grouped]
    split <;> simp [*]
  values name hname := by
    rw [Dict.get?_map, get?_grouped, if_pos hname]
    rfl

/-! ### The layer -/

variable [LawfulMonad M]

/-- The layer sets the decoded query and does nothing else. -/
theorem serve_urlQuery (answer : (q : Question A) → M q.Answer) (router : Server M) (s : Stack A)
    (c : Context) (r : Request) :
    (s.enclosed urlQuery).serve answer router c r
      = s.serve answer router (c.withValue urlQueryKey (queryValues r)) r := by
  rw [Stack.serve_enclosed]
  exact bind_pure _

/-- For every target that has an encoded list of pairs as its query, with or without a fragment, the
inner chain gets the request as it is. In the environment there is the object of the pairs, with one
entry for each name that occurs and all its values in their order. Everything else in the context
is as it was. -/
theorem urlQuery_around {path : String} (hpath : '?' ∉ path.toList)
    (pairs : List (String × String)) (fragment : Option String)
    (answer : (q : Question A) → M q.Answer) (router : Server M) (s : Stack A) (c : Context)
    (r : Request) :
    let sent := { r with target := targetText path (FormUrlencoded.text pairs) fragment }
    ∃ values : Dict Json, Groups pairs values
      ∧ let inside := c.withValue "urlquery" (.object values)
        (s.enclosed urlQuery).serve answer router c sent = s.serve answer router inside sent
          ∧ inside.params = c.params
          ∧ ∀ key, inside.value? key
              = if key = "urlquery" then some (.object values) else c.value? key := by
  intro sent
  have hquery : queryText sent = FormUrlencoded.text pairs :=
    queryText_targetText hpath (FormUrlencoded.hash_not_mem_text pairs) fragment r
  have hvalues : queryValues sent
      = .object ((grouped pairs).map fun _ vs => .array (vs.map .string)) := by
    rw [queryValues, hquery, FormUrlencoded.ofText_text, FormUrlencoded.decode_encode]
  refine ⟨_, groups_values pairs, ?_, rfl, fun key => c.value?_withValue _ key _⟩
  rw [serve_urlQuery, hvalues]
  rfl

/-- Two values for one name with another name between them, a name without a value, and signs that
mean something in a target. -/
def tagPairs : List (String × String) :=
  [("tag", "a&b"), ("", "?"), ("tag", "c d#é"), ("q=", "")]

/-- A request for some items by their tags. -/
def tagRequest : Request :=
  ⟨.get, targetText "/items" (FormUrlencoded.text tagPairs) (some "top?x=1"), .http11, ⟨[]⟩, [],
    none⟩

/-- Both values of the first name reach the inner chain, and the fragment does not. -/
theorem urlQuery_around_tagPairs :
    '?' ∉ "/items".toList
      ∧ tagRequest.target = "/items?tag=a%26b&=%3F&tag=c+d%23%C3%A9&q%3D=#top?x=1"
      ∧ ∃ values : Dict Json,
        (((Stack.new 0 1).enclosed urlQuery).serve Chain.silentAnswer everyPage Context.empty
            tagRequest).context.value? "urlquery" = some (.object values)
          ∧ values.get? "tag" = some (.array [.string "a&b", .string "c d#é"]) := by
  have hpath : '?' ∉ "/items".toList := by decide
  obtain ⟨values, hgroups, hserve, -, hvalue⟩ := urlQuery_around hpath tagPairs (some "top?x=1")
    Chain.silentAnswer everyPage (Stack.new 0 1) Context.empty tagRequest
  refine ⟨hpath, by decide +kernel, values, ?_, hgroups.values "tag" (by decide)⟩
  have hserved : ((Stack.new 0 1).enclosed urlQuery).serve Chain.silentAnswer everyPage
      Context.empty tagRequest = _ := hserve
  rw [hserved]
  exact hvalue "urlquery"

end Layers

end HttpMux
