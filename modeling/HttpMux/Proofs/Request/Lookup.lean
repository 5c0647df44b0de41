import HttpMux.Proofs.Headers.Named
import HttpMux.Proofs.Request.RoundTrip
import Mathlib.Data.List.Induction

/-!
# `HttpMux.Proofs.Request.Lookup`: looking headers up in a request that was read

A header line is kept under the spelling of its name, and a later line with exactly the same name
takes its place. So lines that write a name in several spellings leave several headers of that name.
Look-up and removal take one of them, the first in some order. The order in which headers are kept
is not part of a message, so `inOrder` goes through them in any order.

* `Dict.mem_ofList_iff`: the entry of a key is the last pair with the key.
* `Headers.length_named_le_one_iff`: at most one header of a name is one spelling of it.
* `Headers.value?_eq_in_every_order_iff`: when look-up finds the same value in every order.
* `lookup_of_read`: a name that the lines write in one spelling has at most one header, which is
  found in every order, and none is left after a removal.
* `header_left_of_two_spellings`: a name that is written in two spellings has two headers, and a
  removal leaves one.
-/

set_option autoImplicit false

namespace HttpMux

open Text

/-! ### Dictionaries of pairs -/

namespace Dict

variable {α : Type}

/-- Under a key there is the value of the last pair with the key. -/
theorem get?_ofList (es : List (String × α)) (k : String) :
    (ofList es).get? k = ((es.filter (·.1 = k)).getLast?).map Prod.snd := by
  -- The last pair that is put in counts, so the induction takes it off.
  induction es using List.reverseRecOn with
  | nil => rfl
  | append_singleton es e ih =>
    have hinsert : ofList (es ++ [e]) = (ofList es).insert e.1 e.2 := by
      rw [ofList, List.foldl_concat, ofList]
    rw [hinsert, get?_insert, ih, List.filter_append]
    by_cases hk : e.1 = k
    · simp [hk]
    · simp [hk, Ne.symm hk]

/-- The entry of a key is the last pair with the key. -/
theorem mem_ofList_iff {es : List (String × α)} {e : String × α} :
    e ∈ (ofList es).entries ↔ (es.filter (·.1 = e.1)).getLast? = some e := by
  obtain ⟨k, v⟩ := e
  rw [← (sorted_ofList es).get?_eq_some_iff, get?_ofList, Option.map_eq_some_iff]
  constructor
  · rintro ⟨last, hlast, rfl⟩
    have hkey : last.1 = k := by simpa using (List.mem_filter.mp (List.mem_of_getLast? hlast)).2
    rw [hlast, ← hkey]
  · exact fun hlast => ⟨(k, v), hlast, rfl⟩

/-- The keys of a dictionary are those of the pairs that it is made from. -/
theorem exists_mem_ofList {es : List (String × α)} {e : String × α} (he : e ∈ es) :
    ∃ last ∈ (ofList es).entries, last.1 = e.1 := by
  have hne : es.filter (·.1 = e.1) ≠ [] := List.ne_nil_of_mem (List.mem_filter.mpr ⟨he, by simp⟩)
  have hlast := List.getLast?_eq_some_getLast hne
  have hkey : ((es.filter (·.1 = e.1)).getLast hne).1 = e.1 := by
    simpa using (List.mem_filter.mp (List.getLast_mem hne)).2
  exact ⟨_, mem_ofList_iff.mpr (by rw [hkey, hlast]), hkey⟩

/-- In a sorted dictionary no key occurs twice, in whatever order the entries are. -/
theorem Sorted.keys_ne {d : Dict α} (hd : d.Sorted) {es : List (String × α)}
    (hes : es.Perm d.entries) : es.Pairwise (·.1 ≠ ·.1) :=
  (hes.pairwise_iff Ne.symm).mpr (List.Pairwise.imp ne_of_lt hd)

end Dict

/-! ### Orders of headers -/

namespace Headers

variable {h : Headers} {name : String} {es : List (String × String)}

/-- There is at most one header of a name exactly if there is one spelling of it. -/
theorem length_named_le_one_iff (hkeys : h.entries.Pairwise (·.1 ≠ ·.1)) :
    (named name h).length ≤ 1 ↔ ∀ e ∈ h.entries, ∀ e' ∈ h.entries,
      lower e.1 = lower name → lower e'.1 = lower name → e.1 = e'.1 := by
  have hpairwise : (named name h).Pairwise (·.1 ≠ ·.1) := hkeys.sublist List.filter_sublist
  constructor
  · intro hone e he e' he' hname hname'
    have hmem : e ∈ named name h := mem_named_iff.mpr ⟨he, hname⟩
    have hmem' : e' ∈ named name h := mem_named_iff.mpr ⟨he', hname'⟩
    match hfirst : named name h with
    | [] => simp [hfirst] at hmem
    | [x] =>
      rw [hfirst, List.mem_singleton] at hmem hmem'
      rw [hmem, hmem']
    | x :: y :: rest =>
      rw [hfirst, List.length_cons, List.length_cons] at hone
      omega
  · intro hall
    match hfirst : named name h with
    | [] => simp
    | [x] => simp
    | x :: y :: rest =>
      -- Two headers of the name have two spellings of it.
      rw [hfirst] at hpairwise
      have hne : x.1 ≠ y.1 := (List.pairwise_cons.mp hpairwise).1 y List.mem_cons_self
      have hx : x ∈ named name h := by simp [hfirst]
      have hy : y ∈ named name h := by simp [hfirst]
      rw [mem_named_iff] at hx hy
      exact absurd (hall x hx.1 y hy.1 hx.2 hy.2) hne

/-- The headers of a name are the same in every order of the headers. -/
theorem named_perm (hes : es.Perm h.entries) (name : String) :
    (named name ⟨es⟩).Perm (named name h) := hes.filter _

/-- Whether there is a header of the name does not depend on the order. -/
theorem has_of_perm (hes : es.Perm h.entries) (name : String) : has ⟨es⟩ name = h.has name := by
  have hnil : named name ⟨es⟩ = [] ↔ named name h = [] := by
    rw [← List.length_eq_zero_iff, (named_perm hes name).length_eq, List.length_eq_zero_iff]
  rw [Bool.eq_iff_iff, has_iff_named, has_iff_named, Ne, Ne, hnil]

/-- Every header of the name is found in some order. -/
theorem exists_order_of_mem_named {e : String × String} (he : e ∈ named name h) :
    ∃ es, es.Perm h.entries ∧ value? ⟨es⟩ name = some e.2 := by
  obtain ⟨hmem, hname⟩ := mem_named_iff.mp he
  -- The header is put in front, and look-up takes the first one that it meets.
  refine ⟨e :: h.entries.erase e, (List.perm_cons_erase hmem).symm, ?_⟩
  rw [value?_eq, named, List.filter_cons_of_pos (by simpa using hname)]
  rfl

/-- Look-up finds the same value in every order exactly if all headers of the name have one. -/
theorem value?_eq_in_every_order_iff :
    (∀ es, es.Perm h.entries → value? ⟨es⟩ name = h.value? name)
      ↔ ∀ e ∈ named name h, ∀ e' ∈ named name h, e.2 = e'.2 := by
  constructor
  · intro hsame e he e' he'
    obtain ⟨es, hes, hvalue⟩ := exists_order_of_mem_named he
    obtain ⟨es', hes', hvalue'⟩ := exists_order_of_mem_named he'
    rw [hsame es hes] at hvalue
    rw [hsame es' hes', hvalue] at hvalue'
    exact Option.some.inj hvalue'
  · -- What is found is the value of some header of the name, and they all have the same.
    intro hsame es hes
    have hperm := named_perm hes name
    rw [value?_eq, value?_eq]
    cases hfirst : named name ⟨es⟩ with
    | nil =>
      rw [hfirst] at hperm
      rw [hperm.symm.eq_nil]
    | cons e rest =>
      have he : e ∈ named name h := hperm.mem_iff.mp (by simp [hfirst])
      cases hfirst' : named name h with
      | nil => simp [hfirst'] at he
      | cons e' rest' =>
        have he' : e' ∈ named name h := by simp [hfirst']
        exact congrArg some (hsame e he e' he')

/-- After a removal no header of the name is left exactly if there was at most one, in whatever
order look-up goes through the headers. -/
theorem named_without_of_perm (hh : h.Sorted) (hes : es.Perm h.entries) :
    named name (without ⟨es⟩ name) = [] ↔ (named name h).length ≤ 1 := by
  rw [named_without_eq_nil_iff (hh.keys_ne hes), (named_perm hes name).length_eq]

end Headers

/-! ### Requests that were read -/

namespace Request

open Bytes Headers

/-- The request whose headers are gone through in the given order. -/
def inOrder (r : Request) (es : List (String × String)) : Request := { r with headers := ⟨es⟩ }

/-- The headers of a request that was read are those of its header lines, and of lines with exactly
the same name the last one counts. For every name there is at most one header exactly if the lines
write it in one spelling. The order of the headers never matters to whether there is one. It does
not matter to the value that is found exactly if all headers of the name have the same value, which
they do if there is at most one. After a removal no header of the name is left, in any spelling,
exactly if there was at most one. -/
theorem lookup_of_read {bs : Bytes} {r : Request} (h : read bs = .ok r) :
    ∃ (first : String) (rest : List String) (fields : List (String × String)),
      (Layout.ofBytes bs).contents = (first :: rest).map ofText
      ∧ rest.map field? = fields.map some
      ∧ (∀ e, e ∈ r.headers.entries ↔ (fields.filter (·.1 = e.1)).getLast? = some e)
      ∧ ∀ name,
        ((named name r.headers).length ≤ 1 ↔ ∀ e ∈ fields, ∀ e' ∈ fields,
            lower e.1 = lower name → lower e'.1 = lower name → e.1 = e'.1)
          ∧ (∀ es, es.Perm r.headers.entries →
              (r.inOrder es).headers.has name = r.headers.has name)
          ∧ ((∀ es, es.Perm r.headers.entries → (r.inOrder es).header? name = r.header? name)
              ↔ ∀ e ∈ named name r.headers, ∀ e' ∈ named name r.headers, e.2 = e'.2)
          ∧ ∀ es, es.Perm r.headers.entries →
              (named name ((r.inOrder es).withoutHeader name).headers = []
                ↔ (named name r.headers).length ≤ 1) := by
  obtain ⟨first, rest, hcontents, hspells⟩ := exists_spells_of_read h
  obtain ⟨fields, hfields, hheaders⟩ := hspells.headers
  have hsorted : r.headers.Sorted := (wellFormed_of_read h).sorted
  refine ⟨first, rest, fields, hcontents, hfields, ?_, fun name => ⟨?_, ?_, ?_, ?_⟩⟩
  · intro e
    rw [hheaders]
    exact Dict.mem_ofList_iff
  · rw [length_named_le_one_iff (hsorted.keys_ne (.refl _)), hheaders]
    constructor
    · intro hall e he e' he' hname hname'
      -- The spellings of the lines are those of the headers.
      obtain ⟨last, hlast, hkey⟩ := Dict.exists_mem_ofList he
      obtain ⟨last', hlast', hkey'⟩ := Dict.exists_mem_ofList he'
      rw [← hkey, ← hkey']
      exact hall last hlast last' hlast' (hkey ▸ hname) (hkey' ▸ hname')
    · intro hall e he e' he'
      exact hall e (Dict.mem_of_mem_ofList he) e' (Dict.mem_of_mem_ofList he')
  · exact fun es hes => has_of_perm hes name
  · exact value?_eq_in_every_order_iff
  · exact fun es hes => named_without_of_perm hsorted hes

/-- A name in one spelling on several lines, beside other names. -/
def repeatedMessage : Bytes := ofText "GET / HTTP/1.0\r\nX: 1\r\nA: b\r\nX: 2\r\n\r\n"

/-- The request of the message. -/
def repeatedRequest : Request :=
  ⟨.get, "/", .http10, Dict.ofList [("A", "b"), ("X", "2")], [], none⟩

/-- The message is read as the request. -/
theorem read_repeatedMessage : read repeatedMessage = .ok repeatedRequest := by
  rfl

/-- The request has one header of the name, with the value of the last line. -/
theorem named_repeatedRequest : named "x" repeatedRequest.headers = [("X", "2")] := by
  decide +kernel

/-- The last line counts, it is found in every order and spelling, and nothing is left after a
removal. -/
theorem lookup_repeatedMessage :
    read repeatedMessage = .ok repeatedRequest
      ∧ ∀ es, es.Perm repeatedRequest.headers.entries →
        (repeatedRequest.inOrder es).header? "x" = some "2"
          ∧ named "x" ((repeatedRequest.inOrder es).withoutHeader "x").headers = [] := by
  obtain ⟨_, _, _, -, -, -, hname⟩ := lookup_of_read read_repeatedMessage
  obtain ⟨-, -, hvalue, hleft⟩ := hname "x"
  refine ⟨read_repeatedMessage, fun es hes => ⟨?_, ?_⟩⟩
  · rw [hvalue.mpr (by simp [named_repeatedRequest]) es hes]
    exact value?_of_named_eq_singleton named_repeatedRequest
  · exact (hleft es hes).mpr (by simp [named_repeatedRequest])

/-- Two spellings of one name. -/
def twoSpellings : Bytes :=
  ofText "GET / HTTP/1.0\r\nIf-None-Match: *\r\nif-none-match: *\r\n\r\n"

/-- The request of the message. -/
def twoSpellingsRequest : Request :=
  ⟨.get, "/", .http10, Dict.ofList [("If-None-Match", "*"), ("if-none-match", "*")], [], none⟩

/-- The message is read with both spellings. -/
theorem read_twoSpellings : read twoSpellings = .ok twoSpellingsRequest := by
  rfl

/-- A name that is written in two spellings has two headers, and a removal leaves one of them. -/
theorem header_left_of_two_spellings :
    read twoSpellings = .ok twoSpellingsRequest
      ∧ named "IF-NONE-MATCH" twoSpellingsRequest.headers
          = [("If-None-Match", "*"), ("if-none-match", "*")]
      ∧ named "IF-NONE-MATCH" (twoSpellingsRequest.withoutHeader "IF-NONE-MATCH").headers
          = [("if-none-match", "*")] :=
  ⟨read_twoSpellings, by decide +kernel, by decide +kernel⟩

end Request

end HttpMux
