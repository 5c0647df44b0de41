import HttpMux.Proofs.Dict
import HttpMux.Proofs.Request.Lines

/-!
# `HttpMux.Proofs.Request.RoundTrip`: writing requests and reading them back

A request is written with one line end throughout, and with its headers in any order.

* `WellFormed`: the requests that can be written. Every accepted request is one of them.
* `bytes_printed` and `valid_printed`: what is written is a valid layout of the request line and the
  header lines.
* `read_print`: reading accepts well-formed requests only, and reads each of them back from what is
  written.
-/

set_option autoImplicit false

namespace HttpMux.Request

open Text Bytes

/-- A request that a message can spell. -/
structure WellFormed (r : Request) : Prop where
  target : r.target = "*" ∨ r.target.toList.head? = some '/'
  noBlank : ∀ c ∈ r.target.toList, isBlank c = false
  name : ∀ e ∈ r.headers.entries, ':' ∉ e.1.toList ∧ '\n' ∉ e.1.toList ∧ Trimmed e.1
  value : ∀ e ∈ r.headers.entries, '\n' ∉ e.2.toList ∧ Trimmed e.2
  host : r.version = .http11 → ∃ e ∈ r.headers.entries, lower e.1 = lower "Host"
  remote : r.remote = none
  /-- The headers are kept in the order of their names. -/
  sorted : r.headers.Sorted

/-! ### Writing -/

/-- The request line. -/
def requestLine (r : Request) : String :=
  r.method.name ++ " " ++ r.target ++ " " ++ r.version.name

/-- The line of a header. -/
def headerLine (e : String × String) : String := e.1 ++ ": " ++ e.2

/-- The request as a message, with its headers in the given order. -/
def print (ending : LineEnd) (fields : List (String × String)) (r : Request) : Bytes :=
  ofText (r.requestLine ++ ending.text
    ++ String.join (fields.map fun e => headerLine e ++ ending.text) ++ ending.text) ++ r.body

/-! ### Accepted requests are well-formed -/

/-- A target is the asterisk or begins with a slash. -/
theorem isTarget_iff {s : String} :
    isTarget s = true ↔ s = "*" ∨ s.toList.head? = some '/' := by
  have hstart : hasStart "/" s = true ↔ s.toList.head? = some '/' := by
    rw [hasStart, show "/".toList = ['/'] from rfl]
    cases s.toList with
    | nil => decide
    | cons c cs =>
      rw [List.isPrefixOf_cons_cons, List.isPrefixOf_nil_left, Bool.and_true, beq_iff_eq,
        List.head?_cons, Option.some.injEq, eq_comm]
  rw [isTarget, Bool.or_eq_true, hstart, decide_eq_true_iff, or_comm]

/-- A header is there if one of the names is it, up to the case of letters. -/
theorem has_iff {headers : Headers} {name : String} :
    headers.has name = true ↔ ∃ e ∈ headers.entries, lower e.1 = lower name := by
  rw [Headers.has, Headers.spelling?, Dict.findKey?, List.find?_isSome]
  simp only [Dict.keys, List.mem_map, sameName_iff, exists_exists_and_eq_and]

/-- The name and the value of a header line have no line feed in them and are trimmed, and there is
no colon in the name. -/
theorem of_field?_eq_some {line : String} (hline : '\n' ∉ line.toList) {e : String × String}
    (h : field? line = some e) :
    (':' ∉ e.1.toList ∧ '\n' ∉ e.1.toList ∧ Trimmed e.1)
      ∧ ('\n' ∉ e.2.toList ∧ Trimmed e.2) := by
  rw [field?, splitFirst?, Option.map_map, Option.map_eq_some_iff] at h
  obtain ⟨⟨before, after⟩, hcut, rfl⟩ := h
  obtain ⟨hchars, hcolon⟩ := eq_append_of_splitFirstChars? hcut
  rw [hchars, List.mem_append, List.mem_cons, not_or, not_or] at hline
  exact ⟨⟨fun h => hcolon (mem_of_mem_trim h), fun h => hline.1 (mem_of_mem_trim h),
    trimmed_trim _⟩, fun h => hline.2.2 (mem_of_mem_trim h), trimmed_trim _⟩

/-- Every accepted request is well-formed: what its lines were read as is what lines can spell. -/
theorem wellFormed_of_read {bs : Bytes} {r : Request} (h : read bs = .ok r) : r.WellFormed := by
  obtain ⟨first, rest, hcontents, hspells⟩ := exists_spells_of_read h
  obtain ⟨_, _, _, -, -, -, -, hhost, -, hremote⟩ := read_eq_ok_iff.mp h
  obtain ⟨m, v, hwords, -, htarget, -⟩ := readRequestLine_eq_ok_iff.mp hspells.requestLine
  obtain ⟨fields, hfields, hheaders⟩ := hspells.headers
  -- Every header is the name and the value of one of the lines.
  have hentries : ∀ e ∈ r.headers.entries, ∃ line ∈ rest, field? line = some e := by
    intro e he
    rw [hheaders] at he
    have hmem := List.mem_map_of_mem (f := some) (Dict.mem_of_mem_ofList he)
    rw [← hfields] at hmem
    exact List.mem_map.mp hmem
  have hrest : ∀ line ∈ rest, '\n' ∉ line.toList := by
    intro line hline
    have hmem : ofText line ∈ (Layout.ofBytes bs).contents := by
      rw [hcontents]
      exact List.mem_map_of_mem (List.mem_cons_of_mem _ hline)
    exact feed_not_mem (ofText_eq line ▸ ((Layout.valid_ofBytes bs).of_mem_contents _ hmem).2)
  -- So what one line can give holds of every header.
  have hfield : ∀ e ∈ r.headers.entries, _ := fun e he =>
    have ⟨line, hline, h⟩ := hentries e he
    of_field?_eq_some (hrest line hline) h
  exact
    { target := isTarget_iff.mp htarget
      noBlank := not_blank_of_mem_words (s := first) (by rw [hwords]; simp)
      name := fun e he => (hfield e he).1
      value := fun e he => (hfield e he).2
      host := fun hversion => has_iff.mp (hhost hversion)
      remote := hremote
      sorted := hheaders ▸ Dict.sorted_ofList fields }

/-! ### Reading back -/

/-- The name of a method is a word. -/
theorem method_not_blank (m : Method) :
    m.name.toList ≠ [] ∧ ∀ c ∈ m.name.toList, isBlank c = false := by
  refine ⟨?_, not_blank_of_all ?_⟩
  · cases m <;> decide
  · cases m <;> decide

/-- The name of a version is a word. -/
theorem version_not_blank (v : Version) :
    v.name.toList ≠ [] ∧ ∀ c ∈ v.name.toList, isBlank c = false := by
  refine ⟨?_, not_blank_of_all ?_⟩
  · cases v <;> decide
  · cases v <;> decide

/-- The target of a well-formed request is not empty. -/
theorem target_ne_nil {r : Request} (h : r.WellFormed) : r.target.toList ≠ [] := by
  rcases h.target with htarget | htarget
  · rw [htarget]
    decide
  · rintro hnil
    rw [hnil] at htarget
    cases htarget

/-- The characters of a request line are three words with spaces between them. -/
theorem toList_requestLine (r : Request) : r.requestLine.toList
    = r.method.name.toList ++ ' ' :: (r.target.toList ++ ' ' :: r.version.name.toList) := by
  simp [requestLine]

/-- The characters of a header line are the name, a colon, a space and the value. -/
theorem toList_headerLine (e : String × String) :
    (headerLine e).toList = e.1.toList ++ ':' :: ' ' :: e.2.toList := by
  simp [headerLine]

/-- The request line of a well-formed request is read as its method, its target and its version. -/
theorem readRequestLine_requestLine {r : Request} (h : r.WellFormed) :
    readRequestLine r.requestLine = .ok (r.method, r.target, r.version) := by
  -- Each of the three parts is not empty and without blanks, so each is one word.
  have hwords : words r.requestLine = [r.method.name, r.target, r.version.name] := by
    rw [words, toList_requestLine,
      wordsOf_append_blank (by decide) (method_not_blank _).1 (method_not_blank _).2,
      wordsOf_append_blank (by decide) (target_ne_nil h) h.noBlank,
      wordsOf_of_not_blank (version_not_blank _).1 (version_not_blank _).2]
    simp
  exact readRequestLine_eq_ok_iff.mpr ⟨_, _, hwords, Method.ofName?_name _,
    isTarget_iff.mpr h.target, Version.ofName?_name _⟩

/-- A header line is read as the header that it was written for, if the name has no colon in it and
both parts are trimmed. -/
theorem field?_headerLine {e : String × String} (hname : ':' ∉ e.1.toList) (hname' : Trimmed e.1)
    (hvalue : Trimmed e.2) : field? (headerLine e) = some e := by
  -- The space behind the colon goes when the value is trimmed.
  have hspace : trim (String.ofList (' ' :: e.2.toList)) = e.2 := by
    rw [trim, String.toList_ofList, trimChars_cons_blank (by decide), ← trim,
      trim_eq_self hvalue]
  rw [field?, splitFirst?, toList_headerLine, splitFirstChars?_append hname]
  simp only [Option.map_some, String.ofList_toList, trim_eq_self hname', hspace]

/-- A text without line feeds and without a carriage return at its end is a line. -/
theorem valid_line {line : String} (ending : LineEnd) (hfeed : '\n' ∉ line.toList)
    (hlast : line.toList.getLast? ≠ some '\r') : (Line.mk (ofText line) ending).Valid := by
  constructor
  · rw [ofText_eq]
    exact fun h => hfeed ((mem_ofChars_iff (c := '\n') (by decide)).mp h)
  · intro _ hreturn
    obtain ⟨front, hfront⟩ := List.getLast?_eq_some_iff.mp hreturn
    rw [ofText_eq] at hfront
    obtain ⟨before, hbefore, -⟩ := exists_of_ofChars_return hfront
    rw [hbefore] at hlast
    exact hlast (List.getLast?_concat ..)

/-- A blank character is in no text without blanks. -/
theorem not_mem_of_not_blank {cs : List Char} (h : ∀ c ∈ cs, isBlank c = false) {c : Char}
    (hc : isBlank c) : c ∉ cs := by
  intro hmem
  rw [h c hmem] at hc
  cases hc

/-- What follows a space is the end of the line, if there is something. -/
theorem getLast?_space (xs : List Char) {w : List Char} (hw : w ≠ []) :
    (xs ++ ' ' :: w).getLast? = w.getLast? := by
  rw [List.getLast?_append_cons]
  exact List.getLast?_append_of_ne_nil [' '] hw

/-- The request line of a well-formed request fits on a line. -/
theorem valid_requestLine {r : Request} (h : r.WellFormed) (ending : LineEnd) :
    (Line.mk (ofText r.requestLine) ending).Valid := by
  obtain ⟨hne, hversion⟩ := version_not_blank r.version
  have hfeed : isBlank '\n' := by decide
  -- A line feed would be a blank in one of the three words, and so would a carriage return at the
  -- end.
  refine valid_line ending ?_ fun hlast => ?_
  · have hmethod := not_mem_of_not_blank (method_not_blank r.method).2 hfeed
    have htarget := not_mem_of_not_blank h.noBlank hfeed
    rw [toList_requestLine]
    simp [hmethod, htarget, not_mem_of_not_blank hversion hfeed]
  · rw [toList_requestLine, getLast?_space _ (by simp), getLast?_space _ hne] at hlast
    exact not_mem_of_not_blank hversion (by decide) (List.mem_of_getLast? hlast)

/-- The line of a header of a well-formed request fits on a line, whatever the header is. -/
theorem valid_headerLine {r : Request} (h : r.WellFormed) {e : String × String}
    (he : e ∈ r.headers.entries) (ending : LineEnd) :
    (Line.mk (ofText (headerLine e)) ending).Valid := by
  obtain ⟨-, hname, -⟩ := h.name e he
  obtain ⟨hvalue, htrimmed⟩ := h.value e he
  refine valid_line ending ?_ fun hlast => ?_
  · rw [toList_headerLine]
    simp [hname, hvalue]
  · rw [toList_headerLine] at hlast
    by_cases hempty : e.2.toList = []
    · -- The last character is the space behind the colon.
      rw [hempty, List.getLast?_append_cons] at hlast
      exact absurd hlast (by decide)
    · rw [List.getLast?_append_cons, ← List.singleton_append, getLast?_space _ hempty] at hlast
      exact absurd (htrimmed.back _ hlast) (by decide)

/-- The layout of a written request. -/
def printed (ending : LineEnd) (fields : List (String × String)) (r : Request) : Layout where
  lines := ⟨ofText r.requestLine, ending⟩ :: fields.map fun e => ⟨ofText (headerLine e), ending⟩
  remainder := .blank ending r.body

/-- The layout of a written request has the bytes that are written. -/
theorem bytes_printed (ending : LineEnd) (fields : List (String × String)) (r : Request) :
    (printed ending fields r).bytes = print ending fields r := by
  have hfields : (fields.map fun e => Line.mk (ofText (headerLine e)) ending).flatMap Line.bytes
      = ofText (String.join (fields.map fun e => headerLine e ++ ending.text)) := by
    induction fields with
    | nil => rfl
    | cons e fields ih =>
      rw [List.map_cons, List.flatMap_cons, ih, List.map_cons, String.join_cons, ofText_append,
        ofText_append, LineEnd.ofText_text, Line.bytes]
  rw [Layout.bytes, printed, print, List.flatMap_cons, hfields]
  simp only [ofText_append, LineEnd.ofText_text, Line.bytes, Remainder.bytes, List.append_assoc]

/-- The layout of a written request is one that can be read back: no line is empty, and each of them
fits on a line. -/
theorem valid_printed {r : Request} (h : r.WellFormed) {fields : List (String × String)}
    (hfields : fields.Perm r.headers.entries) (ending : LineEnd) :
    (printed ending fields r).Valid := by
  have hne : ∀ {line : String}, line.toList ≠ [] → ofText line ≠ [] := fun {line} hline hnil =>
    hline (ofChars_eq_nil (ofText_eq line ▸ hnil))
  refine ⟨fun k hk => ?_, nofun⟩
  rcases List.mem_cons.mp hk with rfl | hk
  · exact ⟨valid_requestLine h ending, hne (by simp [toList_requestLine])⟩
  · obtain ⟨e, he, rfl⟩ := List.mem_map.mp hk
    exact ⟨valid_headerLine h (hfields.mem_iff.mp he) ending, hne (by simp [toList_headerLine])⟩

/-- With one line end throughout, a message is not mixed. -/
theorem not_mixed_printed (ending : LineEnd) (fields : List (String × String)) (r : Request) :
    ¬ (printed ending fields r).Mixed := by
  rintro ⟨hfeed, hending⟩
  obtain rfl : ending = .returnFeed := Option.some.inj hending
  -- A mixed message has lines of both kinds, and here all are of one.
  have hall : ∀ k ∈ (printed .returnFeed fields r).lines, k.ending = .returnFeed := by
    intro k hk
    rcases List.mem_cons.mp hk with rfl | hk
    · rfl
    · obtain ⟨e, -, rfl⟩ := List.mem_map.mp hk
      rfl
  rw [Option.map_eq_some_iff] at hfeed
  obtain ⟨k, hk, hfeed⟩ := hfeed
  rw [hall k (List.mem_of_getLast? hk)] at hfeed
  cases hfeed

/-- What is written for a well-formed request is read back. -/
theorem read_print_of_wellFormed {r : Request} (h : r.WellFormed) (ending : LineEnd)
    {fields : List (String × String)} (hfields : fields.Perm r.headers.entries) :
    read (print ending fields r) = .ok r := by
  -- The lines say what the request says, each for itself.
  have hspells : Spells r.requestLine (fields.map headerLine) r := by
    refine ⟨readRequestLine_requestLine h, fields, ?_, ?_⟩
    · rw [List.map_map]
      refine List.map_congr_left fun e he => ?_
      have he := hfields.mem_iff.mp he
      exact field?_headerLine (h.name e he).1 (h.name e he).2.2 (h.value e he).2
    · exact (Dict.ofList_eq_of_perm h.sorted hfields).symm
  have hcontents : (printed ending fields r).contents
      = (r.requestLine :: fields.map headerLine).map ofText := by
    simp [printed, Layout.contents, Remainder.lastLine]
  rw [← bytes_printed]
  exact read_bytes_of_spells (valid_printed h hfields ending) (not_mixed_printed ending fields r)
    hcontents hspells (fun hversion => has_iff.mpr (h.host hversion)) rfl h.remote

/-- Every accepted request is well-formed. Every well-formed request is read back from what is
written for it, whatever the line end and the order of its headers, and so is every accepted
one. -/
theorem read_print :
    (∀ bs r, read bs = .ok r → r.WellFormed)
      ∧ (∀ r : Request, r.WellFormed → ∀ ending fields, fields.Perm r.headers.entries →
        read (print ending fields r) = .ok r)
      ∧ ∀ bs r, read bs = .ok r → ∀ ending fields, fields.Perm r.headers.entries →
        read (print ending fields r) = .ok r :=
  ⟨fun _ _ => wellFormed_of_read,
    fun _ h ending _ hfields => read_print_of_wellFormed h ending hfields,
    fun _ _ hread ending _ hfields =>
      read_print_of_wellFormed (wellFormed_of_read hread) ending hfields⟩

/-- A request with an empty header value, a value with a colon and a carriage return in it, and
empty lines in its body. -/
def sample : Request where
  method := .put
  target := "/a?b"
  version := .http11
  headers := ⟨[("Empty", ""), ("Host", "x:\ry")]⟩
  body := ofText "\r\n\r\n\n\n"
  remote := none

/-- The sample is well-formed. -/
theorem wellFormed_sample : sample.WellFormed := by
  have hentries : ∀ e ∈ sample.headers.entries, e = ("Empty", "") ∨ e = ("Host", "x:\ry") := by
    intro e he
    simpa [sample] using he
  refine ⟨.inr rfl, not_blank_of_all (by decide), ?_, ?_, ?_, rfl, ?_⟩
  · intro e he
    rcases hentries e he with rfl | rfl
    · exact ⟨by decide, by decide, trimmed_of_trim_eq (by decide)⟩
    · exact ⟨by decide, by decide, trimmed_of_trim_eq (by decide)⟩
  · intro e he
    rcases hentries e he with rfl | rfl
    · exact ⟨by decide, trimmed_of_trim_eq (by decide)⟩
    · exact ⟨by decide, trimmed_of_trim_eq (by decide)⟩
  · exact fun _ => ⟨("Host", "x:\ry"), by simp [sample], rfl⟩
  · exact List.pairwise_cons.mpr ⟨by decide, List.pairwise_singleton _ _⟩

/-- The sample is read back with line feeds alone and its headers the other way round. -/
theorem read_print_sample :
    sample.WellFormed
      ∧ read (print .feed [("Host", "x:\ry"), ("Empty", "")] sample) = .ok sample :=
  ⟨wellFormed_sample, read_print.2.1 sample wellFormed_sample .feed _ (.swap ..)⟩

end HttpMux.Request
