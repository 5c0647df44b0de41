import HttpMux.Proofs.Request.Head

/-!
# `HttpMux.Proofs.Request.Lines`: the request that the lines of a head spell

* `Spells`: what the lines in front of the first empty one say about a request.
* `exists_spells_of_read`: the lines of every accepted message spell its request.
* `read_bytes_of_spells`: a message that is not mixed is accepted if its lines spell a request.

White space at the end of a line has no part in this, so a carriage return there changes nothing.
-/

set_option autoImplicit false

namespace HttpMux.Request

open Text Bytes

/-- The name and the value that a header line has. -/
def field? (line : String) : Option (String × String) :=
  (splitFirst? ':' line).map fun (name, value) => (trim name, trim value)

/-- The first line is the request line of a request, and the others are its headers. -/
structure Spells (first : String) (rest : List String) (r : Request) : Prop where
  requestLine : readRequestLine first = .ok (r.method, r.target, r.version)
  headers : ∃ fields, rest.map field? = fields.map some ∧ r.headers = Dict.ofList fields

/-! ### The request line -/

/-- A request line is accepted if it has three words, and they are a method, a target and a
version. -/
theorem readRequestLine_eq_ok_iff {line : String} {method : Method} {target : String}
    {version : Version} :
    readRequestLine line = .ok (method, target, version) ↔
      ∃ m v, words line = [m, target, v] ∧ Method.ofName? m = some method ∧ isTarget target
        ∧ Version.ofName? v = some version := by
  constructor
  · -- Each check that the reader makes gives one part of what the line must be.
    intro h
    rw [readRequestLine] at h
    split at h
    · rename_i m t v hwords
      split at h
      · cases h
      · rename_i hmethod
        split at h
        · rename_i htarget
          split at h
          · cases h
          · rename_i hversion
            cases h
            exact ⟨m, v, hwords, hmethod, htarget, hversion⟩
        · cases h
    · cases h
  · rintro ⟨m, v, hwords, hmethod, htarget, hversion⟩
    simp only [readRequestLine, hwords, hmethod, htarget, hversion, if_true]

/-- A carriage return at the end of a request line changes nothing. -/
theorem readRequestLine_same {line read : List Char} (h : SameLine line read)
    {x : Method × String × Version} :
    readRequestLine (String.ofList read) = .ok x
      ↔ readRequestLine (String.ofList line) = .ok x := by
  have hwords : words (String.ofList read) = words (String.ofList line) := by
    rcases h with rfl | rfl
    · rfl
    · rw [words, words, String.toList_ofList, String.toList_ofList,
        wordsOf_concat_blank (by decide)]
  rw [readRequestLine_eq_ok_iff, readRequestLine_eq_ok_iff, hwords]

/-! ### Header lines -/

/-- An empty line is no header. -/
theorem field?_empty : field? "" = none := rfl

/-- A carriage return at the end of a header line changes nothing. -/
theorem field?_same {line read : List Char} (h : SameLine line read) :
    field? (String.ofList read) = field? (String.ofList line) := by
  rcases h with rfl | rfl
  · rfl
  · rw [field?, field?, splitFirst?, splitFirst?, String.toList_ofList, String.toList_ofList]
    -- The carriage return is at the end of the value, and trimmed, or there is no colon at all.
    by_cases hcolon : ':' ∈ line
    · obtain ⟨before, after, rfl, hbefore⟩ := List.eq_append_cons_of_mem hcolon
      rw [List.append_assoc, List.cons_append, splitFirstChars?_append hbefore,
        splitFirstChars?_append hbefore]
      simp only [Option.map_some, trim, String.toList_ofList]
      rw [trimChars_concat_blank (by decide)]
    · rw [splitFirstChars?_eq_none hcolon, splitFirstChars?_eq_none (by simp [hcolon])]

/-- A line that is not empty is read as a header, or it is an error. -/
theorem readHeaders_cons {line : String} {lines : List String} {headers : Headers}
    (h : line ≠ "") :
    readHeaders headers (line :: lines) = match field? line with
      | none => .error (.badHeader line)
      | some (name, value) => readHeaders (headers.insert name value) lines := by
  rw [readHeaders, if_neg h, field?]
  cases splitFirst? ':' line <;> rfl

/-- Lines that have names and values are read in full. -/
theorem readHeaders_of_fields {lines : List String} {fields : List (String × String)}
    (h : lines.map field? = fields.map some) (headers : Headers) :
    readHeaders headers lines = .ok (fields.foldl (fun d (k, v) => d.insert k v) headers) := by
  -- The headers that are read so far grow line by line.
  induction lines generalizing fields headers with
  | nil =>
    rw [List.map_nil, eq_comm, List.map_eq_nil_iff] at h
    rw [h]
    rfl
  | cons line lines ih =>
    cases fields with
    | nil => cases h
    | cons field fields =>
      obtain ⟨hfield, hrest⟩ := List.cons.inj h
      have hne : line ≠ "" := by
        rintro rfl
        rw [field?_empty] at hfield
        cases hfield
      rw [readHeaders_cons hne, hfield]
      exact ih hrest _

/-- If lines are read that are not empty, they have names and values, and nothing is read from what
follows them. -/
theorem exists_fields_of_readHeaders {lines : List String} {extra : List (List Char)}
    (hlines : ∀ line ∈ lines, line ≠ "") (hextra : Spent extra) {headers found : Headers}
    (h : readHeaders headers (lines ++ extra.map String.ofList) = .ok found) :
    ∃ fields : List (String × String), lines.map field? = fields.map some
      ∧ found = fields.foldl (fun d (k, v) => d.insert k v) headers := by
  induction lines generalizing headers with
  | nil =>
    refine ⟨[], rfl, ?_⟩
    -- Nothing is read from the rest: it ends the headers, or it is no header.
    cases hextra with
    | none => exact (Except.ok.inj h).symm
    | empty => exact (Except.ok.inj h).symm
    | lone => cases h
  | cons line lines ih =>
    rw [List.cons_append, readHeaders_cons (hlines line List.mem_cons_self)] at h
    split at h
    · cases h
    · rename_i name value hfield
      obtain ⟨fields, hfields, hfound⟩ :=
        ih (fun line hline => hlines line (List.mem_cons_of_mem _ hline)) h
      refine ⟨(name, value) :: fields, ?_, hfound⟩
      rw [List.map_cons, hfield, hfields, List.map_cons]

/-! ### Messages -/

/-- A computation in two parts succeeds if both do. -/
theorem bind_eq_ok {ε α β : Type} {x : Except ε α} {f : α → Except ε β} {b : β} :
    (x >>= f) = .ok b ↔ ∃ a, x = .ok a ∧ f a = .ok b := by
  cases x with
  | error e => simp [bind, Except.bind]
  | ok a => simp [bind, Except.bind]

/-- What the reader does with the head and the body of a message. -/
theorem read_eq_ok_iff {bs : Bytes} {r : Request} :
    read bs = .ok r ↔ ∃ text line lines, ofText text = (splitHead bs).1
      ∧ Text.lines text = line :: lines
      ∧ readRequestLine line = .ok (r.method, r.target, r.version)
      ∧ readHeaders Dict.empty lines = .ok r.headers
      ∧ (r.version = .http11 → r.headers.has "Host") ∧ r.body = (splitHead bs).2
      ∧ r.remote = none := by
  simp only [read]
  -- From left to right, one case of the reader after the other is ruled out or gives one of the
  -- parts.
  constructor
  · intro h
    split at h
    · rename_i text htext
      split at h
      · cases h
      · rename_i line lines hlines
        obtain ⟨⟨method, target, version⟩, hfirst, h⟩ := bind_eq_ok.mp h
        obtain ⟨headers, hheaders, h⟩ := bind_eq_ok.mp h
        split at h
        · cases h
        · rename_i hhost
          cases h
          refine ⟨text, line, lines, ofText_of_text? htext, hlines, hfirst, hheaders, ?_, rfl, rfl⟩
          intro hversion
          by_contra hnot
          exact hhost ⟨hversion, hnot⟩
    · cases h
  · rintro ⟨text, line, lines, htext, hlines, hfirst, hheaders, hhost, hbody, hremote⟩
    rw [← htext, text?_ofText]
    dsimp only
    rw [hlines]
    dsimp only
    rw [hfirst]
    refine bind_eq_ok.mpr ⟨_, rfl, bind_eq_ok.mpr ⟨_, hheaders, ?_⟩⟩
    rw [if_neg fun h => h.2 (hhost h.1), ← hbody, ← hremote]

/-- Lines that differ in carriage returns at their ends have the same headers. -/
theorem map_field?_same {texts reads : List (List Char)} (h : List.Forall₂ SameLine texts reads) :
    (reads.map String.ofList).map field? = (texts.map String.ofList).map field? := by
  induction h with
  | nil => rfl
  | cons hsame _ ih => rw [List.map_cons, List.map_cons, field?_same hsame, ih]; rfl

/-- No such line is empty if the lines without the carriage returns are not. -/
theorem ne_empty_of_same {texts reads : List (List Char)} (h : List.Forall₂ SameLine texts reads)
    (hne : ∀ text ∈ texts, text ≠ []) : ∀ line ∈ reads.map String.ofList, line ≠ "" := by
  induction h with
  | nil => nofun
  | @cons text read texts reads hsame _ ih =>
    have htext := hne text List.mem_cons_self
    intro line hline
    rcases List.mem_cons.mp hline with rfl | hline
    · rw [Ne, String.ofList_eq_empty_iff]
      rcases hsame with rfl | rfl
      · exact htext
      · simp
    · exact ih (fun text htext => hne text (List.mem_cons_of_mem _ htext)) line hline

/-- There is no request line in lines of which none is read. -/
theorem Spent.not_requestLine {extra : List (List Char)} (hextra : Spent extra) {line : String}
    {lines : List String} (h : extra.map String.ofList = line :: lines)
    (x : Method × String × Version) : readRequestLine line ≠ .ok x := by
  intro hline
  obtain ⟨method, target, version⟩ := x
  obtain ⟨m, v, hwords, -⟩ := readRequestLine_eq_ok_iff.mp hline
  cases hextra with
  | none => cases h
  | empty ls =>
    obtain ⟨rfl, -⟩ := List.cons.inj h
    cases hwords
  | lone =>
    obtain ⟨rfl, -⟩ := List.cons.inj h
    cases hwords

/-- The lines of a layout are not empty and have no line feed in them. -/
theorem Layout.Valid.of_mem_contents {l : Layout} (hl : l.Valid) :
    ∀ content ∈ l.contents, content ≠ [] ∧ 0x0A ∉ content := by
  intro content hcontent
  rcases List.mem_append.mp hcontent with hmem | hmem
  · obtain ⟨k, hk, rfl⟩ := List.mem_map.mp hmem
    exact ⟨(hl.lines k hk).2, (hl.lines k hk).1.noFeed⟩
  · -- Only bytes without a line end at the end of the message are one more line.
    cases hremainder : l.remainder with
    | blank ending rest =>
      rw [hremainder] at hmem
      cases hmem
    | unended last =>
      rw [hremainder, Remainder.lastLine] at hmem
      split at hmem
      · cases hmem
      · rename_i hne
        rw [List.mem_singleton.mp hmem]
        exact ⟨hne, hl.last last hremainder⟩

/-- The lines of every accepted message spell its request. -/
theorem exists_spells_of_read {bs : Bytes} {r : Request} (h : read bs = .ok r) :
    ∃ first rest, (Layout.ofBytes bs).contents = (first :: rest).map ofText
      ∧ Spells first rest r := by
  obtain ⟨text, line, lines, htext, hlines, hfirst, hheaders, -, -, -⟩ := read_eq_ok_iff.mp h
  have hvalid := Layout.valid_ofBytes bs
  rw [← Layout.bytes_ofBytes bs, ofText_eq] at htext
  obtain ⟨extra, hextra, texts, reads, htexts, hsame, hread⟩ :=
    Layout.exists_reads_head hvalid htext
  rw [Text.lines, hread, List.map_append] at hlines
  have hne : ∀ text ∈ texts, text ≠ [] := by
    rintro text htext rfl
    exact (hvalid.of_mem_contents [] (htexts ▸ List.mem_map_of_mem htext)).1 rfl
  have hreads := ne_empty_of_same hsame hne
  -- The first line is the request line, the others are headers, and what is read beyond them is
  -- nothing.
  cases hsame with
  | nil =>
    -- A message that begins with an empty line has no request line.
    exact absurd hfirst (hextra.not_requestLine hlines _)
  | @cons first read rest reads hfirstSame hrestSame =>
    obtain ⟨rfl, rfl⟩ := List.cons.inj hlines
    obtain ⟨fields, hfields, hheaders⟩ := exists_fields_of_readHeaders
      (fun line hline => hreads line (List.mem_cons_of_mem _ hline)) hextra hheaders
    refine ⟨String.ofList first, rest.map String.ofList, ?_,
      (readRequestLine_same hfirstSame).mp hfirst, fields, ?_, hheaders⟩
    · rw [← htexts]
      simp
    · rw [← hfields, map_field?_same hrestSame]

/-- A message that is not mixed is accepted if its lines spell a request and the rest is its
body. -/
theorem read_bytes_of_spells {l : Layout} (hl : l.Valid) (hnot : ¬ l.Mixed) {first : String}
    {rest : List String} (hcontents : l.contents = (first :: rest).map ofText) {r : Request}
    (h : Spells first rest r) (hhost : r.version = .http11 → r.headers.has "Host")
    (hbody : r.body = l.remainder.body) (hremote : r.remote = none) : read l.bytes = .ok r := by
  have hne : l.contents ≠ [] := by
    rw [hcontents]
    exact List.cons_ne_nil _ _
  -- The head is a text, since all its lines are, and it has the lines of the layout.
  obtain ⟨cs, hcs⟩ := Layout.exists_head hl hnot hne fun content hcontent => by
    rw [hcontents] at hcontent
    obtain ⟨line, -, rfl⟩ := List.mem_map.mp hcontent
    exact ⟨line.toList, (ofText_eq line).symm⟩
  obtain ⟨texts, reads, htexts, hsame, hread⟩ := Layout.reads_head hl hnot hne hcs
  obtain ⟨fields, hfields, hheaders⟩ := h.headers
  have htexts : texts = (first :: rest).map String.toList := by
    refine List.map_injective_iff.mpr ofChars_injective ?_
    rw [htexts, hcontents, List.map_map]
    exact List.map_congr_left fun line _ => ofText_eq line
  rw [htexts, List.map_cons] at hsame
  obtain ⟨read, reads, hfirstSame, hrestSame, rfl⟩ := List.forall₂_cons_left_iff.mp hsame
  refine read_eq_ok_iff.mpr ⟨String.ofList cs, String.ofList read, reads.map String.ofList,
    (ofText_ofList cs).trans hcs, ?_, ?_, ?_, hhost, ?_, hremote⟩
  · rw [Text.lines, String.toList_ofList, hread, List.append_nil, List.map_cons]
  · rw [readRequestLine_same hfirstSame, String.ofList_toList]
    exact h.requestLine
  · rw [hheaders, Dict.ofList]
    refine readHeaders_of_fields ?_ Dict.empty
    rw [map_field?_same hrestSame, ← hfields]
    simp
  · rw [hbody, Layout.splitHead_body hl hnot hne]

end HttpMux.Request
