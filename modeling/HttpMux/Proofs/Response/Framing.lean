import HttpMux.Proofs.Response.Building
import HttpMux.Proofs.Text.Cutting
import HttpMux.Proofs.Text.Encoding
import HttpMux.Request.Reader
import HttpMux.Response.Wire

/-!
# `HttpMux.Proofs.Response.Framing`: responses can be read back from their bytes

A response is sent as lines, an empty line and its body. A receiver cuts at the first empty line.
That is the right place, because no line in front of it is empty and no line has a line end in it.
The body may have empty lines of its own.

* `cutHead?_intercalate` and `headLines_intercalate`: the head and its lines are found again.
* `bytesInOrder_eq`: the lines that a response is sent as.
* `LengthFits`: a header that says how long the body is says it right. `lengthFits_built` says that
  this is so for every response that is built without setting this header by hand.
* `received_built`: what a receiver reads, and that there is exactly one length among it.
-/

set_option autoImplicit false

namespace HttpMux.Response

open Text Headers
open Bytes (ofText)
open Request (offsetOf? blankAfterReturn)

/-! ### Cutting bytes at line ends -/

/-- Carriage return and line feed. -/
def lineEndBytes : Bytes := [0x0D, 0x0A]

/-- No byte of the line belongs to a line end. -/
def IsLine (l : Bytes) : Prop := 0x0D ∉ l ∧ 0x0A ∉ l

/-- The bytes in front of the first empty line and those behind it, if there is an empty line. -/
def cutHead? (bs : Bytes) : Option (Bytes × Bytes) :=
  (offsetOf? blankAfterReturn bs).map fun i => (bs.take i, bs.drop (i + 4))

/-- The lines of a head. -/
def headLines : Bytes → List Bytes
  | 0x0D :: 0x0A :: bs => [] :: headLines bs
  | b :: bs => (headLines bs).modifyHead (b :: ·)
  | [] => [[]]

/-- The search for the empty line is one walk over the bytes. -/
theorem cutHead?_cons (b : UInt8) (bs : Bytes) :
    cutHead? (b :: bs)
      = if blankAfterReturn.isPrefixOf (b :: bs) then some ([], bs.drop 3)
        else (cutHead? bs).map fun p => (b :: p.1, p.2) := by
  rw [cutHead?, offsetOf?, cutHead?]
  split
  · rfl
  · rw [Option.map_map, Option.map_map]
    rfl

/-- The walk passes a byte that is no carriage return. -/
theorem cutHead?_cons_of_ne {b : UInt8} (hb : b ≠ 0x0D) (bs : Bytes) :
    cutHead? (b :: bs) = (cutHead? bs).map fun p => (b :: p.1, p.2) := by
  rw [cutHead?_cons, if_neg]
  simp [blankAfterReturn, Ne.symm hb]

/-- The walk passes a line. -/
theorem cutHead?_append {l : Bytes} (hl : IsLine l) (bs : Bytes) :
    cutHead? (l ++ bs) = (cutHead? bs).map fun p => (l ++ p.1, p.2) := by
  induction l with
  | nil => simp
  | cons b l ih =>
    obtain ⟨hreturn, hfeed⟩ := hl
    rw [List.mem_cons, not_or] at hreturn hfeed
    rw [List.cons_append, cutHead?_cons_of_ne (Ne.symm hreturn.1), ih ⟨hreturn.2, hfeed.2⟩,
      Option.map_map]
    rfl

/-- The walk passes a line end, unless a carriage return follows. -/
theorem cutHead?_lineEnd {bs : Bytes} (h : bs.head? ≠ some 0x0D) :
    cutHead? (lineEndBytes ++ bs)
      = (cutHead? bs).map fun p => (lineEndBytes ++ p.1, p.2) := by
  have hblank : ¬ blankAfterReturn.isPrefixOf (0x0D :: 0x0A :: bs) := by
    cases bs with
    | nil => decide
    | cons b bs =>
      intro hfront
      have hb : b = 0x0D := by
        simp only [blankAfterReturn, List.isPrefixOf_cons_cons, Bool.and_eq_true,
          beq_iff_eq] at hfront
        exact hfront.2.2.1.symm
      exact h (congrArg some hb)
  show cutHead? (0x0D :: 0x0A :: bs) = _
  rw [cutHead?_cons, if_neg hblank, cutHead?_cons_of_ne (by decide), Option.map_map]
  rfl

/-- Lines with something in them and an empty line behind them are the head. -/
theorem cutHead?_intercalate {ls : List Bytes} (hne : ls ≠ [])
    (hls : ∀ l ∈ ls, l ≠ [] ∧ IsLine l) (body : Bytes) :
    cutHead? (lineEndBytes.intercalate ls ++ blankAfterReturn ++ body)
      = some (lineEndBytes.intercalate ls, body) := by
  rw [List.append_assoc]
  -- Induction on the lines: the walk passes all of the first one, then its line end, which is
  -- followed by something other than a carriage return unless it belongs to the empty line.
  induction ls with
  | nil => exact absurd rfl hne
  | cons l ls ih =>
    have hl := (hls l List.mem_cons_self).2
    cases ls with
    | nil =>
      rw [List.intercalate_singleton, cutHead?_append hl]
      show (cutHead? (0x0D :: _)).map _ = _
      rw [cutHead?_cons, if_pos (by simp [blankAfterReturn])]
      simp
    | cons next ls =>
      -- There is something in the next line, and it is no carriage return.
      have hnext := hls next (List.mem_cons_of_mem _ List.mem_cons_self)
      have hhead : (lineEndBytes.intercalate (next :: ls) ++ (blankAfterReturn ++ body)).head?
          ≠ some 0x0D := by
        obtain ⟨b, next, rfl⟩ := List.exists_cons_of_ne_nil hnext.1
        have hb : b ≠ 0x0D := fun h => hnext.2.1 (h ▸ List.mem_cons_self)
        cases ls with
        | nil => simpa [List.intercalate_singleton] using hb
        | cons => simpa [List.intercalate_cons_cons] using hb
      have ih := ih (List.cons_ne_nil _ _) fun l hl => hls l (List.mem_cons_of_mem _ hl)
      rw [List.intercalate_cons_cons, List.append_assoc, List.append_assoc, cutHead?_append hl,
        cutHead?_lineEnd hhead, ih]
      simp

/-- A line in front of a head is put in front of its first line. -/
theorem headLines_append {l : Bytes} (hl : IsLine l) (bs : Bytes) :
    headLines (l ++ bs) = (headLines bs).modifyHead (l ++ ·) := by
  induction l with
  | nil => exact (congrFun List.modifyHead_id _).symm
  | cons b l ih =>
    obtain ⟨hreturn, hfeed⟩ := hl
    rw [List.mem_cons, not_or] at hreturn hfeed
    rw [List.cons_append, headLines, ih ⟨hreturn.2, hfeed.2⟩, List.modifyHead_modifyHead]
    · rfl
    · rintro _ rfl
      exact absurd rfl hreturn.1

/-- The lines of a head are those it was made of. -/
theorem headLines_intercalate {ls : List Bytes} (hne : ls ≠ []) (hls : ∀ l ∈ ls, IsLine l) :
    headLines (lineEndBytes.intercalate ls) = ls := by
  -- The last line has no line end behind it, so it is a case of its own.
  induction ls with
  | nil => exact absurd rfl hne
  | cons l ls ih =>
    have hl := hls l List.mem_cons_self
    cases ls with
    | nil =>
      have h := headLines_append hl []
      rw [List.append_nil] at h
      rw [List.intercalate_singleton, h]
      simp [headLines]
    | cons next ls =>
      have ih := ih (List.cons_ne_nil _ _) fun l hl => hls l (List.mem_cons_of_mem _ hl)
      rw [List.intercalate_cons_cons, List.append_assoc, headLines_append hl]
      show ([] :: headLines (lineEndBytes.intercalate (next :: ls))).modifyHead _ = _
      rw [ih]
      simp

/-- Lines with a line end behind each of them. -/
theorem flatMap_lineEnd (l : Bytes) (ls : List Bytes) :
    (l :: ls).flatMap (· ++ lineEndBytes) = lineEndBytes.intercalate (l :: ls) ++ lineEndBytes := by
  induction ls generalizing l with
  | nil => simp [List.intercalate_singleton]
  | cons next ls ih =>
    rw [List.flatMap_cons, ih next, List.intercalate_cons_cons, List.append_assoc,
      List.append_assoc, List.append_assoc]

/-! ### The lines of a response -/

/-- The first line. -/
def statusLine (s : Status) : String := "HTTP/1.1 " ++ s.text

/-- The line of a header. -/
def fieldLine (e : String × String) : String := e.1 ++ ": " ++ e.2

/-- The headers that are sent: those of the response in the given order, and the length of its body
if none of them is a length. -/
def sentFields (r : Response) (headers : List (String × String)) : List (String × String) :=
  headers ++ if (r.header? "Content-Length").isSome then []
    else [("Content-Length", toString r.body.length)]

/-- The lines that are sent. -/
def sentLines (r : Response) (headers : List (String × String)) : List Bytes :=
  (statusLine r.status :: (r.sentFields headers).map fieldLine).map ofText

/-- A response is sent as its lines, an empty line and its body. -/
theorem bytesInOrder_eq (r : Response) (headers : List (String × String)) :
    r.bytesInOrder headers
      = lineEndBytes.intercalate (r.sentLines headers) ++ blankAfterReturn ++ r.body := by
  -- Whether a length is added is decided once, for the lines and for the headers that they say.
  have hlines : r.headerLines headers
      = (r.sentFields headers).map fun e => fieldLine e ++ lineEnd := by
    rw [headerLines, sentFields, List.map_append]
    cases r.header? "Content-Length" <;> rfl
  have hjoin : ∀ es : List (String × String),
      ofText (String.join (es.map fun e => fieldLine e ++ lineEnd))
        = ((es.map fieldLine).map ofText).flatMap (· ++ lineEndBytes) := by
    intro es
    induction es with
    | nil => rfl
    | cons e es ih =>
      rw [List.map_cons, String.join_cons, Bytes.ofText_append, Bytes.ofText_append, ih]
      rfl
  -- The line end behind the last line and the one that is written at the end are the empty line.
  have hend : ofText lineEnd = lineEndBytes := by decide
  have hblank : blankAfterReturn = lineEndBytes ++ lineEndBytes := rfl
  rw [bytesInOrder, hlines, Bytes.ofText_append, Bytes.ofText_append, Bytes.ofText_append, hjoin,
    hend, sentLines, List.map_cons, hblank, ← List.append_assoc (lineEndBytes.intercalate _),
    ← flatMap_lineEnd, List.flatMap_cons]
  rfl

/-! ### The length of the body -/

/-- The change sets the length of the body by hand. -/
def Change.SetsLength : Change → Prop
  | header name _ => lower name = lower "Content-Length"
  | _ => False

instance : DecidablePred Change.SetsLength
  | .header name _ => inferInstanceAs (Decidable (lower name = lower "Content-Length"))
  | .contentType _ | .text _ | .body _ | .json _ | .remove _ | .status _ =>
    inferInstanceAs (Decidable False)

/-- A header that says how long the body is says it right. -/
def LengthFits (r : Response) : Prop :=
  ∀ v, r.header? "Content-Length" = some v → v = toString r.body.length

variable {r : Response}

/-- A body is set together with its length. -/
theorem lengthFits_withBody (hr : r.headers.OneSpelling) (body : Bytes) :
    (r.withBody body).LengthFits := by
  intro v hv
  have hlength : (r.withBody body).header? "Content-Length" = some (toString body.length) := by
    rw [withBody, header?_withHeader (r := { r with body }) hr, if_pos rfl]
  rw [hlength] at hv
  exact (Option.some.inj hv).symm

/-- Setting another header does not touch the length. -/
theorem LengthFits.withHeader (h : r.LengthFits) (hr : r.headers.OneSpelling) {name : String}
    (hname : lower name ≠ lower "Content-Length") (value : String) :
    (r.withHeader name value).LengthFits := by
  intro v hv
  rw [header?_withHeader hr, if_neg (Ne.symm hname)] at hv
  exact h v hv

/-- Removing a header takes away the length or does not touch it. -/
theorem LengthFits.withoutHeader (h : r.LengthFits) (hr : r.headers.OneSpelling) (name : String) :
    (r.withoutHeader name).LengthFits := by
  intro v hv
  rw [header?_withoutHeader hr] at hv
  split at hv
  · cases hv
  · exact h v hv

/-- A change that does not set the length by hand leaves it right. -/
theorem LengthFits.apply (h : r.LengthFits) (hr : r.headers.OneSpelling) {c : Change}
    (hc : ¬ c.SetsLength) : (c.apply r).LengthFits := by
  -- Changes of the body set the length anew. The others set or remove a header.
  cases c with
  | header name value => exact h.withHeader hr hc value
  | contentType value => exact h.withHeader hr (by decide) value
  | text s => exact lengthFits_withBody hr _
  | body bs => exact lengthFits_withBody hr bs
  | json v => exact lengthFits_withBody (hr.set _ _) _
  | remove name =>
    rw [Change.apply, takeHeader_eq]
    exact h.withoutHeader hr name
  | status s => exact h

/-- The length is right in every response that is built without setting it by hand. -/
theorem lengthFits_built (start : Start) {changes : List Change}
    (hchanges : ∀ c ∈ changes, ¬ c.SetsLength) : (built start changes).LengthFits := by
  induction changes using List.reverseRecOn with
  | nil =>
    cases start with
    | new status => nofun
    | ofStatus status =>
      exact lengthFits_withBody ((Headers.oneSpelling_empty.set _ _).set _ _) _
  | append_singleton changes c ih =>
    rw [built, List.foldl_concat]
    exact (ih fun c hc => hchanges c (List.mem_append_left _ hc)).apply
      (oneSpelling_built start changes)
      (hchanges c (List.mem_append_right _ (List.mem_singleton.mpr rfl)))

/-- There is one length among the headers that are sent, and it is that of the body. -/
theorem sentFields_length (h : r.LengthFits) (hr : r.headers.OneSpelling)
    {headers : List (String × String)} (hheaders : headers.Perm r.headers.entries) :
    ∃ name, (r.sentFields headers).filter (fun e => lower e.1 = lower "Content-Length")
      = [(name, toString r.body.length)] := by
  -- Either a length is added behind the headers, or one of them is the length, and it is the right
  -- one.
  cases hvalue : r.header? "Content-Length" with
  | none =>
    -- No header is a length, so the one behind them is the only one.
    have hnone : headers.filter (fun e => lower e.1 = lower "Content-Length") = [] := by
      refine List.filter_eq_nil_iff.mpr fun e he hname => ?_
      have hsome := hr.value?_eq_some_iff.mpr
        ⟨e, hheaders.mem_iff.mp he, of_decide_eq_true hname, rfl⟩
      rw [header?] at hvalue
      rw [hvalue] at hsome
      cases hsome
    refine ⟨"Content-Length", ?_⟩
    rw [sentFields, hvalue, List.filter_append, hnone]
    simp
  | some v =>
    obtain ⟨e, he, hname, rfl⟩ := hr.value?_eq_some_iff.mp hvalue
    have hlength := h e.2 hvalue
    have hnodup : headers.Nodup := hheaders.nodup_iff.mpr (List.Nodup.of_map _ hr)
    have hone : headers.filter (fun e => lower e.1 = lower "Content-Length") = [e] := by
      refine List.perm_singleton.mp ((List.perm_ext_iff_of_nodup (hnodup.filter _)
        (List.nodup_singleton e)).mpr fun e' => ?_)
      rw [List.mem_filter, decide_eq_true_iff, List.mem_singleton, hheaders.mem_iff]
      constructor
      · rintro ⟨he', hname'⟩
        exact hr.eq_of_lower_eq he' he (hname'.trans hname.symm)
      · rintro rfl
        exact ⟨he, hname⟩
    refine ⟨e.1, ?_⟩
    rw [sentFields, hvalue, Option.isSome_some, if_pos rfl, List.append_nil, hone, ← hlength]

/-! ### What a receiver reads -/

/-- What a receiver reads from the bytes of a response. -/
structure Received where
  status : Status
  fields : List (String × String)
  body : Bytes
  deriving DecidableEq, Repr

/-- The status that a first line says. -/
def statusOf? (line : String) : Option Status := Status.all.find? fun s => statusLine s = line

/-- The name and the value that the line of a header says. -/
def fieldOf? (line : String) : Option (String × String) :=
  (splitFirst? ':' line).bind fun (name, rest) => (dropStart? " " rest).map fun v => (name, v)

/-- What bytes say, cut at the first empty line. -/
def receive? (bs : Bytes) : Option Received := do
  let (head, body) ← cutHead? bs
  match ← (headLines head).mapM Bytes.text? with
  | [] => none
  | first :: rest => return ⟨← statusOf? first, ← rest.mapM fieldOf?, body⟩

/-- A header that can be sent: there is no line end in it, and no colon in its name. -/
structure Sendable (e : String × String) : Prop where
  noColon : ':' ∉ e.1.toList
  name : '\r' ∉ e.1.toList ∧ '\n' ∉ e.1.toList
  value : '\r' ∉ e.2.toList ∧ '\n' ∉ e.2.toList

/-- The characters of the line of a header are the name, a colon, a space and the value. -/
theorem toList_fieldLine (e : String × String) :
    (fieldLine e).toList = e.1.toList ++ ':' :: ' ' :: e.2.toList := by
  simp [fieldLine]

/-- A text without line ends is a line in bytes too. -/
theorem isLine_ofText {line : String} (hreturn : '\r' ∉ line.toList)
    (hfeed : '\n' ∉ line.toList) : IsLine (ofText line) := by
  rw [Bytes.ofText_eq]
  exact ⟨fun h => hreturn ((Bytes.mem_ofChars_iff (c := '\r') (by decide)).mp h),
    fun h => hfeed ((Bytes.mem_ofChars_iff (c := '\n') (by decide)).mp h)⟩

/-- The status is read back from the first line. -/
theorem statusOf?_statusLine (s : Status) : statusOf? (statusLine s) = some s := by
  cases s <;> decide

/-- The first line has something in it, and no line end. -/
theorem not_mem_statusLine (s : Status) :
    (statusLine s).toList ≠ [] ∧ '\r' ∉ (statusLine s).toList ∧ '\n' ∉ (statusLine s).toList := by
  cases s <;> decide

/-- A header is read back from its line, if there is no colon in its name. -/
theorem fieldOf?_fieldLine {e : String × String} (he : ':' ∉ e.1.toList) :
    fieldOf? (fieldLine e) = some e := by
  have hspace : dropStart? " " (String.ofList (' ' :: e.2.toList)) = some e.2 := by
    simp [dropStart?, List.isPrefixOf?]
  rw [fieldOf?, splitFirst?, toList_fieldLine, splitFirstChars?_append he, Option.map_some,
    Option.bind_some]
  dsimp only
  rw [hspace, Option.map_some, String.ofList_toList]

/-- Every line that is sent has something in it, and no line end. -/
theorem isLine_sentLines {headers : List (String × String)}
    (hsendable : ∀ e ∈ r.sentFields headers, Sendable e) :
    ∀ l ∈ r.sentLines headers, l ≠ [] ∧ IsLine l := by
  -- Only an empty text has no bytes.
  have hne : ∀ {line : String}, line.toList ≠ [] → ofText line ≠ [] := by
    intro line hline hnil
    rw [Bytes.ofText_eq] at hnil
    exact hline (Bytes.ofChars_injective hnil)
  intro l hl
  obtain ⟨line, hline, rfl⟩ := List.mem_map.mp hl
  rcases List.mem_cons.mp hline with rfl | hline
  · obtain ⟨hsome, hreturn, hfeed⟩ := not_mem_statusLine r.status
    exact ⟨hne hsome, isLine_ofText hreturn hfeed⟩
  · obtain ⟨e, he, rfl⟩ := List.mem_map.mp hline
    obtain ⟨-, hname, hvalue⟩ := hsendable e he
    refine ⟨hne ?_, isLine_ofText ?_ ?_⟩ <;> rw [toList_fieldLine]
    · simp
    · simp [hname.1, hvalue.1]
    · simp [hname.2, hvalue.2]

/-- A number has no line end and no colon in it. -/
theorem not_mem_toString {c : Char} (hc : c.isDigit = false) (n : Nat) :
    c ∉ (toString n).toList := by
  intro hmem
  have hdigits : (toString n).toList = Nat.toDigits 10 n := Nat.toList_repr
  rw [hdigits] at hmem
  have hdigit := Nat.isDigit_of_mem_toDigits (by decide) (by decide) hmem
  rw [hc] at hdigit
  cases hdigit

/-- If the headers can be sent, so can the length that is added to them. -/
theorem sendable_sentFields {headers : List (String × String)}
    (hsendable : ∀ e ∈ headers, Sendable e) : ∀ e ∈ r.sentFields headers, Sendable e := by
  intro e he
  rcases List.mem_append.mp he with he | he
  · exact hsendable e he
  · split at he
    · cases he
    · obtain rfl := List.mem_singleton.mp he
      have hname : ':' ∉ "Content-Length".toList ∧ '\r' ∉ "Content-Length".toList
          ∧ '\n' ∉ "Content-Length".toList := by decide
      exact ⟨hname.1, hname.2, not_mem_toString rfl _, not_mem_toString rfl _⟩

/-- What is written member by member is read member by member. -/
theorem mapM_map_eq_some {α β : Type} {f : α → β} {g : β → Option α} {xs : List α}
    (h : ∀ x ∈ xs, g (f x) = some x) : (xs.map f).mapM g = some xs := by
  induction xs with
  | nil => rfl
  | cons x xs ih =>
    rw [List.map_cons, List.mapM_cons, h x List.mem_cons_self,
      ih fun y hy => h y (List.mem_cons_of_mem x hy)]
    rfl

/-- The head and the body of a response whose headers can be sent. -/
theorem cutHead?_bytesInOrder {headers : List (String × String)}
    (hsendable : ∀ e ∈ headers, Sendable e) :
    cutHead? (r.bytesInOrder headers)
        = some (lineEndBytes.intercalate (r.sentLines headers), r.body)
      ∧ headLines (lineEndBytes.intercalate (r.sentLines headers)) = r.sentLines headers := by
  have hlines := isLine_sentLines (r := r) (sendable_sentFields hsendable)
  have hne : r.sentLines headers ≠ [] := List.cons_ne_nil _ _
  rw [bytesInOrder_eq]
  exact ⟨cutHead?_intercalate hne hlines r.body,
    headLines_intercalate hne fun l hl => (hlines l hl).2⟩

/-- A receiver reads the status, the headers and the body of a response whose headers can be
sent. -/
theorem receive?_bytesInOrder {headers : List (String × String)}
    (hsendable : ∀ e ∈ headers, Sendable e) :
    receive? (r.bytesInOrder headers) = some ⟨r.status, r.sentFields headers, r.body⟩ := by
  obtain ⟨hcut, hlines⟩ := cutHead?_bytesInOrder (r := r) hsendable
  -- Each line is the encoding of a text, and the text of a header is read as the header.
  have htexts : (r.sentLines headers).mapM Bytes.text?
      = some (statusLine r.status :: (r.sentFields headers).map fieldLine) :=
    mapM_map_eq_some fun line _ => Bytes.text?_ofText line
  have hfields : ((r.sentFields headers).map fieldLine).mapM fieldOf?
      = some (r.sentFields headers) :=
    mapM_map_eq_some fun e he => fieldOf?_fieldLine (sendable_sentFields hsendable e he).noColon
  rw [receive?, hcut]
  simp only [Option.bind_eq_bind, Option.bind_some, hlines, htexts, statusOf?_statusLine, hfields]
  rfl

/-- Responses that are built without setting the length by hand are framed correctly, in whatever
order their headers are sent. In front of the first empty line there are the status line and one
line for each header, and the length of the body if no header gives it. Behind it there is the
body. There is exactly one length, and it is that of the body. So the status, the headers and the
body can be read back from the bytes. -/
theorem received_built (start : Start) {changes : List Change}
    (hchanges : ∀ c ∈ changes, ¬ c.SetsLength)
    (hsendable : ∀ e ∈ (built start changes).headers.entries, Sendable e)
    {headers : List (String × String)}
    (hheaders : headers.Perm (built start changes).headers.entries) :
    let r := built start changes
    (∃ head, cutHead? (r.bytesInOrder headers) = some (head, r.body)
        ∧ headLines head = (statusLine r.status :: (r.sentFields headers).map fieldLine).map ofText)
      ∧ (∃ name, (r.sentFields headers).filter (fun e => lower e.1 = lower "Content-Length")
          = [(name, toString r.body.length)])
      ∧ receive? (r.bytesInOrder headers) = some ⟨r.status, r.sentFields headers, r.body⟩ := by
  intro r
  have hsent : ∀ e ∈ headers, Sendable e := fun e he => hsendable e (hheaders.mem_iff.mp he)
  obtain ⟨hcut, hlines⟩ := cutHead?_bytesInOrder (r := r) hsent
  exact ⟨⟨_, hcut, hlines⟩,
    sentFields_length (lengthFits_built start hchanges) (oneSpelling_built start changes) hheaders,
    receive?_bytesInOrder hsent⟩

/-- A body with an empty line in it is set, a header is added, and the length is taken away. -/
def blankInBody : List Change :=
  [.body (ofText "a\r\n\r\nb"), .header "X-Tag" "k: v", .remove "content-LENGTH"]

/-- The response is read back with its headers the other way round and a length behind them. -/
theorem received_blankInBody :
    (∀ c ∈ blankInBody, ¬ c.SetsLength)
      ∧ (∀ e ∈ (built (.new .ok) blankInBody).headers.entries, Sendable e)
      ∧ receive? ((built (.new .ok) blankInBody).bytesInOrder
            [("X-Tag", "k: v"), ("Server", "microweb-rs")])
          = some ⟨.ok, [("X-Tag", "k: v"), ("Server", "microweb-rs"), ("Content-Length", "6")],
              ofText "a\r\n\r\nb"⟩ := by
  have hentries : (built (.new .ok) blankInBody).headers.entries
      = [("Server", "microweb-rs"), ("X-Tag", "k: v")] := by decide
  have hchanges : ∀ c ∈ blankInBody, ¬ c.SetsLength := by decide
  have hsendable : ∀ e ∈ (built (.new .ok) blankInBody).headers.entries, Sendable e := by
    rw [hentries]
    intro e he
    rcases List.mem_cons.mp he with rfl | he
    · exact ⟨by decide, by decide, by decide⟩
    · obtain rfl := List.mem_singleton.mp he
      exact ⟨by decide, by decide, by decide⟩
  have hheaders : [("X-Tag", "k: v"), ("Server", "microweb-rs")].Perm
      (built (.new .ok) blankInBody).headers.entries := hentries ▸ .swap ..
  refine ⟨hchanges, hsendable, ?_⟩
  rw [(received_built (.new .ok) hchanges hsendable hheaders).2.2]
  decide

end HttpMux.Response
