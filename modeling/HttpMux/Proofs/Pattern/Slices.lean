import HttpMux.Proofs.Pattern.Filling
import HttpMux.Proofs.Text.Cutting

/-!
# `HttpMux.Proofs.Pattern.Slices`: every slice of a pattern and of a path fits

Patterns are read and paths are matched by offsets into their bytes, and pieces are cut out of the
texts at these offsets. The functions here do the same with slices that fail if an offset is out of
bounds, out of order or inside a character, and with a subtraction that fails below zero. None of
them ever fails.

* `Text.slice?`: the piece of a text between two offsets, if they fit.
* `Placeholder.parseSliced?` and `Placeholder.captureSliced?`: reading and matching by such slices.
* `Placeholder.readFrom?_eq`: reading does not fail, by induction on the walk of the reader.
* `Placeholder.captureFrom?_eq`: matching does not fail, by induction on the slots.
* `Placeholder.slices_fit`: both for whole patterns.
-/

set_option autoImplicit false

namespace HttpMux

open Bytes (ofText ofChars Between)

/-! ### Slices -/

instance (sp : Span) (s : String) : Decidable (sp.Fits s) := by
  unfold Span.Fits
  infer_instance

/-- The piece of a text that a span covers; nothing if the span does not fit. -/
def Text.slice? (s : String) (sp : Span) : Option String :=
  if sp.Fits s then some (cut s sp) else none

/-- The bytes from an offset on; nothing if the offset is out of bounds. -/
def Bytes.from? (bs : Bytes) (i : Nat) : Option Bytes :=
  if i ≤ bs.length then some (bs.drop i) else none

/-- The end of a text is between characters of every text that begins with it. -/
theorem Bytes.isValid_length (before after : String) :
    String.Pos.Raw.IsValid (before ++ after) ⟨(ofText before).length⟩ :=
  String.Pos.Raw.isValid_iff_exists_append.mpr ⟨before, after, rfl,
    String.Pos.Raw.ext (by simp [ofText])⟩

/-- An offset between characters is a valid position of the text. -/
theorem Bytes.isValid_of_between {cs : List Char} {i : Nat} (h : Between cs i) :
    String.Pos.Raw.IsValid (String.ofList cs) ⟨i⟩ := by
  obtain ⟨before, after, rfl, rfl⟩ := h
  rw [String.ofList_append, ← ofText_ofList]
  exact isValid_length _ _

/-- A span between characters fits. -/
theorem Span.fits_of_between {cs : List Char} {a b : Nat} (ha : Between cs a) (hb : Between cs b)
    (hab : a ≤ b) : Fits ⟨a, b⟩ (String.ofList cs) :=
  ⟨hab, Bytes.isValid_of_between ha, Bytes.isValid_of_between hb⟩

/-- A slice between two such offsets is there. -/
theorem Text.slice?_of_between {cs : List Char} {a b : Nat} (ha : Between cs a) (hb : Between cs b)
    (hab : a ≤ b) :
    slice? (String.ofList cs) ⟨a, b⟩ = some (cut (String.ofList cs) ⟨a, b⟩) :=
  if_pos (Span.fits_of_between ha hb hab)

/-- A slice between two cuts is the text between them. -/
theorem Text.slice?_middle (before middle after : String) :
    slice? (before ++ middle ++ after)
      ⟨(ofText before).length, (ofText (before ++ middle)).length⟩ = some middle := by
  rw [slice?, cut_middle, if_pos]
  refine ⟨?_, ?_, Bytes.isValid_length _ _⟩
  · rw [Bytes.ofText_append, List.length_append]
    exact Nat.le_add_right _ _
  · rw [String.append_assoc]
    exact Bytes.isValid_length _ _

/-- The slice up to a cut is what is in front of it. -/
theorem Text.slice?_front (front back : String) :
    slice? (front ++ back) ⟨0, (ofText front).length⟩ = some front := by
  have hslice := slice?_middle "" front back
  rwa [String.empty_append] at hslice

/-- The slice from a cut on is what is behind it. -/
theorem Text.slice?_back (front back : String) :
    slice? (front ++ back) ⟨(ofText front).length, (ofText (front ++ back)).length⟩
      = some back := by
  have hslice := slice?_middle front back ""
  rwa [String.append_empty] at hslice

namespace Placeholder

/-! ### Reading a pattern by slices -/

/-- Looks for placeholders at offset `i`. The literal being read began at offset `start`, and `seen`
holds the names so far. Nothing, if a slice does not fit. -/
def readFrom? (body : String) (start i : Nat) (seen : List String) :
    Option (Except Flaw (List (Slot String) × String)) :=
  let bytes := ofText body
  if h : i + 1 < bytes.length then
    if isBreak bytes[i] ∧ bytes[i + 1] = colon then do
      let behind ← Bytes.from? bytes (i + 2)
      let stop := i + 2 + (nameOf behind).length
      if stop = i + 2 then return .error (.unnamed (i + 1))
      else
        let name ← Text.slice? body ⟨i + 2, stop⟩
        if name ∈ seen then return .error (.repeated name)
        else
          let literal ← Text.slice? body ⟨start, i + 1⟩
          let later ← readFrom? body stop stop (name :: seen)
          return later.map fun (slots, last) =>
            (⟨literal, name, bytes[stop]?.getD slash⟩ :: slots, last)
    else readFrom? body start (i + 1) seen
  else do
    let last ← Text.slice? body ⟨start, bytes.length⟩
    return .ok ([], last)
termination_by (ofText body).length - i
decreasing_by all_goals (have hlt : i + 1 < (ofText body).length := h; omega)

/-- The pattern that a text spells. Nothing, if a slice does not fit. -/
def parseSliced? (raw : String) : Option (Except Flaw Placeholder) :=
  let (body, openEnded) := splitRest raw
  (readFrom? body 0 0 []).map fun result =>
    result.map fun (slots, last) => { raw, slots, last, openEnded }

section

variable {body : String} {start i : Nat} {seen : List String} {b c : UInt8} {rest : Bytes}

/-- Two bytes that stand at an offset can be indexed there, and what is behind them can be sliced
off. -/
theorem getElem_of_drop_eq {bs : Bytes} (hrest : bs.drop i = b :: c :: rest) :
    ∃ h : i + 1 < bs.length, bs[i] = b ∧ bs[i + 1] = c ∧ Bytes.from? bs (i + 2) = some rest := by
  have hlength := congrArg List.length hrest
  rw [List.length_drop, List.length_cons, List.length_cons] at hlength
  have hlt : i + 1 < bs.length := by omega
  have hfirst : bs[i]? = some b := by
    rw [← List.head?_drop, hrest, List.head?_cons]
  have hbehind : bs.drop (i + 1) = c :: rest := by
    rw [← List.drop_drop, hrest, List.drop_one, List.tail_cons]
  have hsecond : bs[i + 1]? = some c := by
    rw [← List.head?_drop, hbehind, List.head?_cons]
  refine ⟨hlt, List.getElem_eq_iff _ |>.mpr hfirst, List.getElem_eq_iff _ |>.mpr hsecond, ?_⟩
  rw [Bytes.from?, if_pos (by omega), ← List.drop_drop (i := 1), hbehind]
  rfl

/-- Where no placeholder begins, the reader goes on with the next byte. -/
theorem readFrom?_step (hrest : (ofText body).drop i = b :: c :: rest)
    (hmark : ¬ (isBreak b ∧ c = colon)) :
    readFrom? body start i seen = readFrom? body start (i + 1) seen := by
  obtain ⟨hlt, hfirst, hsecond, -⟩ := getElem_of_drop_eq hrest
  conv => lhs; rw [readFrom?]
  rw [dif_pos hlt, hfirst, hsecond, if_neg hmark]

/-- With less than two bytes left, the reader takes the rest as the last literal. -/
theorem readFrom?_end (hend : (ofText body).length ≤ i + 1) :
    readFrom? body start i seen = do
      let last ← Text.slice? body ⟨start, (ofText body).length⟩
      return .ok ([], last) := by
  rw [readFrom?, dif_neg (by omega)]

end

/-- A text is among others exactly if its bytes are among theirs. -/
theorem mem_iff_of_ofText_eq {seen : List String} {seenBytes : List Bytes} {name : String}
    {bytes : Bytes} (hseen : seenBytes = seen.map ofText) (hname : ofText name = bytes) :
    name ∈ seen ↔ bytes ∈ seenBytes := by
  rw [hseen, ← hname, List.mem_map_of_injective fun _ _ h => Bytes.ofText_injective h]

/-- At a break character and a colon no slice fails: neither the name behind the colon, which is cut
out before it is looked for, nor the literal up to the break character. -/
theorem readFrom?_mark {cs : List Char} {start i : Nat} {seen : List String} {b : UInt8}
    {rest : Bytes} (hrest : (ofChars cs).drop i = b :: colon :: rest) (hb : isBreak b)
    (hle : start ≤ i) (hstart : Between cs start) :
    let body := String.ofList cs
    let stop := i + 2 + (nameOf rest).length
    let name := Text.cut body ⟨i + 2, stop⟩
    readFrom? body start i seen =
      if nameOf rest = [] then return .error (.unnamed (i + 1))
      else if name ∈ seen then return .error (.repeated name)
      else do
        let later ← readFrom? body stop stop (name :: seen)
        return later.map fun (slots, last) =>
          (⟨Text.cut body ⟨start, i + 1⟩, name,
            (rest.drop (nameOf rest).length).head?.getD slash⟩ :: slots, last) := by
  intro body stop name
  -- The four offsets at which slices begin and end: the one at which the literal began, and three
  -- here.
  obtain ⟨hmark, hbehindMark, hbehindName⟩ := between_of_mark hrest
  have hbytes : (ofText body).drop i = b :: colon :: rest := by
    rw [Bytes.ofText_ofList, hrest]
  obtain ⟨hlt, hfirst, hsecond, hbehind⟩ := getElem_of_drop_eq hbytes
  have hunnamed : i + 2 + (nameOf rest).length = i + 2 ↔ nameOf rest = [] := by
    rw [Nat.add_eq_left, List.length_eq_zero_iff]
  have hnext : (ofText body)[stop]? = (rest.drop (nameOf rest).length).head? := by
    rw [← List.head?_drop, ← List.drop_drop, ← List.drop_drop (i := 1), ← List.drop_drop (j := i),
      hbytes]
    rfl
  rw [readFrom?]
  simp only [dif_pos hlt, hfirst, hsecond, hb, hbehind, Option.bind_eq_bind, Option.bind_some,
    hunnamed]
  rw [if_pos ⟨trivial, trivial⟩, hnext,
    Text.slice?_of_between hbehindMark hbehindName (Nat.le_add_right _ _),
    Text.slice?_of_between hstart hmark (Nat.le_succ_of_le hle)]
  rfl

/-- What the reader finds does not depend on the slices, none of which fails. -/
theorem readFrom?_eq {cs : List Char} {start i : Nat} {seenBytes : List Bytes} {rest : Bytes}
    {seen : List String} (hseen : seenBytes = seen.map ofText)
    (hrest : (ofChars cs).drop i = rest) (hlength : i ≤ (ofChars cs).length) (hle : start ≤ i)
    (hstart : Between cs start) :
    readFrom? (String.ofList cs) start i seen
      = some ((layoutFrom start i seenBytes rest).map fun l =>
          (l.slots.map (slotAt (String.ofList cs)), Text.cut (String.ofList cs) l.last)) := by
  have hbytes : ofText (String.ofList cs) = ofChars cs := Bytes.ofText_ofList cs
  -- The two readers take the same steps, so the cases of one are those of both.
  fun_induction layoutFrom start i seenBytes rest generalizing seen with
  | case1 start i seenBytes b c rest hslot name =>
    rename_i hempty
    obtain ⟨hb, rfl⟩ := hslot
    rw [readFrom?_mark hrest hb hle hstart, if_pos (List.isEmpty_iff.mp hempty)]
    rfl
  | case2 start i seenBytes b c rest hslot name hne =>
    rename_i hmem
    obtain ⟨hb, rfl⟩ := hslot
    obtain ⟨-, -, -, hname⟩ := parts_of_mark hrest hle hstart
    have hseenName := (mem_iff_of_ofText_eq hseen hname).mpr hmem
    have htext : Bytes.text? name = some _ := hname ▸ Bytes.text?_ofText _
    rw [readFrom?_mark hrest hb hle hstart, if_neg (mt List.isEmpty_iff.mpr hne),
      if_pos hseenName, htext]
    rfl
  | case3 start i seenBytes b c rest hslot name stop hne hnew behind =>
    rename_i ih
    obtain ⟨hb, rfl⟩ := hslot
    obtain ⟨hbehindName, hdrop, -, hname⟩ := parts_of_mark hrest hle hstart
    have hnewName := (mem_iff_of_ofText_eq hseen hname).not.mpr hnew
    have hseenLater : name :: seenBytes
        = (Text.cut (String.ofList cs) ⟨i + 2, stop⟩ :: seen).map ofText := by
      rw [List.map_cons, hname, hseen]
    have hlater := ih hseenLater hdrop hbehindName.le_length (Nat.le_refl stop) hbehindName
    rw [readFrom?_mark hrest hb hle hstart, if_neg (mt List.isEmpty_iff.mpr hne),
      if_neg hnewName, hlater]
    cases layoutFrom stop stop (name :: seenBytes) behind <;> rfl
  | case4 start i seenBytes b c rest hslot ih =>
    rw [readFrom?_step (hbytes ▸ hrest) hslot]
    have hdrop : (ofChars cs).drop (i + 1) = c :: rest := by
      rw [← List.drop_drop, hrest, List.drop_one, List.tail_cons]
    have hlonger := congrArg List.length hrest
    rw [List.length_drop, List.length_cons] at hlonger
    exact ih hseen hdrop (by omega) (Nat.le_succ_of_le hle) hstart
  | case5 start i seenBytes rest hshort =>
    -- What is left is the end of the literal that began at `start`.
    have hend : i + rest.length = (ofChars cs).length := by
      rw [← hrest, List.length_drop]
      omega
    have hleft : rest.length ≤ 1 := by
      rcases rest with _ | ⟨b, _ | ⟨c, rest⟩⟩
      · exact Nat.zero_le 1
      · exact Nat.le_refl 1
      · exact (hshort b c rest rfl).elim
    rw [readFrom?_end (by rw [hbytes]; omega), hbytes, hend,
      Text.slice?_of_between hstart (Bytes.between_length cs) hstart.le_length]
    rfl

/-! ### Matching a path by slices -/

/-- Matches the literal behind the last placeholder. Nothing, if a slice does not fit or the offset
at which it begins would be below zero. -/
def sliceRest? (last : String) (openEnded : Bool) (path : String) :
    Option (Option (List String × String)) :=
  if openEnded then
    if Text.hasStart last path then
      let length := (ofText last).length
      let kept := if last.toList.getLast? = some '/' then 1 else 0
      if kept ≤ length then do
        let rest ← Text.slice? path ⟨length - kept, (ofText path).length⟩
        return some ([], rest)
      else none
    else return none
  else if path = last then return some ([], "")
  else return none

/-- Matches placeholders and the last literal. Nothing, if a slice does not fit. -/
def captureFrom? (last : String) (openEnded : Bool) :
    List (Slot String) → String → Option (Option (List String × String))
  | [], path => sliceRest? last openEnded path
  | s :: slots, path =>
    match Text.dropStart? s.literal path with
    | none => return none
    | some behind =>
      let stop := ((ofText behind).takeWhile (· ≠ s.stop)).length
      if stop = 0 then return none
      else do
        let value ← Text.slice? behind ⟨0, stop⟩
        let tail ← Text.slice? behind ⟨stop, (ofText behind).length⟩
        let found ← captureFrom? last openEnded slots tail
        return found.map fun (values, rest) => (value :: values, rest)

/-- The captured values and the captured rest. Nothing, if a slice does not fit. -/
def captureSliced? (p : Placeholder) (path : String) : Option (Option (List String × String)) :=
  captureFrom? p.last p.openEnded p.slots path

/-- A text begins with another exactly if its bytes do, and then the rests agree. -/
theorem isPrefixOf?_ofText (start s : String) :
    (ofText start).isPrefixOf? (ofText s) = (Text.dropStart? start s).map ofText := by
  cases hdrop : Text.dropStart? start s with
  | some rest =>
    obtain rfl := Text.dropStart?_eq_some_iff.mp hdrop
    exact List.isPrefixOf?_eq_some_iff_append_eq.mpr (Bytes.ofText_append _ _).symm
  | none =>
    refine Option.eq_none_iff_forall_ne_some.mpr fun bs hbs => ?_
    obtain ⟨rest, hrest, -⟩ := Bytes.exists_of_ofText_eq_append
      (List.append_eq_of_isPrefixOf?_eq_some hbs).symm
    rw [Text.dropStart?_eq_some_iff.mpr hrest] at hdrop
    cases hdrop

/-- A text begins with another if that can be dropped from its front. -/
theorem hasStart_eq (start s : String) :
    Text.hasStart start s = (Text.dropStart? start s).isSome := by
  rw [Text.dropStart?, Option.isSome_map, List.isSome_isPrefixOf?_eq_isPrefixOf, Text.hasStart]

/-- The bytes of a text begin with those of another if that can be dropped from the front of the
text. -/
theorem isPrefixOf_ofText (start s : String) :
    (ofText start).isPrefixOf (ofText s) = (Text.dropStart? start s).isSome := by
  rw [← List.isSome_isPrefixOf?_eq_isPrefixOf, isPrefixOf?_ofText, Option.isSome_map]

/-- What an asterisk is bound to is a slice that fits: the rest, and the slash in front of it that
ends the literal. -/
theorem slice?_keptRest (last rest : String) :
    let length := (ofText last).length
    let kept := if last.toList.getLast? = some '/' then 1 else 0
    kept ≤ length
      ∧ Text.slice? (last ++ rest) ⟨length - kept, (ofText (last ++ rest)).length⟩
        = some (keptRest true last rest) := by
  intro length kept
  obtain ⟨front, hlast, hkept⟩ := exists_append_lastSlash last
  have hslash : (ofText (lastSlash last)).length = kept := by
    rw [hkept]
    exact if_congr getLast?_eq_slash_iff rfl rfl
  have hlength : length = (ofText front).length + kept := by
    rw [← hslash, ← List.length_append, ← Bytes.ofText_append, ← hlast]
  have htext : last ++ rest = front ++ (lastSlash last ++ rest) := by
    conv => lhs; rw [hlast]
    rw [String.append_assoc]
  -- The slash that is kept is one byte, so the cut in front of it is the end of a text, too.
  refine ⟨by omega, ?_⟩
  rw [hlength, Nat.add_sub_cancel, keptRest, if_pos rfl, htext]
  exact Text.slice?_back _ _

/-- The literal behind the last placeholder is matched without a slice that fails. -/
theorem sliceRest?_eq (last : String) (openEnded : Bool) (before path : String) :
    sliceRest? last openEnded path
      = some ((restSpan? (ofText last) openEnded (ofText before).length (ofText path)).map
          fun sp => ([], Text.cut (before ++ path) sp)) := by
  -- Without an asterisk the path has to be the last literal. With one, it has to begin with it.
  cases openEnded with
  | false =>
    rw [sliceRest?, if_neg Bool.false_ne_true]
    by_cases hpath : path = last
    · have hends : Ends false [] last "" := ⟨fun _ => rfl, fun hne => absurd rfl hne⟩
      obtain ⟨sp, hsp, hcut⟩ := restSpan?_of_ends hends before
      rw [String.append_empty] at hsp hcut
      rw [if_pos hpath, hpath, hsp, Option.map_some, hcut]
      rfl
    · have hbytes : ofText path ≠ ofText last := fun heq => hpath (Bytes.ofText_injective heq)
      rw [if_neg hpath, restSpan?, if_neg Bool.false_ne_true, if_neg hbytes]
      rfl
  | true =>
    rw [sliceRest?, if_pos rfl, hasStart_eq]
    cases hstart : Text.dropStart? last path with
    | some rest =>
      obtain rfl := Text.dropStart?_eq_some_iff.mp hstart
      have hends : Ends true [] last rest :=
        ⟨fun hclosed => Bool.noConfusion hclosed, fun hne => absurd rfl hne⟩
      obtain ⟨sp, hsp, hcut⟩ := restSpan?_of_ends hends before
      obtain ⟨hkept, hslice⟩ := slice?_keptRest last rest
      rw [if_pos Option.isSome_some]
      dsimp only
      rw [if_pos hkept, hslice, hsp, Option.map_some, hcut]
      rfl
    | none =>
      rw [restSpan?, isPrefixOf_ofText, hstart]
      rfl

/-- Matching does not depend on the slices, none of which fails. `before` is what has been matched
so far. -/
theorem captureFrom?_eq {last : String} (openEnded : Bool) {slots : List (Slot String)}
    (hchained : Chained last slots) (before path : String) :
    captureFrom? last openEnded slots path
      = some ((spansFrom? (ofText last) openEnded slots (ofText before).length (ofText path)).map
          fun c =>
            (c.values.map (Text.cut (before ++ path)), Text.cut (before ++ path) c.rest)) := by
  -- What is matched so far grows from slot to slot, and the spans count from its beginning.
  induction slots generalizing before path with
  | nil =>
    rw [captureFrom?, sliceRest?_eq last openEnded before path, spansFrom?, Option.map_map]
    rfl
  | cons s slots ih =>
    obtain ⟨-, -, hbreak, hbehind⟩ := hchained
    rw [captureFrom?, spansFrom?, isPrefixOf?_ofText]
    cases hliteral : Text.dropStart? s.literal path with
    | none => rfl
    | some behind =>
      obtain rfl := Text.dropStart?_eq_some_iff.mp hliteral
      obtain ⟨value, tail, rfl, hvalue, -⟩ := exists_cut_at hbreak behind
      dsimp only [Option.map_some, Option.bind_eq_bind, Option.bind_some]
      rw [hvalue]
      by_cases hempty : ofText value = []
      · rw [if_pos (List.length_eq_zero_iff.mpr hempty), if_pos (List.isEmpty_iff.mpr hempty)]
        rfl
      · rw [if_neg (mt List.length_eq_zero_iff.mp hempty), if_neg (mt List.isEmpty_iff.mp hempty)]
        -- The slices here count from what is left of the path, the spans from its beginning.
        have hstart : (ofText before).length + ((ofText (s.literal ++ (value ++ tail))).length
            - (ofText (value ++ tail)).length) = (ofText (before ++ s.literal)).length := by
          rw [Bytes.ofText_append s.literal, List.length_append, Nat.add_sub_cancel,
            Bytes.ofText_append, List.length_append]
        have hstop : (ofText (before ++ s.literal)).length + (ofText value).length
            = (ofText (before ++ s.literal ++ value)).length := by
          rw [Bytes.ofText_append (before ++ s.literal), List.length_append]
        have hdrop : (ofText (value ++ tail)).drop (ofText value).length = ofText tail := by
          rw [Bytes.ofText_append, List.drop_left]
        have hpath : before ++ (s.literal ++ (value ++ tail))
            = before ++ s.literal ++ value ++ tail := by
          simp only [String.append_assoc]
        rw [hstart, hstop, hdrop, Text.slice?_front, Text.slice?_back, Option.bind_some,
          Option.bind_some, ih hbehind (before ++ s.literal ++ value) tail, hpath]
        cases spansFrom? (ofText last) openEnded slots
            (ofText (before ++ s.literal ++ value)).length (ofText tail) with
        | none => rfl
        | some c =>
          simp [Text.cut_middle]

/-- Neither reading a pattern nor matching a path ever takes a slice that is out of bounds or begins
or ends inside a character, and no offset is below zero. With slices that would fail, a text spells
the same pattern or has the same flaw, and a path matches a pattern with the same captured texts or
does not match. -/
theorem slices_fit (raw : String) :
    parseSliced? raw = some (parse raw)
      ∧ ∀ p, parse raw = .ok p → ∀ path, captureSliced? p path = some (p.captured? path) := by
  constructor
  · -- The reader starts in front of the text, where a cut is between characters.
    have hnone : ([] : List Bytes) = [].map ofText := rfl
    have hread := readFrom?_eq hnone rfl (Nat.zero_le _) (Nat.le_refl 0)
      (Bytes.between_zero (splitRest raw).1.toList)
    rw [String.ofList_toList, List.drop_zero, ← Bytes.ofText_eq] at hread
    rw [parseSliced?, parse_eq, layout]
    dsimp only
    rw [hread, Option.map_some]
    cases layoutFrom 0 0 [] (ofText (splitRest raw).1) <;> rfl
  · intro p hp path
    obtain ⟨-, -, -, -, hchained⟩ := of_parse hp
    -- A pattern that was parsed has break characters behind its placeholders, so all cuts fit.
    have hcapture := captureFrom?_eq p.openEnded hchained "" path
    rw [String.empty_append] at hcapture
    exact hcapture

/-- Slices do not fail around characters of several bytes, in patterns and in paths. -/
theorem slices_fit_openSample :
    parseSliced? "/a/:é.:b*" = some (.ok openSample)
      ∧ captureSliced? openSample "/a/x y.z/é/" = some (some (["x y", "z"], "/é/")) := by
  have hparse : parse "/a/:é.:b*" = .ok openSample := by decide +kernel
  obtain ⟨hread, hcapture⟩ := slices_fit "/a/:é.:b*"
  rw [hread, hcapture openSample hparse, hparse]
  exact ⟨rfl, congrArg some (by decide +kernel)⟩

end Placeholder

end HttpMux
