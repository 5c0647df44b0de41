import HttpMux.Proofs.Pattern.Spelling

/-!
# `HttpMux.Proofs.Pattern.Filling`: matching a path is taking values out of it

A placeholder pattern with values in place of its names is a path, and an asterisk lets a rest
follow. Matching goes from left to right and never back. It still finds the values whenever there
are any, because a value cannot go on over the byte that the next literal begins with.

* `Placeholder.fill`: the path with given values and a given rest.
* `Placeholder.Admits`: values that are not empty and do not contain their stop bytes, and a rest
  that does not belong to the last value.
* `Placeholder.spansFrom?_filled`: values that are filled in are found, by induction on the slots.
* `Placeholder.filled_of_spansFrom?`: what is found fills the slots, by the same induction.
* `Placeholder.match_exact`: both for whole patterns, and that there is one way at most to fill in a
  path.
-/

set_option autoImplicit false

namespace HttpMux

open Bytes (ofText ofChars)

/-! ### Parts of texts -/

/-- A span between two cuts covers the text between them. -/
theorem Text.cut_middle (before middle after : String) :
    cut (before ++ middle ++ after)
      ⟨(ofText before).length, (ofText (before ++ middle)).length⟩ = middle := by
  have hcovered : ((ofText (before ++ middle ++ after)).drop (ofText before).length).take
      ((ofText (before ++ middle)).length - (ofText before).length) = ofText middle := by
    rw [String.append_assoc, Bytes.ofText_append, Bytes.ofText_append, Bytes.ofText_append,
      List.drop_left, List.length_append, Nat.add_sub_cancel_left, List.take_left]
  rw [cut, Span.bytesOf, hcovered, Bytes.text?_ofText, Option.getD_some]

/-- What follows a text inside a text is a text. -/
theorem Bytes.exists_of_ofText_eq_append {s t : String} {bs : Bytes}
    (h : ofText s = ofText t ++ bs) : ∃ u, s = t ++ u ∧ bs = ofText u := by
  rw [ofText_eq, ofText_eq] at h
  obtain ⟨es, hes, rfl⟩ := exists_of_ofChars_eq_append h
  refine ⟨String.ofList es, ?_, (ofText_ofList es).symm⟩
  rw [← String.ofList_toList (s := s), hes, String.ofList_append, String.ofList_toList]

namespace Placeholder

/-- A break character cuts a text into two texts. -/
theorem exists_cut_at {b : UInt8} (hb : isBreak b) (s : String) :
    ∃ before after, s = before ++ after ∧ (ofText s).takeWhile (· ≠ b) = ofText before
      ∧ (ofText s).dropWhile (· ≠ b) = ofText after := by
  obtain ⟨before, after, hs, htake, hdrop⟩ := Bytes.exists_of_takeWhile (p := (· ≠ b))
    (fun c hc => by
      rw [decide_eq_false_iff_not, not_not] at hc
      exact hc ▸ exists_ascii_of_isBreak hb) s.toList
  refine ⟨String.ofList before, String.ofList after, ?_, ?_, ?_⟩
  · rw [← String.ofList_append, ← hs, String.ofList_toList]
  · rw [Bytes.ofText_eq, htake, Bytes.ofText_ofList]
  · rw [Bytes.ofText_eq, hdrop, Bytes.ofText_ofList]

/-- A text begins with a slash exactly if its first byte is one. -/
theorem head?_eq_slash_iff {s : String} :
    (ofText s).head? = some slash ↔ s.toList.head? = some '/' := by
  rw [Bytes.ofText_eq, List.head?_eq_some_iff, List.head?_eq_some_iff]
  constructor
  · rintro ⟨ys, hys⟩
    have hcut : ofChars s.toList = [] ++ Bytes.ascii '/' :: ys := hys
    obtain ⟨before, after, hs, hbefore, -⟩ := Bytes.exists_of_ofChars_eq (by decide) hcut
    obtain rfl : before = [] := Bytes.ofChars_injective hbefore
    exact ⟨after, hs⟩
  · rintro ⟨after, hs⟩
    exact ⟨ofChars after, by rw [hs]; rfl⟩

/-- A text ends in a slash exactly if its last byte is one. -/
theorem getLast?_eq_slash_iff {s : String} :
    (ofText s).getLast? = some slash ↔ s.toList.getLast? = some '/' := by
  rw [Bytes.ofText_eq, List.getLast?_eq_some_iff, List.getLast?_eq_some_iff]
  constructor
  · rintro ⟨xs, hxs⟩
    have hcut : ofChars s.toList = xs ++ Bytes.ascii '/' :: [] := hxs
    obtain ⟨before, after, hs, -, hafter⟩ := Bytes.exists_of_ofChars_eq (by decide) hcut
    obtain rfl : after = [] := Bytes.ofChars_injective hafter
    exact ⟨before, hs⟩
  · rintro ⟨before, hs⟩
    exact ⟨ofChars before, by rw [hs, Bytes.ofChars_append]; rfl⟩

/-! ### Filling in values -/

/-- Slots with values in place of their names, then the last literal and a rest. -/
def filled (slots : List (Slot String)) (values : List String) (last rest : String) : String :=
  String.join (List.zipWith (fun s v => s.literal ++ v) slots values) ++ last ++ rest

/-- The path with the given values and the given rest. -/
def fill (p : Placeholder) (values : List String) (rest : String) : String :=
  filled p.slots values p.last rest

/-- There is a value for each slot, not empty and without the byte at which it stops. -/
def Fits (slots : List (Slot String)) (values : List String) : Prop :=
  List.Forall₂ (fun s v => v ≠ "" ∧ s.stop ∉ ofText v) slots values

/-- Nothing follows a pattern without an asterisk. Where nothing stands between the last placeholder
and the asterisk, the rest begins with a slash, if there is one. -/
structure Ends (openEnded : Bool) (slots : List (Slot String)) (last rest : String) : Prop where
  closed : openEnded = false → rest = ""
  behindValue : slots ≠ [] → last = "" → rest = "" ∨ rest.toList.head? = some '/'

/-- The values and the rest can be filled in. -/
structure Admits (p : Placeholder) (values : List String) (rest : String) : Prop where
  values : Fits p.slots values
  rest : Ends p.openEnded p.slots p.last rest

/-- The slash that ends a literal, or nothing. -/
def lastSlash (literal : String) : String := if literal.toList.getLast? = some '/' then "/" else ""

/-- What the asterisk is bound to: the rest, and the slash in front of it that ends the literal. -/
def keptRest (openEnded : Bool) (last rest : String) : String :=
  if openEnded then lastSlash last ++ rest else ""

/-- Without slots there is only the last literal and the rest. -/
@[simp]
theorem filled_nil (values : List String) (last rest : String) :
    filled [] values last rest = last ++ rest := by
  simp [filled, String.join]

/-- The first literal and the first value come in front of the others. -/
@[simp]
theorem filled_cons (s : Slot String) (slots : List (Slot String)) (v : String)
    (values : List String) (last rest : String) :
    filled (s :: slots) (v :: values) last rest
      = s.literal ++ v ++ filled slots values last rest := by
  rw [filled, List.zipWith_cons_cons, String.join_cons, filled]
  simp only [String.append_assoc]

/-- The rest is behind everything else. -/
theorem filled_rest (slots : List (Slot String)) (values : List String) (last rest : String) :
    filled slots values last rest = filled slots values last "" ++ rest := by
  rw [filled, filled, String.append_empty]

/-- A text that begins with a literal begins with the byte at which values in front of it stop. -/
theorem head?_of_ne_empty {literal : String} (hne : literal ≠ "") (s : String) :
    (ofText (literal ++ s)).head? = some (stopOf literal) := by
  have hbytes : ofText literal ≠ [] := fun hnil =>
    hne (Bytes.ofText_injective (t := "") hnil)
  obtain ⟨b, bs, hb⟩ := List.exists_cons_of_ne_nil hbytes
  rw [Bytes.ofText_append, stopOf, hb]
  rfl

/-- Behind a value stands the byte at which it stops, or nothing. -/
theorem head?_filled {openEnded : Bool} {s : Slot String} {slots : List (Slot String)}
    {values : List String} {last rest : String} (hchained : Chained last (s :: slots))
    (hfits : Fits slots values) (hends : Ends openEnded (s :: slots) last rest) :
    ofText (filled slots values last rest) = []
      ∨ (ofText (filled slots values last rest)).head? = some s.stop := by
  obtain ⟨-, hstop, -, hbehind⟩ := hchained
  rw [hstop]
  -- Behind a value stands the next literal, or the last one if there is no other slot.
  cases hfits with
  | nil =>
    rw [filled_nil, firstLiteral]
    by_cases hlast : last = ""
    · -- Nothing stands behind the value but the rest.
      subst hlast
      rw [String.empty_append]
      rcases hends.behindValue (List.cons_ne_nil _ _) rfl with rfl | hslash
      · exact .inl rfl
      · exact .inr (head?_eq_slash_iff.mpr hslash)
    · exact .inr (head?_of_ne_empty hlast rest)
  | cons _ _ =>
    obtain ⟨⟨b, hb, -⟩, -⟩ := hbehind
    refine .inr ?_
    rw [filled_cons, String.append_assoc, firstLiteral]
    refine head?_of_ne_empty ?_ _
    rintro hempty
    rw [hempty] at hb
    cases hb

/-! ### Finding the values -/

/-- A literal ends in its last slash. -/
theorem exists_append_lastSlash (literal : String) :
    ∃ front, literal = front ++ lastSlash literal
      ∧ (ofText (lastSlash literal)).length
          = if (ofText literal).getLast? = some slash then 1 else 0 := by
  rw [lastSlash]
  by_cases hslash : literal.toList.getLast? = some '/'
  · obtain ⟨front, hfront⟩ := List.getLast?_eq_some_iff.mp hslash
    refine ⟨String.ofList front, ?_, ?_⟩
    · rw [if_pos hslash, ← String.ofList_toList (s := literal), hfront, String.ofList_append]
    · rw [if_pos hslash, if_pos (getLast?_eq_slash_iff.mpr hslash)]
      rfl
  · refine ⟨literal, ?_, ?_⟩
    · rw [if_neg hslash, String.append_empty]
    · rw [if_neg hslash, if_neg (mt getLast?_eq_slash_iff.mp hslash)]
      rfl

/-- What is behind the last placeholder, if it is as it should be. -/
theorem restSpan?_of_ends {openEnded : Bool} {slots : List (Slot String)} {last rest : String}
    (hends : Ends openEnded slots last rest) (before : String) :
    ∃ sp, restSpan? (ofText last) openEnded (ofText before).length (ofText (last ++ rest)) = some sp
      ∧ Text.cut (before ++ (last ++ rest)) sp = keptRest openEnded last rest := by
  cases openEnded with
  | false =>
    -- The span is the empty one at the end of the path.
    obtain rfl := hends.closed rfl
    rw [String.append_empty, restSpan?, if_neg Bool.false_ne_true, if_pos rfl]
    refine ⟨_, rfl, ?_⟩
    have hcut := Text.cut_middle (before ++ last) "" ""
    rwa [String.append_empty, String.append_empty, Bytes.ofText_append,
      List.length_append] at hcut
  | true =>
    have hfront : (ofText last).isPrefixOf (ofText (last ++ rest)) := by
      rw [Bytes.ofText_append]
      exact List.isPrefixOf_iff_prefix.mpr (List.prefix_append _ _)
    rw [restSpan?, if_pos rfl, if_pos hfront]
    refine ⟨_, rfl, ?_⟩
    -- The span begins in front of the slash that ends the literal, so the path is cut there.
    obtain ⟨front, hlast, hkept⟩ := exists_append_lastSlash last
    have hcut := Text.cut_middle (before ++ front) (lastSlash last ++ rest) ""
    have htext : before ++ front ++ (lastSlash last ++ rest) = before ++ (last ++ rest) := by
      conv => rhs; rw [hlast]
      simp only [String.append_assoc]
    have hlength : (ofText last).length
        = (ofText front).length + (ofText (lastSlash last)).length := by
      conv => lhs; rw [hlast]
      rw [Bytes.ofText_append, List.length_append]
    rw [String.append_empty, htext, Bytes.ofText_append, Bytes.ofText_append, List.length_append,
      List.length_append] at hcut
    rw [keptRest, if_pos rfl, ← hkept, hlength, Nat.add_sub_cancel]
    exact hcut

/-- A value that its stop byte or nothing follows is captured, and the search goes on behind it. -/
theorem spansFrom?_cons (last : Bytes) (openEnded : Bool) (s : Slot String)
    (slots : List (Slot String)) {i start stop : Nat} {value tail : Bytes} (hne : value ≠ [])
    (hvalue : s.stop ∉ value) (htail : tail = [] ∨ tail.head? = some s.stop)
    (hstart : i + (ofText s.literal).length = start) (hstop : start + value.length = stop) :
    spansFrom? last openEnded (s :: slots) i (ofText s.literal ++ (value ++ tail))
      = (spansFrom? last openEnded slots stop tail).map fun c =>
          { c with values := ⟨start, stop⟩ :: c.values } := by
  have hbehind : (ofText s.literal).isPrefixOf? (ofText s.literal ++ (value ++ tail))
      = some (value ++ tail) := List.isPrefixOf?_eq_some_iff_append_eq.mpr rfl
  -- The scan for the end of the value passes all of it, and stops at what follows.
  have htake : (value ++ tail).takeWhile (· ≠ s.stop) = value := by
    rw [List.takeWhile_append_of_pos fun b hb => decide_eq_true (ne_of_mem_of_not_mem hb hvalue)]
    rcases htail with rfl | htail
    · exact List.append_nil _
    · obtain ⟨ys, rfl⟩ := List.head?_eq_some_iff.mp htail
      rw [List.takeWhile_cons_of_neg (by simp), List.append_nil]
  have hoffset : i + ((ofText s.literal ++ (value ++ tail)).length - (value ++ tail).length)
      = start := by rw [List.length_append, Nat.add_sub_cancel, hstart]
  rw [spansFrom?, hbehind]
  simp only [Option.bind_eq_bind, Option.bind_some]
  rw [htake, if_neg (by simpa using hne), hoffset, hstop, List.drop_left]
  cases spansFrom? last openEnded slots stop tail <;> rfl

/-- What is captured for a slot is such a value. -/
theorem of_spansFrom?_cons {last : Bytes} {openEnded : Bool} {s : Slot String}
    {slots : List (Slot String)} {i : Nat} {path : Bytes} {c : Capture}
    (h : spansFrom? last openEnded (s :: slots) i path = some c) :
    ∃ behind inner j, path = ofText s.literal ++ behind
      ∧ behind.takeWhile (· ≠ s.stop) ≠ []
      ∧ spansFrom? last openEnded slots j (behind.dropWhile (· ≠ s.stop)) = some inner := by
  rw [spansFrom?] at h
  cases hbehind : (ofText s.literal).isPrefixOf? path with
  | none => simp [hbehind] at h
  | some behind =>
    rw [hbehind] at h
    simp only [Option.bind_eq_bind, Option.bind_some] at h
    split at h
    · cases h
    · rename_i hvalue
      obtain ⟨inner, hinner, -⟩ := Option.bind_eq_some_iff.mp h
      rw [Bytes.drop_length_takeWhile] at hinner
      exact ⟨behind, inner, _, (List.append_eq_of_isPrefixOf?_eq_some hbehind).symm,
        by simpa using hvalue, hinner⟩

/-- Values that are filled in are found, and so is the rest. -/
theorem spansFrom?_filled {openEnded : Bool} {slots : List (Slot String)} {values : List String}
    {last rest : String} (hchained : Chained last slots) (hfits : Fits slots values)
    (hends : Ends openEnded slots last rest) (before : String) :
    let path := before ++ filled slots values last rest
    ∃ c, spansFrom? (ofText last) openEnded slots (ofText before).length
          (ofText (filled slots values last rest)) = some c
      ∧ c.values.map (Text.cut path) = values
      ∧ Text.cut path c.rest = keptRest openEnded last rest := by
  -- Offsets count from the start of the path, so the induction is for any text in front.
  induction hfits generalizing before with
  | nil =>
    obtain ⟨sp, hsp, hcut⟩ := restSpan?_of_ends hends before
    simp only [filled_nil]
    exact ⟨⟨[], sp⟩, by rw [spansFrom?, hsp]; rfl, rfl, hcut⟩
  | cons hvalue hvalues ih =>
    rename_i s v slots values
    have hends' : Ends openEnded slots last rest :=
      ⟨hends.closed, fun _ => hends.behindValue (List.cons_ne_nil _ _)⟩
    obtain ⟨c, hc, hcaptured, hrest⟩ := ih hchained.2.2.2 hends' (before ++ s.literal ++ v)
    have hne : ofText v ≠ [] := fun hnil => hvalue.1 (Bytes.ofText_injective (t := "") hnil)
    have hpath : before ++ filled (s :: slots) (v :: values) last rest
        = before ++ s.literal ++ v ++ filled slots values last rest := by
      rw [filled_cons]
      simp only [String.append_assoc]
    have hstart : (ofText before).length + (ofText s.literal).length
        = (ofText (before ++ s.literal)).length := by
      rw [Bytes.ofText_append, List.length_append]
    have hstop : (ofText (before ++ s.literal)).length + (ofText v).length
        = (ofText (before ++ s.literal ++ v)).length := by
      rw [Bytes.ofText_append (before ++ s.literal), List.length_append]
    have hstep := spansFrom?_cons (ofText last) openEnded s slots hne hvalue.2
      (head?_filled hchained hvalues hends) hstart hstop
    rw [hc, Option.map_some, ← List.append_assoc, ← Bytes.ofText_append, ← Bytes.ofText_append,
      ← filled_cons] at hstep
    intro path
    rw [show path = _ from hpath]
    refine ⟨_, hstep, ?_, hrest⟩
    rw [List.map_cons, hcaptured, Text.cut_middle]

/-- What is found fills the slots. -/
theorem filled_of_spansFrom? {openEnded : Bool} {slots : List (Slot String)} {last : String}
    (hchained : Chained last slots) {i : Nat} {path : String} {c : Capture}
    (h : spansFrom? (ofText last) openEnded slots i (ofText path) = some c) :
    ∃ values rest, path = filled slots values last rest ∧ Fits slots values
      ∧ Ends openEnded slots last rest := by
  -- The induction follows the search, slot by slot.
  induction slots generalizing i path c with
  | nil =>
    rw [spansFrom?, Option.map_eq_some_iff] at h
    obtain ⟨sp, hsp, -⟩ := h
    rw [restSpan?] at hsp
    split at hsp
    · rename_i hopen
      split at hsp
      · rename_i hfront
        obtain ⟨bs, hbs⟩ := List.isPrefixOf_iff_prefix.mp hfront
        obtain ⟨rest, rfl, -⟩ := Bytes.exists_of_ofText_eq_append hbs.symm
        exact ⟨[], rest, (filled_nil ..).symm, .nil, fun hclosed => by simp [hopen] at hclosed,
          fun hne => absurd rfl hne⟩
      · cases hsp
    · split at hsp
      · rename_i heq
        obtain rfl := Bytes.ofText_injective heq
        exact ⟨[], "", by rw [filled_nil, String.append_empty], .nil, fun _ => rfl,
          fun hne => absurd rfl hne⟩
      · cases hsp
  | cons s slots ih =>
    obtain ⟨behind, inner, j, hpath, hne, hinner⟩ := of_spansFrom?_cons h
    obtain ⟨-, hstop, hbreak, hbehind⟩ := hchained
    -- The stop byte is a break character, so the value and what follows it are texts.
    obtain ⟨d, rfl, rfl⟩ := Bytes.exists_of_ofText_eq_append hpath
    obtain ⟨v, after, rfl, hv, hafter⟩ := exists_cut_at hbreak d
    rw [hafter] at hinner
    obtain ⟨values, rest, rfl, hfits, hends⟩ := ih hbehind hinner
    refine ⟨v :: values, rest, ?_, .cons ⟨?_, ?_⟩ hfits, hends.closed, fun _ hlast => ?_⟩
    · rw [filled_cons, String.append_assoc]
    · rintro rfl
      exact hne hv
    · rw [← hv]
      intro hmem
      simpa using List.mem_takeWhile_imp hmem
    · cases hfits with
      | cons hvalue hvalues => exact hends.behindValue (List.cons_ne_nil _ _) hlast
      | nil =>
        -- The value stops at a slash, and the rest is what stands behind the value.
        subst hlast
        have hfirst := List.head?_dropWhile_not (· ≠ s.stop) (ofText (v ++ filled [] [] "" rest))
        rw [hafter, filled_nil, String.empty_append] at hfirst
        cases hhead : (ofText rest).head? with
        | none => exact .inl (Bytes.ofText_injective (t := "") (List.head?_eq_none_iff.mp hhead))
        | some b =>
          rw [hhead] at hfirst
          have hb : b = s.stop := by simpa using hfirst
          rw [hb, hstop] at hhead
          exact .inr (head?_eq_slash_iff.mp hhead)

/-! ### Whole patterns -/

/-- The captured values and the captured rest as texts. -/
def captured? (p : Placeholder) (path : String) : Option (List String × String) :=
  (p.spans? path).map fun c => (c.values.map (Text.cut path), Text.cut path c.rest)

/-- The parameters that values and a rest are bound to. -/
def bound (p : Placeholder) (values : List String) (rest : String) : Dict String :=
  let named := Dict.ofList (p.names.zip values)
  if p.openEnded then named.insert Context.restParam rest else named

/-- Matching binds what is captured. -/
theorem match?_eq (p : Placeholder) (path : String) :
    p.match? path = (p.captured? path).map fun c => p.bound c.1 c.2 := by
  rw [match?, captured?, Option.map_map]
  rfl

section

variable {p : Placeholder}

/-- Values that are filled in are captured. -/
theorem captured?_fill (hchained : Chained p.last p.slots) {values : List String} {rest : String}
    (h : p.Admits values rest) :
    p.captured? (p.fill values rest) = some (values, keptRest p.openEnded p.last rest) := by
  obtain ⟨c, hc, hvalues, hrest⟩ := spansFrom?_filled hchained h.values h.rest ""
  rw [String.empty_append] at hvalues hrest
  rw [captured?, spans?, fill]
  rw [show spansFrom? _ _ _ 0 _ = some c from hc, Option.map_some, hvalues, hrest]

/-- A path that matches is filled in. -/
theorem exists_fill_of_accepts (hchained : Chained p.last p.slots) {path : String}
    (h : p.accepts path) : ∃ values rest, path = p.fill values rest ∧ p.Admits values rest := by
  obtain ⟨c, hc⟩ := Option.isSome_iff_exists.mp h
  obtain ⟨values, rest, hpath, hfits, hends⟩ := filled_of_spansFrom? hchained hc
  exact ⟨values, rest, hpath, hfits, hends⟩

/-- There is one way at most to fill in a path. -/
theorem fill_injective (hchained : Chained p.last p.slots) {values values' : List String}
    {rest rest' : String} (h : p.Admits values rest) (h' : p.Admits values' rest')
    (heq : p.fill values rest = p.fill values' rest') : values = values' ∧ rest = rest' := by
  -- Both lists of values are what is captured, and the texts in front of the rests agree then.
  have hcaptured := captured?_fill hchained h
  rw [heq, captured?_fill hchained h', Option.some.injEq, Prod.mk.injEq] at hcaptured
  obtain rfl := hcaptured.1
  rw [fill, fill, filled_rest, filled_rest _ _ _ rest'] at heq
  exact ⟨rfl, (String.append_right_inj _).mp heq⟩

end

/-- A pattern matches a path exactly if the path is the pattern with values in place of its names
and a rest behind it. No value is empty or contains its stop byte, which is the first one of the
next literal, or a slash if that is empty. There is no rest without an asterisk, and behind a
placeholder at the end the rest begins with a slash, if there is one. There is one such way at most.
Matching captures the values in order, and the rest with the slash in front of it that ends the last
literal, and binds them. -/
theorem match_exact {raw : String} {p : Placeholder} (hp : parse raw = .ok p) (path : String) :
    p.stops = p.literals.tail.map stopOf
      ∧ (p.accepts path = true ↔ ∃ values rest, path = p.fill values rest ∧ p.Admits values rest)
      ∧ (∀ values rest values' rest', p.Admits values rest → p.Admits values' rest' →
          path = p.fill values rest → path = p.fill values' rest' →
            values = values' ∧ rest = rest')
      ∧ ∀ values rest, p.Admits values rest → path = p.fill values rest →
          p.captured? path = some (values, keptRest p.openEnded p.last rest)
            ∧ p.match? path = some (p.bound values (keptRest p.openEnded p.last rest)) := by
  obtain ⟨-, -, -, -, hchained⟩ := of_parse hp
  refine ⟨hchained.map_stop, ⟨exists_fill_of_accepts hchained, ?_⟩, ?_, ?_⟩
  · rintro ⟨values, rest, rfl, hadmits⟩
    have hcaptured := captured?_fill hchained hadmits
    rw [captured?, Option.map_eq_some_iff] at hcaptured
    obtain ⟨c, hc, -⟩ := hcaptured
    exact Option.isSome_iff_exists.mpr ⟨c, hc⟩
  · intro values rest values' rest' h h' hpath hpath'
    exact fill_injective hchained h h' (hpath ▸ hpath')
  · rintro values rest hadmits rfl
    have hcaptured := captured?_fill hchained hadmits
    exact ⟨hcaptured, by rw [match?_eq, hcaptured, Option.map_some]⟩

/-- Two placeholders, and an asterisk right behind the second one. -/
def openSample : Placeholder :=
  ⟨"/a/:é.:b*", [⟨"/a/", "é", 0x2E⟩, ⟨".", "b", 0x2F⟩], "", true⟩

/-- The first value goes up to the dot, and the second one up to the slash. -/
theorem match_exact_openSample :
    parse "/a/:é.:b*" = .ok openSample
      ∧ "/a/x y.z/é/" = openSample.fill ["x y", "z"] "/é/"
      ∧ openSample.Admits ["x y", "z"] "/é/"
      ∧ openSample.captured? "/a/x y.z/é/" = some (["x y", "z"], "/é/") := by
  have hparse : parse "/a/:é.:b*" = .ok openSample := by decide +kernel
  have hadmits : openSample.Admits ["x y", "z"] "/é/" :=
    ⟨.cons ⟨by decide, by decide⟩ (.cons ⟨by decide, by decide⟩ .nil),
      fun hclosed => Bool.noConfusion hclosed, fun _ _ => .inr (by decide)⟩
  have hpath : "/a/x y.z/é/" = openSample.fill ["x y", "z"] "/é/" := by decide
  exact ⟨hparse, hpath, hadmits, ((match_exact hparse _).2.2.2 _ _ hadmits hpath).1⟩

end Placeholder

end HttpMux
