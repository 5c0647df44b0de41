import HttpMux.Pattern.Placeholder
import HttpMux.Proofs.Text.Encoding
import Mathlib.Data.List.Infix

/-!
# `HttpMux.Proofs.Pattern.Spelling`: which texts spell a placeholder pattern

A placeholder stands behind every break character with a colon behind it, and its name is the run of
other bytes that follows. The reader goes on behind the name. It misses no placeholder, because no
break character is in a colon or a name.

* `Bytes.Between`: the offsets at which a text can be cut. `Text.ofText_cut` cuts it there.
* `Placeholder.runs`: the runs behind all the places that look like placeholders.
* `Placeholder.exists_layoutFrom_iff`: the reader accepts a text exactly if no run is empty and no
  run occurs twice.
* `Placeholder.Chained`: how literals and stop bytes go together.
* `Placeholder.spelled_of_layoutFrom`: what the reader finds spells the text again, by induction on
  the walk of the reader.
* `Placeholder.parse_exact`: both for whole patterns.
-/

set_option autoImplicit false

namespace HttpMux

/-! ### Offsets between characters -/

namespace Bytes

/-- The offset lies between characters of the text. -/
def Between (cs : List Char) (i : Nat) : Prop :=
  ∃ before after, cs = before ++ after ∧ (ofChars before).length = i

/-- The start of a text lies between characters. -/
theorem between_zero (cs : List Char) : Between cs 0 := ⟨[], cs, rfl, rfl⟩

/-- An offset between characters is one of the text. -/
theorem Between.le_length {cs : List Char} {i : Nat} (h : Between cs i) :
    i ≤ (ofChars cs).length := by
  obtain ⟨before, after, rfl, rfl⟩ := h
  rw [ofChars_append, List.length_append]
  exact Nat.le_add_right ..

/-- The end of a text lies between characters. -/
theorem between_length (cs : List Char) : Between cs (ofChars cs).length :=
  ⟨cs, [], (List.append_nil cs).symm, rfl⟩

/-- Every ASCII byte begins and ends between characters. -/
theorem between_of_ascii {c : Char} (hc : c.toNat < 128) {cs : List Char} {xs ys : Bytes}
    (h : ofChars cs = xs ++ ascii c :: ys) : Between cs xs.length ∧ Between cs (xs.length + 1) := by
  obtain ⟨before, after, rfl, rfl, -⟩ := exists_of_ofChars_eq hc h
  refine ⟨⟨before, c :: after, rfl, rfl⟩, ⟨before ++ [c], after, by simp, ?_⟩⟩
  rw [ofChars_append, List.length_append, ofChars_cons, encoded_of_ascii hc]
  rfl

end Bytes

open Bytes (ofText ofChars Between)

/-- Between two offsets that lie between characters there is a text. -/
theorem Bytes.Between.exists_middle {cs : List Char} {a b : Nat} (ha : Between cs a)
    (hb : Between cs b) (hab : a ≤ b) :
    ∃ before middle after, cs = before ++ middle ++ after ∧ (ofChars before).length = a
      ∧ (ofChars (before ++ middle)).length = b := by
  -- One of the two fronts is a part of the other.
  obtain ⟨p, p', rfl, hp⟩ := ha
  obtain ⟨q, q', heq, hq⟩ := hb
  rcases List.append_eq_append_iff.mp heq with ⟨m, hm, hp'⟩ | ⟨m, hm, hq'⟩
  · exact ⟨p, m, q', by rw [hp', List.append_assoc], hp, hm ▸ hq⟩
  · -- The second front is no shorter than the first, so nothing lies between them.
    rw [hm, Bytes.ofChars_append, List.length_append] at hp
    have hnil : ofChars m = [] := List.length_eq_zero_iff.mp (by omega)
    obtain rfl : m = [] := Bytes.ofChars_injective hnil
    rw [List.append_nil] at hm
    exact ⟨p, [], p', by rw [List.append_nil], by rw [hm]; omega, by rw [hm, List.append_nil, hq]⟩

/-- A span between such offsets covers a text. -/
theorem Text.ofText_cut {cs : List Char} {a b : Nat} (ha : Between cs a) (hb : Between cs b)
    (hab : a ≤ b) :
    ofText (cut (String.ofList cs) ⟨a, b⟩) = ((ofChars cs).drop a).take (b - a) := by
  obtain ⟨before, middle, after, rfl, rfl, rfl⟩ := ha.exists_middle hb hab
  have hcovered : ((ofChars (before ++ middle ++ after)).drop (ofChars before).length).take
      ((ofChars (before ++ middle)).length - (ofChars before).length) = ofChars middle := by
    rw [List.append_assoc, Bytes.ofChars_append, Bytes.ofChars_append, Bytes.ofChars_append,
      List.drop_left, List.length_append, Nat.add_sub_cancel_left, List.take_left]
  rw [cut, Span.bytesOf, Bytes.ofText_ofList, hcovered, ← Bytes.ofText_ofList,
    Bytes.text?_ofText, Option.getD_some]

namespace Placeholder

/-! ### Break characters -/

/-- A break character is a character of its own. -/
theorem exists_ascii_of_isBreak {b : UInt8} (h : isBreak b) :
    ∃ c : Char, c.toNat < 128 ∧ Bytes.ascii c = b := by
  simp only [isBreak, Bool.or_eq_true, decide_eq_true_eq] at h
  rcases h with ((rfl | rfl) | rfl) | rfl
  · exact ⟨'/', by decide, rfl⟩
  · exact ⟨'.', by decide, rfl⟩
  · exact ⟨';', by decide, rfl⟩
  · exact ⟨',', by decide, rfl⟩

/-- A colon is no break character, so it does not end a name. -/
theorem isBreak_colon : isBreak colon = false := by decide

/-- A name and what stands behind it are the text that it was taken from. -/
theorem nameOf_append_behind (bs : Bytes) :
    nameOf bs ++ bs.drop (nameOf bs).length = bs := by
  rw [nameOf, Bytes.drop_length_takeWhile, List.takeWhile_append_dropWhile]

/-- No break character is in a name. -/
theorem not_isBreak_of_mem_nameOf {b : UInt8} {bs : Bytes} (h : b ∈ nameOf bs) :
    isBreak b = false := by
  simpa using List.mem_takeWhile_imp h

/-- What stands behind a name begins with a break character, or it is the end of the pattern. -/
theorem isBreak_behind (bs : Bytes) : isBreak ((bs.drop (nameOf bs).length).head?.getD slash) := by
  rw [nameOf, Bytes.drop_length_takeWhile]
  have hfirst := List.head?_dropWhile_not (fun b => !isBreak b) bs
  cases hhead : (bs.dropWhile fun b => !isBreak b).head? with
  | none => decide
  | some b =>
    rw [hhead] at hfirst
    simpa using hfirst

/-- The end of a name behind a colon lies between characters. -/
theorem between_behind_name {cs : List Char} {xs rest : Bytes}
    (h : ofChars cs = xs ++ colon :: rest) : Between cs (xs.length + 1 + (nameOf rest).length) := by
  have hcolon : Bytes.ascii ':' = colon := rfl
  -- The text is cut at the colon first, then at the break character that ends the name. Both are
  -- ASCII, so both cuts are between characters.
  obtain ⟨before, after, rfl, rfl, rfl⟩ :=
    Bytes.exists_of_ofChars_eq (c := ':') (by decide) (hcolon ▸ h)
  obtain ⟨name, behind, rfl, hname, -⟩ := Bytes.exists_of_takeWhile (p := fun b => !isBreak b)
    (fun b hb => exists_ascii_of_isBreak (by simpa using hb)) after
  refine ⟨before ++ ':' :: name, behind, by simp, ?_⟩
  rw [nameOf, hname, Bytes.ofChars_append, Bytes.ofChars_cons, Bytes.encoded_of_ascii (by decide)]
  simp only [List.length_append, List.length_singleton]
  omega

/-! ### The places that look like placeholders -/

/-- What follows a break character and a colon in front. -/
def behindMark? : Bytes → Option Bytes
  | b :: c :: rest => if isBreak b ∧ c = colon then some rest else none
  | _ => none

/-- The runs of bytes other than break characters that follow a break character and a colon, for
every place in the text where these two stand. -/
def runs (bs : Bytes) : List Bytes :=
  bs.tails.filterMap fun tail => (behindMark? tail).map nameOf

/-- A break character with a colon behind it begins a run. -/
theorem runs_cons_of_mark {b : UInt8} (hb : isBreak b) (rest : Bytes) :
    runs (b :: colon :: rest) = nameOf rest :: runs (colon :: rest) := by
  rw [runs, List.tails_cons, List.filterMap_cons, behindMark?, if_pos ⟨hb, rfl⟩]
  rfl

/-- Any other byte begins none. -/
theorem runs_cons_of_none {b : UInt8} {bs : Bytes} (h : behindMark? (b :: bs) = none) :
    runs (b :: bs) = runs bs := by
  rw [runs, List.tails_cons, List.filterMap_cons, h]
  rfl

/-- No placeholder begins with another byte than a break character. -/
theorem runs_cons_of_not_isBreak {b : UInt8} (hb : isBreak b = false) (bs : Bytes) :
    runs (b :: bs) = runs bs := by
  refine runs_cons_of_none ?_
  cases bs with
  | nil => rfl
  | cons c rest =>
    rw [behindMark?, if_neg]
    rintro ⟨h, -⟩
    rw [hb] at h
    cases h

/-- No placeholder begins inside of a name. -/
theorem runs_append {name : Bytes} (h : ∀ b ∈ name, isBreak b = false) (rest : Bytes) :
    runs (name ++ rest) = runs rest := by
  -- Byte by byte: none of a name is a break character, so none begins a run.
  induction name with
  | nil => rfl
  | cons b name ih =>
    rw [List.cons_append, runs_cons_of_not_isBreak (h b List.mem_cons_self),
      ih fun c hc => h c (List.mem_cons_of_mem b hc)]

/-- Behind a placeholder the next one is looked for behind its name. -/
theorem runs_cons_cons {b : UInt8} (hb : isBreak b) (rest : Bytes) :
    runs (b :: colon :: rest) = nameOf rest :: runs (rest.drop (nameOf rest).length) := by
  rw [runs_cons_of_mark hb, runs_cons_of_not_isBreak isBreak_colon]
  congr 1
  calc runs rest
    _ = runs (nameOf rest ++ rest.drop (nameOf rest).length) := by rw [nameOf_append_behind]
    _ = runs (rest.drop (nameOf rest).length) :=
      runs_append (fun _ => not_isBreak_of_mem_nameOf) _

/-- A text of less than two bytes has no run. -/
theorem runs_of_short {bs : Bytes} (h : ∀ b c rest, bs = b :: c :: rest → False) :
    runs bs = [] := by
  match bs with
  | [] => rfl
  | [b] => rfl
  | b :: c :: rest => exact (h b c rest rfl).elim

/-- Every run is a name. -/
theorem exists_nameOf_of_mem_runs {r bs : Bytes} (h : r ∈ runs bs) : ∃ rest, nameOf rest = r := by
  obtain ⟨tail, -, hrun⟩ := List.mem_filterMap.mp h
  obtain ⟨rest, -, hname⟩ := Option.map_eq_some_iff.mp hrun
  exact ⟨rest, hname⟩

/-! ### Which texts are accepted -/

/-- A result is there after a change if it was before, and is the changed one. -/
theorem map_eq_ok {ε α β : Type} {x : Except ε α} {f : α → β} {b : β} :
    x.map f = .ok b ↔ ∃ a, x = .ok a ∧ f a = b := by
  cases x with
  | error e => simp [Except.map]
  | ok a => simp [Except.map]

/-- A change of the result does not change whether there is one. -/
theorem exists_map_eq_ok {ε α β : Type} {x : Except ε α} {f : α → β} :
    (∃ b, x.map f = .ok b) ↔ ∃ a, x = .ok a := by
  simp [map_eq_ok]

/-- The reader accepts a text exactly if no run is empty, and no run occurs twice or was seen
before. -/
theorem exists_layoutFrom_iff (start i : Nat) (seen : List Bytes) (rest : Bytes) :
    (∃ l, layoutFrom start i seen rest = .ok l)
      ↔ (∀ r ∈ runs rest, r ≠ [] ∧ r ∉ seen) ∧ (runs rest).Nodup := by
  -- The cases of the reader: an empty name, a name that was seen before, a new name, no placeholder
  -- here, and the end of the text.
  fun_induction layoutFrom start i seen rest with
  | case1 start i seen b c rest hslot name hempty =>
    obtain ⟨hb, rfl⟩ := hslot
    refine iff_of_false (by simp) fun h => ?_
    rw [runs_cons_cons hb] at h
    exact absurd (List.isEmpty_iff.mp hempty) (h.1 _ List.mem_cons_self).1
  | case2 start i seen b c rest hslot name hne hseen =>
    obtain ⟨hb, rfl⟩ := hslot
    refine iff_of_false (by simp) fun h => ?_
    rw [runs_cons_cons hb] at h
    exact absurd hseen (h.1 _ List.mem_cons_self).2
  | case3 start i seen b c rest hslot name stop hne hnew behind ih =>
    obtain ⟨hb, rfl⟩ := hslot
    have hname : nameOf rest ≠ [] := fun hnil => hne (List.isEmpty_iff.mpr hnil)
    rw [exists_map_eq_ok, ih, runs_cons_cons hb, List.forall_mem_cons, List.nodup_cons]
    simp only [List.mem_cons, not_or]
    -- The name is neither seen before nor among the later runs.
    constructor
    · rintro ⟨hlater, hnodup⟩
      exact ⟨⟨⟨hname, hnew⟩, fun r hr => ⟨(hlater r hr).1, (hlater r hr).2.2⟩⟩,
        fun hmem => (hlater _ hmem).2.1 rfl, hnodup⟩
    · rintro ⟨⟨-, hlater⟩, hnot, hnodup⟩
      refine ⟨fun r hr => ⟨(hlater r hr).1, ?_, (hlater r hr).2⟩, hnodup⟩
      rintro rfl
      exact hnot hr
  | case4 start i seen b c rest hslot ih =>
    have hnone : behindMark? (b :: c :: rest) = none := by rw [behindMark?, if_neg hslot]
    rw [ih, runs_cons_of_none hnone]
  | case5 start i seen rest hrest =>
    rw [runs_of_short hrest]
    exact iff_of_true ⟨_, rfl⟩ ⟨List.forall_mem_nil _, List.nodup_nil⟩

/-! ### What the parts of a pattern are -/

/-- The literal in front of some slots and the last literal. -/
def firstLiteral (slots : List (Slot String)) (last : String) : String :=
  match slots with
  | s :: _ => s.literal
  | [] => last

/-- The text of slots and a last literal: every literal, and behind it a colon and a name. -/
def spelled (slots : List (Slot String)) (last : String) : String :=
  String.join (slots.map fun s => s.literal ++ ":" ++ s.name) ++ last

/-- The byte that a value in front of a literal must not contain: the first one of the literal, or a
slash if the literal is empty. -/
def stopOf (literal : String) : UInt8 := (ofText literal).head?.getD slash

/-- Every slot has a literal that ends in a break character, and its values stop at the literal that
follows. -/
def Chained (last : String) : List (Slot String) → Prop
  | [] => True
  | s :: slots =>
    (∃ b, (ofText s.literal).getLast? = some b ∧ isBreak b)
      ∧ s.stop = stopOf (firstLiteral slots last) ∧ isBreak s.stop ∧ Chained last slots

/-- Without slots the text is the last literal. -/
@[simp]
theorem spelled_nil (last : String) : spelled [] last = last := by
  simp [spelled, String.join]

/-- The first slot spells its literal, a colon and its name, in front of the rest. -/
@[simp]
theorem spelled_cons (s : Slot String) (slots : List (Slot String)) (last : String) :
    spelled (s :: slots) last = s.literal ++ ":" ++ s.name ++ spelled slots last := by
  rw [spelled, List.map_cons, String.join_cons, String.append_assoc, spelled]

/-- The first literal begins as the whole text does. -/
theorem stopOf_firstLiteral {slots : List (Slot String)} {last : String} (h : Chained last slots) :
    stopOf (firstLiteral slots last) = stopOf (spelled slots last) := by
  cases slots with
  | nil => rw [spelled_nil, firstLiteral]
  | cons s slots =>
    obtain ⟨⟨b, hb, -⟩, -⟩ := h
    have hne : ofText s.literal ≠ [] := by
      rintro hnil
      rw [hnil] at hb
      cases hb
    obtain ⟨x, xs, hx⟩ := List.exists_cons_of_ne_nil hne
    rw [firstLiteral, stopOf, stopOf, spelled_cons, Bytes.ofText_append, Bytes.ofText_append,
      Bytes.ofText_append, hx]
    rfl

/-- The slot whose parts lie at the given places of a text. -/
def slotAt (body : String) (s : Slot Span) : Slot String :=
  ⟨Text.cut body s.literal, Text.cut body s.name, s.stop⟩

/-- Where a byte stands at an offset, there is a text of this length in front of it. -/
theorem take_append_of_drop {bs tail : Bytes} {i : Nat} {b : UInt8} (h : bs.drop i = b :: tail) :
    bs = bs.take i ++ [b] ++ tail ∧ (bs.take i).length = i := by
  have hlength := congrArg List.length h
  rw [List.length_drop, List.length_cons] at hlength
  refine ⟨?_, List.length_take_of_le (by omega)⟩
  rw [List.append_assoc, List.singleton_append, ← h, List.take_append_drop]

/-- The offsets around the colon behind a break character, and the end of the name, lie between
characters. -/
theorem between_of_mark {cs : List Char} {i : Nat} {b : UInt8} {rest : Bytes}
    (hrest : (ofChars cs).drop i = b :: colon :: rest) :
    Between cs (i + 1) ∧ Between cs (i + 2) ∧ Between cs (i + 2 + (nameOf rest).length) := by
  obtain ⟨hsplit, htake⟩ := take_append_of_drop hrest
  have hfront : ((ofChars cs).take i ++ [b]).length = i + 1 := by
    rw [List.length_append, htake, List.length_singleton]
  have hcolon : Bytes.ascii ':' = colon := rfl
  obtain ⟨hmark, hbehindMark⟩ := Bytes.between_of_ascii (c := ':') (by decide) (hcolon ▸ hsplit)
  have hstop := between_behind_name hsplit
  rw [hfront] at hmark hbehindMark hstop
  exact ⟨hmark, hbehindMark, hstop⟩

/-- The parts around a break character and a colon: the literal goes up to the break character, and
the name stands behind the colon. -/
theorem parts_of_mark {cs : List Char} {start i : Nat} {b : UInt8} {rest : Bytes}
    (hrest : (ofChars cs).drop i = b :: colon :: rest) (hle : start ≤ i)
    (hstart : Between cs start) :
    let stop := i + 2 + (nameOf rest).length
    Between cs stop ∧ (ofChars cs).drop stop = rest.drop (nameOf rest).length
      ∧ (∃ front, ofText (Text.cut (String.ofList cs) ⟨start, i + 1⟩) = front ++ [b]
          ∧ (ofChars cs).drop start = front ++ [b] ++ colon :: rest)
      ∧ ofText (Text.cut (String.ofList cs) ⟨i + 2, stop⟩) = nameOf rest := by
  intro stop
  obtain ⟨hmark, hbehindMark, hstop⟩ := between_of_mark hrest
  -- The text is what is in front of the break character, the break character, and the rest.
  obtain ⟨hsplit, htake⟩ := take_append_of_drop hrest
  have hdropMark : (ofChars cs).drop (i + 2) = rest := by
    rw [← List.drop_drop, hrest]
    rfl
  have hdropStart : (ofChars cs).drop start
      = ((ofChars cs).take i).drop start ++ [b] ++ colon :: rest := by
    conv => lhs; rw [hsplit]
    rw [List.append_assoc, List.drop_append_of_le_length (by omega), List.append_assoc]
  refine ⟨hstop, ?_, ⟨((ofChars cs).take i).drop start, ?_, hdropStart⟩, ?_⟩
  · rw [← List.drop_drop, hdropMark]
  · rw [Text.ofText_cut hstart hmark (by omega), hdropStart]
    refine List.take_left' ?_
    rw [List.length_append, List.length_drop, htake, List.length_singleton]
    omega
  · have hname : nameOf rest = rest.take (nameOf rest).length :=
      List.prefix_iff_eq_take.mp (List.takeWhile_prefix _)
    rw [Text.ofText_cut hbehindMark hstop (by omega), hdropMark, Nat.add_sub_cancel_left, ← hname]

/-- The reader takes a text apart: what it finds spells the text from where the literal that is
being read began, the names are the runs, and the parts are chained. -/
theorem spelled_of_layoutFrom {start i : Nat} {seen : List Bytes} {rest : Bytes} {l : Layout}
    (h : layoutFrom start i seen rest = .ok l) {cs : List Char}
    (hrest : (ofChars cs).drop i = rest) (hlength : i ≤ (ofChars cs).length) (hle : start ≤ i)
    (hstart : Between cs start) :
    let slots := l.slots.map (slotAt (String.ofList cs))
    let last := Text.cut (String.ofList cs) l.last
    ofText (spelled slots last) = (ofChars cs).drop start
      ∧ slots.map (fun s => ofText s.name) = runs rest
      ∧ Chained last slots := by
  -- The cases are those of the reader. Two of them are refusals.
  fun_induction layoutFrom start i seen rest generalizing l with
  | case1 => cases h
  | case2 => cases h
  | case3 start i seen b c rest hslot name stop hne hnew behind =>
    rename_i ih
    obtain ⟨hb, rfl⟩ := hslot
    obtain ⟨inner, hbehind, rfl⟩ := map_eq_ok.mp h
    obtain ⟨hstop, hdrop, ⟨front, hliteral, htext⟩, hname⟩ := parts_of_mark hrest hle hstart
    obtain ⟨hspelled, hnames, hchained⟩ := ih hbehind hdrop hstop.le_length (Nat.le_refl stop) hstop
    rw [hdrop] at hspelled
    refine ⟨?_, ?_, ⟨b, ?_, hb⟩, ?_, isBreak_behind rest, hchained⟩
    · rw [List.map_cons, spelled_cons, Bytes.ofText_append, Bytes.ofText_append,
        Bytes.ofText_append, hspelled, htext]
      show ofText (Text.cut _ _) ++ [colon] ++ ofText (Text.cut _ _) ++ _ = _
      rw [hliteral, hname, List.append_assoc, nameOf_append_behind, List.append_assoc,
        List.singleton_append]
    · rw [List.map_cons, List.map_cons, hnames, runs_cons_cons hb]
      exact congrArg (· :: _) hname
    · show (ofText (Text.cut _ _)).getLast? = some b
      rw [hliteral, List.getLast?_concat]
    · -- The value stops at the byte behind the name, with which what follows begins.
      rw [stopOf_firstLiteral hchained, stopOf, hspelled]
      rfl
  | case4 start i seen b c rest hslot ih =>
    -- One byte further, which may be inside a character; the literal still begins where it began.
    have hdrop : (ofChars cs).drop (i + 1) = c :: rest := by
      rw [← List.drop_drop, hrest, List.drop_one, List.tail_cons]
    have hnone : behindMark? (b :: c :: rest) = none := by rw [behindMark?, if_neg hslot]
    rw [runs_cons_of_none hnone]
    have hlonger := congrArg List.length hrest
    rw [List.length_drop, List.length_cons] at hlonger
    exact ih h hdrop (by omega) (Nat.le_succ_of_le hle) hstart
  | case5 start i seen rest hshort =>
    cases h
    -- What is left is the end of the literal that began at `start`.
    have hend : i + rest.length = (ofChars cs).length := by
      rw [← hrest, List.length_drop]
      omega
    rw [runs_of_short hshort]
    refine ⟨?_, rfl, trivial⟩
    rw [List.map_nil, spelled_nil, hend, Text.ofText_cut hstart (Bytes.between_length cs)
      hstart.le_length]
    exact List.take_of_length_le (by rw [List.length_drop])

/-! ### Whole patterns -/

/-- The text of a pattern is its body and, if the pattern is open-ended, an asterisk. It is
open-ended if and only if its last character is an asterisk. -/
theorem splitRest_eq (raw : String) :
    raw = (splitRest raw).1 ++ (if (splitRest raw).2 then "*" else "")
      ∧ ((splitRest raw).2 = true ↔ raw.toList.getLast? = some '*') := by
  rw [splitRest]
  split
  · rename_i hlast
    obtain ⟨front, hfront⟩ := List.getLast?_eq_some_iff.mp hlast
    refine ⟨?_, iff_of_true rfl hlast⟩
    rw [if_pos rfl, hfront, List.dropLast_concat, ← String.ofList_toList (s := raw), hfront,
      String.ofList_append]
  · rename_i hlast
    exact ⟨(String.append_empty).symm, iff_of_false Bool.false_ne_true hlast⟩

/-- A pattern is read from the layout of its body, whose places are cut out of the body. -/
theorem parse_eq (raw : String) :
    parse raw = (layout (splitRest raw).1).map fun l =>
      { raw
        slots := l.slots.map (slotAt (splitRest raw).1)
        last := Text.cut (splitRest raw).1 l.last
        openEnded := (splitRest raw).2 } := rfl

/-- A text is a pattern exactly if its runs are not empty and differ from each other. -/
theorem exists_parse_iff (raw : String) :
    let body := ofText (splitRest raw).1
    (∃ p, parse raw = .ok p) ↔ (∀ r ∈ runs body, r ≠ []) ∧ (runs body).Nodup := by
  intro body
  rw [parse_eq, exists_map_eq_ok, layout, exists_layoutFrom_iff]
  -- No name is seen before the first one.
  simp only [List.not_mem_nil, not_false_eq_true, and_true]
  rfl

/-- The parts of a pattern spell its text without the asterisk. -/
theorem of_parse {raw : String} {p : Placeholder} (h : parse raw = .ok p) :
    p.raw = raw ∧ p.openEnded = (splitRest raw).2
      ∧ spelled p.slots p.last = (splitRest raw).1
      ∧ p.slots.map (fun s => ofText s.name) = runs (ofText (splitRest raw).1)
      ∧ Chained p.last p.slots := by
  rw [parse_eq] at h
  obtain ⟨l, hlayout, rfl⟩ := map_eq_ok.mp h
  rw [layout, Bytes.ofText_eq] at hlayout
  obtain ⟨htext, hnames, hchained⟩ := spelled_of_layoutFrom hlayout rfl (Nat.zero_le _)
    (Nat.le_refl 0) (Bytes.between_zero _)
  rw [String.ofList_toList] at htext hnames hchained
  rw [Bytes.ofText_eq (splitRest raw).1]
  refine ⟨rfl, rfl, Bytes.ofText_injective ?_, hnames, hchained⟩
  rw [Bytes.ofText_eq (splitRest raw).1]
  exact htext

/-- The bytes at which values stop, in order. -/
def stops (p : Placeholder) : List UInt8 := p.slots.map Slot.stop

/-- The pattern as text: literals and names with colons, and an asterisk if any rest may follow. -/
def spelling (p : Placeholder) : String :=
  spelled p.slots p.last ++ if p.openEnded then "*" else ""

/-- Values stop at the literal behind them. -/
theorem Chained.map_stop {slots : List (Slot String)} {last : String} (h : Chained last slots) :
    slots.map Slot.stop = (slots.map Slot.literal ++ [last]).tail.map stopOf := by
  -- The stop of the first slot is that of the literal behind it, which is the first one of what is
  -- left.
  induction slots with
  | nil => rfl
  | cons s slots ih =>
    obtain ⟨-, hstop, -, hrest⟩ := h
    rw [List.map_cons, ih hrest, hstop, List.map_cons, List.cons_append, List.tail_cons]
    cases slots <;> rfl

/-- Every literal that a placeholder follows ends in a break character. -/
theorem Chained.of_mem {slots : List (Slot String)} {last : String} (h : Chained last slots)
    {s : Slot String} (hs : s ∈ slots) : ∃ b, (ofText s.literal).getLast? = some b ∧ isBreak b := by
  induction slots with
  | nil => cases hs
  | cons s' slots ih =>
    obtain ⟨hliteral, -, -, hrest⟩ := h
    rcases List.mem_cons.mp hs with rfl | hs
    · exact hliteral
    · exact ih hrest hs

/-- Which texts are patterns, and what they are read into. A text is a pattern exactly if, in front
of an asterisk at its end, every break character with a colon behind it is followed by a run of
other bytes that is not empty, and no two of these runs are the same. The names of the pattern are
these runs. There is one literal more than there are names, and one stop byte for each name.
Literals and names in turn, with colons, spell the text again. Every literal but the last ends in a
break character, and every stop byte is the first byte of the next literal, or a slash if that is
empty. -/
theorem parse_exact (raw : String) :
    let body := (splitRest raw).1
    ((∃ p, parse raw = .ok p)
        ↔ (∀ r ∈ runs (ofText body), r ≠ []) ∧ (runs (ofText body)).Nodup)
      ∧ ∀ p, parse raw = .ok p →
          p.names.map ofText = runs (ofText body)
            ∧ p.literals.length = p.names.length + 1 ∧ p.stops.length = p.names.length
            ∧ p.raw = raw ∧ p.spelling = raw
            ∧ (p.openEnded = true ↔ raw.toList.getLast? = some '*')
            ∧ (∀ l ∈ p.literals.dropLast, ∃ b, (ofText l).getLast? = some b ∧ isBreak b)
            ∧ p.stops = p.literals.tail.map stopOf := by
  refine ⟨exists_parse_iff raw, fun p hp => ?_⟩
  obtain ⟨hraw, hopen, hspelled, hnames, hchained⟩ := of_parse hp
  obtain ⟨hsplit, hasterisk⟩ := splitRest_eq raw
  -- Each part is said of the slots by `of_parse`; what is left is to read it off the names, the
  -- literals and the stops.
  refine ⟨?_, ?_, ?_, hraw, ?_, ?_, ?_, hchained.map_stop⟩
  · rw [names, List.map_map]
    exact hnames
  · simp [literals, names]
  · simp [stops, names]
  · rw [spelling, hspelled, hopen]
    exact hsplit.symm
  · rw [hopen]
    exact hasterisk
  · intro l hl
    rw [literals, List.dropLast_concat] at hl
    obtain ⟨s, hs, rfl⟩ := List.mem_map.mp hl
    exact hchained.of_mem hs

/-- A name may have a colon and an asterisk in it, and letters that are not ASCII. The asterisk at
the end is no part of the last literal, and a name that occurs twice is refused. -/
theorem parse_exact_samples :
    (∃ p, parse "/:é.:b:*/*" = .ok p ∧ p.names = ["é", "b:*"] ∧ p.literals = ["/", ".", "/"]
        ∧ p.stops = [0x2E, 0x2F] ∧ p.spelling = "/:é.:b:*/*")
      ∧ ¬ ∃ p, parse "/:a/:a" = .ok p := by
  refine ⟨?_, fun haccepted => ?_⟩
  · have hp : parse "/:é.:b:*/*"
        = .ok ⟨"/:é.:b:*/*", [⟨"/", "é", 0x2E⟩, ⟨".", "b:*", 0x2F⟩], "/", true⟩ := by
      decide +kernel
    obtain ⟨-, -, -, -, hspelling, -⟩ := (parse_exact "/:é.:b:*/*").2 _ hp
    exact ⟨_, hp, rfl, rfl, rfl, hspelling⟩
  · exact absurd ((parse_exact "/:a/:a").1.mp haccepted).2 (by decide)

end Placeholder

end HttpMux
