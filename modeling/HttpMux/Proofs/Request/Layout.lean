import HttpMux.Request.Reader
import Mathlib.Data.List.Basic
import Mathlib.Data.List.TakeWhile

/-!
# `HttpMux.Proofs.Request.Layout`: the lines of a message, and where its head ends

The reader finds the end of the head by looking for two sequences of bytes at once. A message can
also be read line by line, up to the first empty line. `Layout.ofBytes` does so, with either kind of
line end at every line.

* `Layout.bytes_ofBytes` and `Layout.valid_ofBytes`: the layout of a message has all its bytes.
* `splitHead_cons`: the search for both sequences as one walk over the bytes.
* `splitHead_lines`: the walk passes lines that no empty line follows.
* `Layout.splitHead_cases`: the head ends in front of the first empty line, and the body begins
  behind it. Without an empty line there is no body.
* `Layout.splitHead_mixed`: the walk does not see an empty line in carriage return and line feed
  behind a line that ends in a line feed alone. It goes on to a later one.
-/

set_option autoImplicit false

namespace HttpMux.Request

/-! ### Lines -/

/-- How a line ends. -/
inductive LineEnd
  | feed
  | returnFeed
  deriving DecidableEq, Repr

namespace LineEnd

/-- The line end as text. -/
def text : LineEnd → String
  | feed => "\n"
  | returnFeed => "\r\n"

/-- The line end in bytes. -/
def bytes : LineEnd → Bytes
  | feed => [0x0A]
  | returnFeed => [0x0D, 0x0A]

/-- The line end as text has the bytes of the line end. -/
theorem ofText_text (e : LineEnd) : Bytes.ofText e.text = e.bytes := by cases e <;> decide

end LineEnd

/-- A line of a message with its line end. -/
structure Line where
  content : Bytes
  ending : LineEnd
  deriving DecidableEq, Repr

namespace Line

/-- The bytes of a line. -/
def bytes (l : Line) : Bytes := l.content ++ l.ending.bytes

/-- There is no other line end in the line, and the carriage return of its own one belongs to it. -/
structure Valid (l : Line) : Prop where
  noFeed : 0x0A ∉ l.content
  noReturn : l.ending = .feed → l.content.getLast? ≠ some 0x0D

/-- The lines with a byte in front that is no line feed. A carriage return in front of a line feed
belongs to the line end. -/
def prepend (b : UInt8) : List Line → Bytes → List Line × Bytes
  | [], last => ([], b :: last)
  | l :: ls, last =>
    (if b = 0x0D ∧ l = ⟨[], .feed⟩ then ⟨[], .returnFeed⟩ :: ls
      else ⟨b :: l.content, l.ending⟩ :: ls, last)

/-- The lines of a message, and what follows the last line end. -/
def cut : Bytes → List Line × Bytes
  | [] => ([], [])
  | b :: bs =>
    if b = 0x0A then (⟨[], .feed⟩ :: (cut bs).1, (cut bs).2)
    else prepend b (cut bs).1 (cut bs).2

/-- Putting a byte in front of the lines puts it in front of their bytes. -/
theorem bytes_prepend (b : UInt8) (ls : List Line) (last : Bytes) :
    (prepend b ls last).1.flatMap bytes ++ (prepend b ls last).2
      = b :: (ls.flatMap bytes ++ last) := by
  cases ls with
  | nil => rfl
  | cons l ls =>
    rw [prepend]
    split
    · rename_i h
      rw [h.1, h.2]
      rfl
    · rfl

/-- Cutting a message into lines loses nothing. -/
theorem bytes_cut (bs : Bytes) : (cut bs).1.flatMap bytes ++ (cut bs).2 = bs := by
  induction bs with
  | nil => rfl
  | cons b bs ih =>
    rw [cut]
    split
    · rename_i h
      rw [h]
      exact congrArg (0x0A :: ·) ih
    · rw [bytes_prepend, ih]

/-- A byte in front that is no line feed leaves the lines valid: no line feed gets into a line, and
no carriage return is left at the end of a line that ends in a line feed alone. -/
theorem valid_prepend {b : UInt8} (hb : b ≠ 0x0A) {ls : List Line} {last : Bytes}
    (hls : ∀ l ∈ ls, l.Valid) (hlast : 0x0A ∉ last) :
    (∀ l ∈ (prepend b ls last).1, l.Valid) ∧ 0x0A ∉ (prepend b ls last).2 := by
  cases ls with
  | nil =>
    refine ⟨hls, fun hmem => ?_⟩
    rcases List.mem_cons.mp hmem with h | h
    · exact hb h.symm
    · exact hlast h
  | cons l ls =>
    have hl := hls l List.mem_cons_self
    have hrest : ∀ l ∈ ls, l.Valid := fun l hl => hls l (List.mem_cons_of_mem _ hl)
    refine ⟨fun l' hl' => ?_, hlast⟩
    rw [prepend] at hl'
    dsimp only at hl'
    -- The byte makes a carriage return and line feed of an empty first line, or it is one more of
    -- the line.
    split at hl'
    · rcases List.mem_cons.mp hl' with rfl | hl'
      · exact ⟨List.not_mem_nil, nofun⟩
      · exact hrest l' hl'
    · rename_i hreturn
      rcases List.mem_cons.mp hl' with rfl | hl'
      · refine ⟨fun hmem => ?_, fun hfeed hlast => ?_⟩
        · rcases List.mem_cons.mp hmem with h | h
          · exact hb h.symm
          · exact hl.noFeed h
        · -- A carriage return at the end is the new byte, or it stood there before.
          obtain ⟨content, ending⟩ := l
          subst hfeed
          cases content with
          | nil => exact hreturn ⟨Option.some.inj hlast, rfl⟩
          | cons c content => exact hl.noReturn rfl (by simpa using hlast)
      · exact hrest l' hl'

/-- Cutting a message gives valid lines, and there is no line feed behind the last one. -/
theorem valid_cut (bs : Bytes) : (∀ l ∈ (cut bs).1, l.Valid) ∧ 0x0A ∉ (cut bs).2 := by
  induction bs with
  | nil => exact ⟨nofun, nofun⟩
  | cons b bs ih =>
    rw [cut]
    -- A line feed ends a line, which is empty so far. Any other byte is put in front of the first
    -- line.
    split
    · refine ⟨fun l hl => ?_, ih.2⟩
      rcases List.mem_cons.mp hl with rfl | hl
      · exact ⟨List.not_mem_nil, fun _ => nofun⟩
      · exact ih.1 l hl
    · rename_i hb
      exact valid_prepend hb ih.1 ih.2

end Line

/-! ### Layouts -/

/-- What follows the lines in front of the first empty one: the empty line and the rest of the
message, or, if no line is empty, what follows the last line end. -/
inductive Remainder
  | blank (ending : LineEnd) (rest : Bytes)
  | unended (last : Bytes)
  deriving DecidableEq, Repr

/-- A message as the lines in front of its first empty line, and what follows them. -/
structure Layout where
  lines : List Line
  remainder : Remainder
  deriving DecidableEq, Repr

namespace Remainder

/-- The bytes behind the lines. -/
def bytes : Remainder → Bytes
  | blank ending rest => ending.bytes ++ rest
  | unended last => last

/-- What follows the empty line; nothing if there is none. -/
def body : Remainder → Bytes
  | blank _ rest => rest
  | unended _ => []

/-- The line end of the empty line, if there is one. -/
def ending? : Remainder → Option LineEnd
  | blank ending _ => some ending
  | unended _ => none

/-- What follows the last line end is a line, unless it is empty. -/
def lastLine : Remainder → List Bytes
  | blank _ _ => []
  | unended last => if last = [] then [] else [last]

/-- Only an empty line has a line end that could be asked for. -/
theorem eq_blank_of_ending? {r : Remainder} {ending : LineEnd} (h : r.ending? = some ending) :
    ∃ rest, r = .blank ending rest := by
  cases r with
  | blank e rest =>
    obtain rfl : e = ending := Option.some.inj h
    exact ⟨rest, rfl⟩
  | unended last => cases h

end Remainder

namespace Layout

/-- The message with the layout. -/
def bytes (l : Layout) : Bytes := l.lines.flatMap Line.bytes ++ l.remainder.bytes

/-- The lines in front of the first empty one, without their line ends. -/
def contents (l : Layout) : List Bytes := l.lines.map Line.content ++ l.remainder.lastLine

/-- The first empty line ends in carriage return and line feed, and the line before it in a line
feed alone. -/
def Mixed (l : Layout) : Prop :=
  l.lines.getLast?.map Line.ending = some .feed ∧ l.remainder.ending? = some .returnFeed

instance (l : Layout) : Decidable l.Mixed := inferInstanceAs (Decidable (_ ∧ _))

/-- No line is empty, and line ends stand where they are said to. -/
structure Valid (l : Layout) : Prop where
  lines : ∀ k ∈ l.lines, k.Valid ∧ k.content ≠ []
  last : ∀ last, l.remainder = .unended last → 0x0A ∉ last

/-- The layout of a message. -/
def ofBytes (bs : Bytes) : Layout :=
  { lines := (Line.cut bs).1.takeWhile fun l => l.content ≠ []
    remainder :=
      match (Line.cut bs).1.dropWhile fun l => l.content ≠ [] with
      | [] => .unended (Line.cut bs).2
      | empty :: later => .blank empty.ending (later.flatMap Line.bytes ++ (Line.cut bs).2) }

/-- The layout of a message has all its bytes. -/
theorem bytes_ofBytes (bs : Bytes) : (ofBytes bs).bytes = bs := by
  have hsplit := List.takeWhile_append_dropWhile (p := fun l : Line => decide (l.content ≠ []))
    (l := (Line.cut bs).1)
  refine Eq.trans ?_ (Line.bytes_cut bs)
  rw [ofBytes, bytes]
  dsimp only
  cases hdrop : (Line.cut bs).1.dropWhile fun l => decide (l.content ≠ []) with
  | nil =>
    -- No line is empty.
    rw [hdrop, List.append_nil] at hsplit
    rw [hsplit]
    rfl
  | cons empty later =>
    rw [hdrop] at hsplit
    have hempty : empty.content = [] := by
      have h := List.head?_dropWhile_not (fun l : Line => decide (l.content ≠ [])) (Line.cut bs).1
      rw [hdrop] at h
      simpa using h
    conv => rhs; rw [← hsplit]
    rw [List.flatMap_append, List.flatMap_cons, Line.bytes, hempty]
    simp [Remainder.bytes]

/-- The layout of a message is valid: the lines that are taken are those up to the first empty
one. -/
theorem valid_ofBytes (bs : Bytes) : (ofBytes bs).Valid := by
  obtain ⟨hvalid, hlast⟩ := Line.valid_cut bs
  have hfilled : ∀ k ∈ (Line.cut bs).1.takeWhile fun l => decide (l.content ≠ []),
      k.Valid ∧ k.content ≠ [] := fun k hk =>
    ⟨hvalid k ((List.takeWhile_sublist _).subset hk),
      of_decide_eq_true (List.mem_takeWhile_imp (p := fun l : Line => decide (l.content ≠ [])) hk)⟩
  refine ⟨hfilled, fun last h => ?_⟩
  rw [ofBytes] at h
  dsimp only at h
  split at h
  · exact Remainder.unended.inj h ▸ hlast
  · cases h

end Layout

/-! ### The search for the end of the head -/

/-- An empty message has an empty head and an empty body. -/
@[simp]
theorem splitHead_nil : splitHead [] = ([], []) := rfl

/-- The head is the front of the message. -/
theorem splitHead_isFront (bs : Bytes) : (splitHead bs).1 <+: bs := List.take_prefix _ _

/-- The search for both sequences is one walk: it stops at the first byte where one of them
stands. -/
theorem splitHead_cons (b : UInt8) (bs : Bytes) :
    splitHead (b :: bs)
      = if blankAfterReturn.isPrefixOf (b :: bs) then ([], bs.drop 3)
        else if blankAfterFeed.isPrefixOf (b :: bs) then ([], bs.drop 1)
        else (b :: (splitHead bs).1, (splitHead bs).2) := by
  -- The two sequences begin with different bytes.
  have hboth : blankAfterReturn.isPrefixOf (b :: bs) → blankAfterFeed.isPrefixOf (b :: bs) →
      False := by
    intro h h'
    simp only [blankAfterReturn, blankAfterFeed, List.isPrefixOf_cons_cons, Bool.and_eq_true,
      beq_iff_eq] at h h'
    rw [← h.1] at h'
    exact absurd h'.1 (by decide)
  -- Each sequence stands at the first byte, or it is looked for further back, one byte closer.
  simp only [splitHead, splitOffsets, offsetOf?]
  by_cases hreturn : blankAfterReturn.isPrefixOf (b :: bs)
  · have hfeed : ¬ blankAfterFeed.isPrefixOf (b :: bs) := fun h => hboth hreturn h
    rw [if_pos hreturn, if_neg hfeed, if_pos hreturn]
    cases offsetOf? blankAfterFeed bs <;> simp
  · rw [if_neg hreturn, if_neg hreturn]
    by_cases hfeed : blankAfterFeed.isPrefixOf (b :: bs)
    · rw [if_pos hfeed, if_pos hfeed]
      cases offsetOf? blankAfterReturn bs <;> simp
    · rw [if_neg hfeed, if_neg hfeed]
      cases offsetOf? blankAfterReturn bs with
      | none => cases offsetOf? blankAfterFeed bs <;> simp
      | some a =>
        cases offsetOf? blankAfterFeed bs with
        | none => simp
        | some b =>
          by_cases hlt : b < a
          · simp [hlt]
          · simp [hlt]

/-- The walk passes bytes without a line feed. -/
theorem splitHead_append {xs ys : Bytes} (hfeed : 0x0A ∉ xs)
    (hreturn : xs.getLast? = some 0x0D → ys.head? ≠ some 0x0A) :
    splitHead (xs ++ ys) = (xs ++ (splitHead ys).1, (splitHead ys).2) := by
  -- Neither sequence begins inside of the bytes: the one for line feeds begins with one, and the
  -- other would have its line feed second.
  induction xs with
  | nil => rfl
  | cons b xs ih =>
    have hb : b ≠ 0x0A := fun h => hfeed (h ▸ List.mem_cons_self)
    have hxs : 0x0A ∉ xs := fun h => hfeed (List.mem_cons_of_mem b h)
    have hnotFeed : ¬ blankAfterFeed.isPrefixOf (b :: (xs ++ ys)) := by
      simp [blankAfterFeed, hb.symm]
    have hnotReturn : ¬ blankAfterReturn.isPrefixOf (b :: (xs ++ ys)) := by
      intro h
      simp only [blankAfterReturn, List.isPrefixOf_cons_cons, Bool.and_eq_true, beq_iff_eq] at h
      cases xs with
      | nil =>
        -- The next byte is the first one of `ys`.
        have hlast : [b].getLast? = some 0x0D := by rw [← h.1]; rfl
        cases ys with
        | nil => simp at h
        | cons y ys =>
          simp only [List.nil_append, List.isPrefixOf_cons_cons, Bool.and_eq_true,
            beq_iff_eq] at h
          exact hreturn hlast (by rw [← h.2.1]; rfl)
      | cons x xs =>
        simp only [List.cons_append, List.isPrefixOf_cons_cons, Bool.and_eq_true, beq_iff_eq] at h
        exact hxs (h.2.1 ▸ List.mem_cons_self)
    have ih := ih hxs fun h => hreturn (by
      cases xs with
      | nil => cases h
      | cons x xs => simpa using h)
    rw [List.cons_append, splitHead_cons, if_neg hnotReturn, if_neg hnotFeed, ih]
    rfl

/-- The walk passes a line feed in front of bytes that do not begin with one. -/
theorem splitHead_feed {ys : Bytes} (h : ys.head? ≠ some 0x0A) :
    splitHead (0x0A :: ys) = (0x0A :: (splitHead ys).1, (splitHead ys).2) := by
  have hfeed : ¬ blankAfterFeed.isPrefixOf (0x0A :: ys) := by
    cases ys with
    | nil => decide
    | cons y ys =>
      intro hfront
      simp [blankAfterFeed] at hfront
      exact h (by rw [← hfront]; rfl)
  rw [splitHead_cons, if_neg (by simp [blankAfterReturn]), if_neg hfeed]

/-- The walk passes a carriage return and line feed, unless the same two bytes follow, or another
line feed. -/
theorem splitHead_return {ys : Bytes} (h : ys.head? ≠ some 0x0A) (h' : ¬ [0x0D, 0x0A] <+: ys) :
    splitHead (0x0D :: 0x0A :: ys)
      = (0x0D :: 0x0A :: (splitHead ys).1, (splitHead ys).2) := by
  have hreturn : ¬ blankAfterReturn.isPrefixOf (0x0D :: 0x0A :: ys) := by
    intro hfront
    rw [List.isPrefixOf_iff_prefix, blankAfterReturn] at hfront
    exact h' (by simpa using hfront)
  rw [splitHead_cons, if_neg hreturn, if_neg (by simp [blankAfterFeed]), splitHead_feed h]

/-- Two line feeds in a row end the head, and none of them belongs to it. -/
theorem splitHead_blankAfterFeed (ys : Bytes) : splitHead (0x0A :: 0x0A :: ys) = ([], ys) := by
  rw [splitHead_cons, if_neg (by simp [blankAfterReturn]), if_pos (by simp [blankAfterFeed])]
  rfl

/-- A line end in carriage return and line feed, twice in a row, ends the head. -/
theorem splitHead_blankAfterReturn (ys : Bytes) :
    splitHead (0x0D :: 0x0A :: 0x0D :: 0x0A :: ys) = ([], ys) := by
  rw [splitHead_cons, if_pos (by simp [blankAfterReturn])]
  rfl

/-! ### The walk over lines -/

/-- The walk passes a line with something in it that no empty line follows. An empty line that ends
in carriage return and line feed may follow a line that ends in a line feed alone. -/
theorem splitHead_line {k : Line} (hk : k.Valid) {ys : Bytes} (h : ys.head? ≠ some 0x0A)
    (h' : k.ending = .returnFeed → ¬ [0x0D, 0x0A] <+: ys) :
    splitHead (k.bytes ++ ys) = (k.bytes ++ (splitHead ys).1, (splitHead ys).2) := by
  obtain ⟨content, ending⟩ := k
  rw [Line.bytes, List.append_assoc]
  -- The bytes of the line are passed first, then its line end.
  cases ending with
  | feed =>
    have hlast : content.getLast? ≠ some 0x0D := hk.noReturn rfl
    show splitHead (content ++ 0x0A :: ys) = _
    rw [splitHead_append hk.noFeed fun h => absurd h hlast, splitHead_feed h]
    simp [LineEnd.bytes]
  | returnFeed =>
    show splitHead (content ++ 0x0D :: 0x0A :: ys) = _
    rw [splitHead_append hk.noFeed (by simp), splitHead_return h (h' rfl)]
    simp [LineEnd.bytes]

/-- A line with something in it does not begin like an empty line. -/
theorem Line.Valid.not_blank {k : Line} (hk : k.Valid) (hne : k.content ≠ []) (ys : Bytes) :
    (k.bytes ++ ys).head? ≠ some 0x0A ∧ ¬ [0x0D, 0x0A] <+: k.bytes ++ ys := by
  obtain ⟨content, ending⟩ := k
  cases content with
  | nil => exact absurd rfl hne
  | cons b content =>
    have hb : b ≠ 0x0A := fun h => hk.noFeed (h ▸ List.mem_cons_self)
    refine ⟨fun h => hb (Option.some.inj h), fun hfront => ?_⟩
    rw [Line.bytes, List.append_assoc, List.cons_append, List.cons_prefix_cons] at hfront
    obtain ⟨rfl, hfront⟩ := hfront
    cases content with
    | nil =>
      -- The line is a carriage return alone, so its line end is not a line feed alone.
      cases ending with
      | feed => exact hk.noReturn rfl rfl
      | returnFeed => simp [LineEnd.bytes] at hfront
    | cons c content =>
      rw [List.cons_append, List.cons_prefix_cons] at hfront
      exact hk.noFeed (hfront.1 ▸ List.mem_cons_of_mem _ List.mem_cons_self)

/-- The walk passes lines that no empty line follows. -/
theorem splitHead_lines {ks : List Line} (hks : ∀ k ∈ ks, k.Valid ∧ k.content ≠ []) {ys : Bytes}
    (h : ys.head? ≠ some 0x0A)
    (h' : ∀ k ∈ ks.getLast?, k.ending = .returnFeed → ¬ [0x0D, 0x0A] <+: ys) :
    splitHead (ks.flatMap Line.bytes ++ ys)
      = (ks.flatMap Line.bytes ++ (splitHead ys).1, (splitHead ys).2) := by
  induction ks with
  | nil => rfl
  | cons k ks ih =>
    have hk := (hks k List.mem_cons_self).1
    have ih := ih fun k hk => hks k (List.mem_cons_of_mem _ hk)
    rw [List.flatMap_cons, List.append_assoc]
    cases ks with
    | nil =>
      rw [List.flatMap_nil, List.nil_append, List.append_nil]
      exact splitHead_line hk h (h' k rfl)
    | cons next ks =>
      -- There is something in the next line, so no empty line follows this one.
      have hnext := hks next (List.mem_cons_of_mem _ List.mem_cons_self)
      have hblank := hnext.1.not_blank hnext.2 (ks.flatMap Line.bytes ++ ys)
      rw [← List.append_assoc, ← List.flatMap_cons] at hblank
      rw [splitHead_line hk hblank.1 fun _ => hblank.2, ih h', List.append_assoc]

namespace Layout

variable {l : Layout}

/-- Without an empty line all is head. -/
theorem splitHead_unended (hl : l.Valid) {last : Bytes} (h : l.remainder = .unended last) :
    splitHead l.bytes = (l.bytes, []) := by
  have hlast : 0x0A ∉ last := hl.last last h
  have hhead : last.head? ≠ some 0x0A := fun h => hlast (List.mem_of_mem_head? h)
  have hfront : ¬ [0x0D, 0x0A] <+: last := fun h => hlast (h.subset (by simp))
  have hsplit : splitHead last = (last, []) := by
    have h : splitHead (last ++ []) = _ := splitHead_append hlast (by simp)
    simpa using h
  rw [bytes, h, Remainder.bytes, splitHead_lines hl.lines hhead fun _ _ _ => hfront, hsplit]

/-- In front of an empty line that the walk sees, the head is the lines without the last line
end. If the empty line is a line feed alone, a carriage return stays behind them. -/
theorem splitHead_blank {ks : List Line} {k : Line} {ending : LineEnd} {rest : Bytes}
    (hks : ∀ k' ∈ ks ++ [k], k'.Valid ∧ k'.content ≠ [])
    (h : k.ending = .feed → ending = .feed) :
    splitHead ((ks ++ [k]).flatMap Line.bytes ++ (ending.bytes ++ rest))
      = (ks.flatMap Line.bytes
          ++ (k.content ++ if k.ending = ending then [] else [0x0D]), rest) := by
  have hk := hks k (List.mem_append_right _ (List.mem_singleton.mpr rfl))
  have hblank := hk.1.not_blank hk.2 (ending.bytes ++ rest)
  rw [List.flatMap_append, List.append_assoc, List.flatMap_cons, List.flatMap_nil, List.append_nil,
    splitHead_lines (fun k hk => hks k (List.mem_append_left _ hk)) hblank.1
      fun _ _ _ => hblank.2]
  -- The lines before the last one are passed, so the last one and the empty line are all that
  -- matters.
  suffices hline : splitHead (k.bytes ++ (ending.bytes ++ rest))
      = (k.content ++ if k.ending = ending then [] else [0x0D], rest) by rw [hline]
  obtain ⟨content, kEnding⟩ := k
  have hfeed := hk.1.noFeed
  dsimp only at hfeed h ⊢
  rw [Line.bytes, List.append_assoc]
  cases kEnding with
  | feed =>
    obtain rfl := h rfl
    have hlast : content.getLast? ≠ some 0x0D := hk.1.noReturn rfl
    -- Two line feeds in a row are the second sequence.
    show splitHead (content ++ 0x0A :: 0x0A :: rest) = _
    rw [splitHead_append hfeed fun h => absurd h hlast, splitHead_blankAfterFeed, if_pos rfl]
  | returnFeed =>
    cases ending with
    | feed =>
      -- The walk sees only the two line feeds, and the carriage return is in front of them.
      show splitHead (content ++ 0x0D :: 0x0A :: 0x0A :: rest) = _
      rw [splitHead_append hfeed (by simp), splitHead_cons, if_neg (by simp [blankAfterReturn]),
        if_neg (by simp [blankAfterFeed]), splitHead_blankAfterFeed, if_neg (by decide)]
    | returnFeed =>
      -- All four bytes are the first sequence.
      show splitHead (content ++ 0x0D :: 0x0A :: 0x0D :: 0x0A :: rest) = _
      rw [splitHead_append hfeed (by simp), splitHead_blankAfterReturn, if_pos rfl]

/-- Unless a message is mixed, its head ends in front of the first empty line, and the body begins
behind it. -/
theorem splitHead_cases (hl : l.Valid) (hnot : ¬ l.Mixed) (hne : l.contents ≠ []) :
    (∃ last, l.remainder = .unended last ∧ splitHead l.bytes = (l.bytes, []))
      ∨ ∃ ks k ending rest, l.lines = ks ++ [k] ∧ l.remainder = .blank ending rest
        ∧ splitHead l.bytes = (ks.flatMap Line.bytes
          ++ (k.content ++ if k.ending = ending then [] else [0x0D]), rest) := by
  cases hremainder : l.remainder with
  | unended last => exact .inl ⟨last, rfl, splitHead_unended hl hremainder⟩
  | blank ending rest =>
    rcases List.eq_nil_or_concat' l.lines with hnil | ⟨ks, k, hks⟩
    · rw [contents, hnil, hremainder] at hne
      exact absurd rfl hne
    · refine .inr ⟨ks, k, ending, rest, hks, rfl, ?_⟩
      -- The message is not mixed, which rules out one of the four pairs of line ends.
      have hends : k.ending = .feed → ending = .feed := by
        intro hk
        cases ending with
        | feed => rfl
        | returnFeed =>
          refine absurd ⟨?_, by rw [hremainder]; rfl⟩ hnot
          rw [hks, List.getLast?_concat, Option.map_some, hk]
      rw [bytes, hremainder, hks, Remainder.bytes, splitHead_blank (hks ▸ hl.lines) hends]

/-- The body of a message that is not mixed is what follows its first empty line. -/
theorem splitHead_body (hl : l.Valid) (hnot : ¬ l.Mixed) (hne : l.contents ≠ []) :
    (splitHead l.bytes).2 = l.remainder.body := by
  rcases splitHead_cases hl hnot hne with
    ⟨last, hremainder, hsplit⟩ | ⟨ks, k, ending, rest, -, hremainder, hsplit⟩
  · rw [hsplit, hremainder]
    rfl
  · rw [hsplit, hremainder]
    rfl

/-- The walk passes an empty line in carriage return and line feed behind a line feed alone, as if
the message began there. The lines in front of it are in the head all the same. -/
theorem splitHead_mixed (hl : l.Valid) (h : l.Mixed) :
    splitHead l.bytes = (l.lines.flatMap Line.bytes ++ (splitHead l.remainder.bytes).1,
      (splitHead l.remainder.bytes).2) := by
  obtain ⟨hfeed, hending⟩ := h
  have hhead : l.remainder.bytes.head? ≠ some 0x0A := by
    obtain ⟨rest, hrest⟩ := Remainder.eq_blank_of_ending? hending
    rw [hrest]
    simp [Remainder.bytes, LineEnd.bytes]
  have hlast : ∀ k ∈ l.lines.getLast?, k.ending = .returnFeed →
      ¬ [0x0D, 0x0A] <+: l.remainder.bytes := by
    intro k hk hreturn
    rw [Option.mem_def.mp hk, Option.map_some, hreturn] at hfeed
    cases hfeed
  rw [bytes, splitHead_lines hl.lines hhead hlast]

end Layout

end HttpMux.Request
