import HttpMux.Proofs.Text.Encoding
import HttpMux.Regex.LeadingText

/-!
# `HttpMux.Proofs.Regex.LeadingText`: every match begins with the leading text

What an expression matches is said by rules, one or two for each form of expression. They tell
nothing of preference, and they leave it open where conditions hold.

An expression that is read from a source matches texts. The rules and the walk are the same for
expressions on bytes, whose literals need not be whole characters and whose sets may be of bytes. An
expression on characters is one of them.

* `ByteTree` and `ByteTree.walk`: expressions on bytes, and the walk over them.
* `ByteTree.Matches`: the rules.
* `ByteTree.Matches.isPrefix`: every match begins with what the walk collects.
* `Tree.walk_bytes`: for an expression on characters it is the walk that is known.
-/

set_option autoImplicit false

namespace HttpMux.Regex

/-- The only member of a set of one character is each of its members. -/
theorem CharSet.eq_of_only?_of_mem {s : CharSet} {c d : Char} (h : s.only? = some d)
    (hc : s.mem c) : c = d := by
  rw [only?] at h
  split at h
  · rename_i lo hi hranges
    split at h
    · rename_i heq
      subst heq
      cases h
      -- There is one range, and it begins where it ends.
      obtain ⟨r, hr, hlo, hhi⟩ := Unicode.Ranges.mem_iff.mp hc
      rw [hranges, List.mem_singleton] at hr
      subst hr
      have hc : lo = c.toNat := Nat.le_antisymm hlo hhi
      rw [hc, Char.ofNat_toNat]
    · cases h
  · cases h

/-! ### Sets of bytes -/

/-- A set of bytes as ranges, both ends included. -/
structure ByteSet where
  ranges : List (UInt8 × UInt8)

namespace ByteSet

/-- Whether a byte belongs to the set. -/
def mem (s : ByteSet) (b : UInt8) : Bool := s.ranges.any fun (lo, hi) => lo ≤ b && b ≤ hi

/-- The only member of a set of one ASCII character. -/
def only? (s : ByteSet) : Option Char :=
  match s.ranges with
  | [(lo, hi)] => if lo = hi ∧ lo < 0x80 then some (Char.ofNat lo.toNat) else none
  | _ => none

/-- The only member is encoded as each member of the set. -/
theorem encoded_of_only?_of_mem {s : ByteSet} {b : UInt8} {d : Char} (h : s.only? = some d)
    (hb : s.mem b) : String.utf8EncodeChar d = [b] := by
  rw [only?] at h
  split at h
  · rename_i lo hi hranges
    split at h
    · rename_i heq
      obtain ⟨rfl, hascii⟩ := heq
      cases h
      rw [mem, hranges] at hb
      simp only [List.any_cons, List.any_nil, Bool.or_false, Bool.and_eq_true,
        decide_eq_true_eq] at hb
      have hb : lo = b := UInt8.le_antisymm hb.1 hb.2
      subst hb
      exact Bytes.encoded_ofNat (UInt8.lt_iff_toNat_lt.mp hascii)
    · cases h
  · cases h

end ByteSet

/-! ### Expressions on bytes -/

/-- A regular expression on bytes. Texts need not be encoded characters, and there are sets of
characters and sets of bytes. -/
inductive ByteTree
  | empty
  | text (bs : Bytes)
  | chars (s : CharSet)
  | bytes (s : ByteSet)
  | look (l : Look)
  | loop (min : Nat) (max : Option Nat) (greedy : Bool) (t : ByteTree)
  | group (index : Nat) (t : ByteTree)
  | seq (ts : List ByteTree)
  | choice (ts : List ByteTree)

namespace ByteTree

mutual

/-- Walks over an expression. A text that encodes no characters ends the walk, and so does a set of
bytes that is not one ASCII character. -/
def walk (atStart : Bool) : ByteTree → Tree.Walk
  | .empty => ⟨[], true, atStart⟩
  | .look _ => ⟨[], atStart, atStart⟩
  | .text bs =>
    match Bytes.text? bs with
    | some s => ⟨s.toList, true, false⟩
    | none => ⟨[], false, atStart⟩
  | .chars s =>
    match s.only? with
    | some c => ⟨[c], true, false⟩
    | none => ⟨[], false, atStart⟩
  | .bytes s =>
    match s.only? with
    | some c => ⟨[c], true, false⟩
    | none => ⟨[], false, atStart⟩
  | .seq ts => walkAll atStart ts
  | .loop .. => ⟨[], false, atStart⟩
  | .group .. => ⟨[], false, atStart⟩
  | .choice _ => ⟨[], false, atStart⟩

/-- Walks over expressions in sequence, as long as it may go on. -/
def walkAll (atStart : Bool) : List ByteTree → Tree.Walk
  | [] => ⟨[], true, atStart⟩
  | t :: ts =>
    let w := walk atStart t
    if w.goesOn then
      let v := walkAll w.atStart ts
      ⟨w.collected ++ v.collected, v.goesOn, v.atStart⟩
    else w

end

/-- The text that every match begins with, as far as it shows at the front of the expression. -/
def leadingText (t : ByteTree) : String := String.ofList (t.walk true).collected

/-- What an expression matches between the bytes before and those behind. `holds` says where
conditions hold. -/
inductive Matches (holds : Look → Bytes → Bytes → Prop) : ByteTree → Bytes → Bytes → Bytes → Prop
  | empty {before behind : Bytes} : Matches holds .empty before [] behind
  | text {bs before behind : Bytes} : Matches holds (.text bs) before bs behind
  | chars {s : CharSet} {c : Char} {before behind : Bytes} (h : s.mem c) :
      Matches holds (.chars s) before (String.utf8EncodeChar c) behind
  | bytes {s : ByteSet} {b : UInt8} {before behind : Bytes} (h : s.mem b) :
      Matches holds (.bytes s) before [b] behind
  | look {l : Look} {before behind : Bytes} (h : holds l before behind) :
      Matches holds (.look l) before [] behind
  | loopExit {min : Nat} {max : Option Nat} {greedy : Bool} {t : ByteTree} {before behind : Bytes}
      (h : min = 0 ∨ max = some 0) : Matches holds (.loop min max greedy t) before [] behind
  | loopRound {min : Nat} {max : Option Nat} {greedy : Bool} {t : ByteTree}
      {before round rest behind : Bytes} (h : max ≠ some 0)
      (hround : Matches holds t before round (rest ++ behind))
      (hrest : Matches holds (.loop (min - 1) (max.map (· - 1)) greedy t) (before ++ round) rest
        behind) : Matches holds (.loop min max greedy t) before (round ++ rest) behind
  | group {index : Nat} {t : ByteTree} {before matched behind : Bytes}
      (h : Matches holds t before matched behind) :
      Matches holds (.group index t) before matched behind
  | seqNil {before behind : Bytes} : Matches holds (.seq []) before [] behind
  | seqCons {t : ByteTree} {ts : List ByteTree} {before first rest behind : Bytes}
      (hfirst : Matches holds t before first (rest ++ behind))
      (hrest : Matches holds (.seq ts) (before ++ first) rest behind) :
      Matches holds (.seq (t :: ts)) before (first ++ rest) behind
  | choice {t : ByteTree} {ts : List ByteTree} {before matched behind : Bytes} (ht : t ∈ ts)
      (h : Matches holds t before matched behind) : Matches holds (.choice ts) before matched behind

/-! ### The walk and the rules -/

/-- The bytes begin with what the walk has collected, and they are no more than that if it may go
on. -/
structure Covers (w : Tree.Walk) (matched : Bytes) : Prop where
  isPrefix : Bytes.ofChars w.collected <+: matched
  whole : w.goesOn → Bytes.ofChars w.collected = matched

/-- A walk that has collected all that was matched covers it. -/
theorem covers_of_eq {cs : List Char} {matched : Bytes} (h : Bytes.ofChars cs = matched)
    (goesOn atStart : Bool) : Covers ⟨cs, goesOn, atStart⟩ matched :=
  ⟨h ▸ List.prefix_refl _, fun _ => h⟩

/-- Where the walk ends without a character, nothing is claimed. -/
theorem covers_end (atStart : Bool) (matched : Bytes) : Covers ⟨[], false, atStart⟩ matched :=
  ⟨List.nil_prefix, nofun⟩

variable {holds : Look → Bytes → Bytes → Prop} {t : ByteTree} {before matched behind : Bytes}

/-- Whatever an expression matches, a walk over it covers it, wherever the walk comes from. -/
theorem Matches.covers (h : Matches holds t before matched behind) (atStart : Bool) :
    Covers (t.walk atStart) matched := by
  -- The induction is on the match, with one case for each rule.
  induction h generalizing atStart with
  | empty => exact covers_of_eq rfl _ _
  | look => exact covers_of_eq rfl _ _
  | @text bs =>
    rw [walk]
    split
    · rename_i s hs
      refine covers_of_eq ?_ _ _
      rw [← Bytes.ofText_eq, Bytes.ofText_of_text? hs]
    · exact covers_end _ _
  | @chars s c _ _ hc =>
    rw [walk]
    split
    · rename_i d hd
      rw [CharSet.eq_of_only?_of_mem hd hc]
      exact covers_of_eq (List.append_nil _) _ _
    · exact covers_end _ _
  | @bytes s b _ _ hb =>
    rw [walk]
    split
    · rename_i d hd
      rw [← ByteSet.encoded_of_only?_of_mem hd hb]
      exact covers_of_eq (List.append_nil _) _ _
    · exact covers_end _ _
  -- Loops, groups and choices end the walk.
  | loopExit => exact covers_end _ _
  | loopRound => exact covers_end _ _
  | group => exact covers_end _ _
  | choice => exact covers_end _ _
  | seqNil => exact covers_of_eq rfl _ _
  | @seqCons t ts _ first rest _ _ _ ihfirst ihrest =>
    have hfirst := ihfirst atStart
    rw [walk, walkAll]
    cases hgoes : (t.walk atStart).goesOn with
    | false =>
      -- The walk has ended inside the first member.
      simp only [Bool.false_eq_true, if_false]
      exact ⟨hfirst.isPrefix.trans (List.prefix_append _ _), fun h => by rw [hgoes] at h; cases h⟩
    | true =>
      simp only [if_true]
      have hrest := ihrest (t.walk atStart).atStart
      rw [walk] at hrest
      refine ⟨?_, fun h => ?_⟩
      · rw [Bytes.ofChars_append, hfirst.whole hgoes]
        exact (List.prefix_append_right_inj first).mpr hrest.isPrefix
      · rw [Bytes.ofChars_append, hfirst.whole hgoes, hrest.whole h]

/-- Every match begins with the leading text. -/
theorem Matches.isPrefix (h : Matches holds t before matched behind) :
    Bytes.ofText t.leadingText <+: matched := by
  rw [leadingText, Bytes.ofText_ofList]
  exact (h.covers true).isPrefix

end ByteTree

/-! ### Expressions on characters -/

namespace Tree

mutual

/-- The expression on the bytes of the encoded characters. -/
def bytes : Tree → ByteTree
  | .empty => .empty
  | .text cs => .text (Bytes.ofChars cs)
  | .set s => .chars s
  | .look l => .look l
  | .loop min max greedy t => .loop min max greedy (bytes t)
  | .group index t => .group index (bytes t)
  | .seq ts => .seq (bytesAll ts)
  | .choice ts => .choice (bytesAll ts)

/-- The same for a list of expressions. -/
def bytesAll : List Tree → List ByteTree
  | [] => []
  | t :: ts => bytes t :: bytesAll ts

end

/-- The expressions of a list are translated one by one. -/
theorem bytesAll_eq_map (ts : List Tree) : bytesAll ts = ts.map bytes := by
  induction ts with
  | nil => rfl
  | cons t ts ih => rw [bytesAll, ih, List.map_cons]

mutual

/-- Walking over the characters is walking over their bytes. -/
theorem walk_bytes (atStart : Bool) (t : Tree) : t.bytes.walk atStart = t.walk atStart := by
  match t with
  | .text cs =>
    rw [bytes, ByteTree.walk, walk, ← Bytes.ofText_ofList, Bytes.text?_ofText]
    simp only [String.toList_ofList]
  | .seq ts => rw [bytes, ByteTree.walk, walk, walkAll_bytesAll]
  | .empty => rfl
  | .set _ => rfl
  | .look _ => rfl
  | .loop .. => rfl
  | .group .. => rfl
  | .choice _ => rfl

/-- The same for expressions in sequence. -/
theorem walkAll_bytesAll (atStart : Bool) (ts : List Tree) :
    ByteTree.walkAll atStart (bytesAll ts) = walkAll atStart ts := by
  match ts with
  | [] => rfl
  | t :: ts =>
    rw [bytesAll, ByteTree.walkAll, walkAll, walk_bytes]
    simp only [walkAll_bytesAll]

end

/-- The leading text is the same on characters and on bytes. -/
theorem leadingText_bytes (t : Tree) : t.bytes.leadingText = t.leadingText := by
  rw [ByteTree.leadingText, leadingText, walk_bytes]

end Tree

end HttpMux.Regex
