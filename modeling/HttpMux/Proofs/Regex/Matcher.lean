import HttpMux.Proofs.Regex.LeadingText
import HttpMux.Regex.Basic

/-!
# `HttpMux.Proofs.Regex.Matcher`: what the matcher finds is a match by the rules

A thread of the matcher holds what is still to be matched. Frames stand for the sequence of their
expressions, where an open loop is a loop that may end at any time.

* `Look.HoldsBetween`: where conditions hold in a text.
* `Frame.matches_of_unfold` and `Thread.framesMatch_of_take`: what a thread becomes matches no more
  than what it was.
* `Leads`: the invariant of a thread. Whatever its frames match from its place on completes a match
  of the whole expression.
* `Tree.matches_of_borders?`: a text with a match at its start has a match by the rules.
-/

set_option autoImplicit false

namespace HttpMux.Regex

open ByteTree (Matches)

/-- The condition holds at a place of a text, between the bytes before and those behind. -/
def Look.HoldsBetween (l : Look) (before behind : Bytes) : Prop :=
  ∃ cs ds, before = Bytes.ofChars cs ∧ behind = Bytes.ofChars ds
    ∧ l.holds ⟨cs.length, cs.getLast?, ds.head?⟩

/-! ### Sequences -/

section

variable {holds : Look → Bytes → Bytes → Prop} {t u : ByteTree} {before matched behind : Bytes}

/-- A sequence of two parts matches what the parts match one after the other. -/
theorem ByteTree.matches_seq_append {ts us : List ByteTree} :
    Matches holds (.seq (ts ++ us)) before matched behind
      ↔ ∃ first rest, matched = first ++ rest
          ∧ Matches holds (.seq ts) before first (rest ++ behind)
          ∧ Matches holds (.seq us) (before ++ first) rest behind := by
  -- Member by member, what has been matched moves to the front.
  induction ts generalizing before matched with
  | nil =>
    constructor
    · intro h
      exact ⟨[], matched, rfl, .seqNil, by rwa [List.append_nil]⟩
    · rintro ⟨first, rest, rfl, hnil, h⟩
      cases hnil
      rwa [List.append_nil] at h
  | cons t ts ih =>
    constructor
    · intro h
      cases h with
      | seqCons hfirst hrest =>
        obtain ⟨middle, rest, rfl, hmiddle, hrest⟩ := ih.mp hrest
        rw [List.append_assoc] at hfirst hrest
        exact ⟨_, rest, (List.append_assoc ..).symm, .seqCons hfirst hmiddle, hrest⟩
    · rintro ⟨_, rest, rfl, hts, hus⟩
      cases hts with
      | seqCons hfirst hmiddle =>
        rw [← List.append_assoc] at hus
        rw [← List.append_assoc] at hfirst
        rw [List.append_assoc]
        exact .seqCons hfirst (ih.mpr ⟨_, rest, rfl, hmiddle, hus⟩)

/-- A sequence of one member matches what the member matches. -/
theorem ByteTree.matches_of_seq_singleton (h : Matches holds (.seq [t]) before matched behind) :
    Matches holds t before matched behind := by
  cases h with
  | seqCons hfirst hnil =>
    cases hnil
    rwa [List.append_nil]

/-- A sequence of two members matches what they match one after the other. -/
theorem ByteTree.matches_of_seq_pair (h : Matches holds (.seq [t, u]) before matched behind) :
    ∃ first rest, matched = first ++ rest ∧ Matches holds t before first (rest ++ behind)
      ∧ Matches holds u (before ++ first) rest behind := by
  cases h with
  | seqCons hfirst hrest => exact ⟨_, _, rfl, hfirst, matches_of_seq_singleton hrest⟩

end

/-! ### Frames -/

/-- The expression that a frame stands for. -/
def Frame.bytes : Frame → ByteTree
  | .tree t => t.bytes
  | .again greedy t => .loop 0 none greedy t.bytes
  | .close _ => .empty

/-- What a list of frames matches at a place of a text. -/
def FramesMatch (fs : List Frame) (before matched behind : Bytes) : Prop :=
  Matches Look.HoldsBetween (.seq (fs.map Frame.bytes)) before matched behind

variable {before matched behind : Bytes}

/-- Lists of frames match one after the other. -/
theorem framesMatch_append {fs gs : List Frame} :
    FramesMatch (fs ++ gs) before matched behind
      ↔ ∃ first rest, matched = first ++ rest ∧ FramesMatch fs before first (rest ++ behind)
          ∧ FramesMatch gs (before ++ first) rest behind := by
  rw [FramesMatch, List.map_append]
  exact ByteTree.matches_seq_append

/-- Where no frame is left, nothing is matched. -/
theorem eq_nil_of_framesMatch_nil (h : FramesMatch [] before matched behind) : matched = [] := by
  cases h
  rfl

/-- No frames match the empty text everywhere. -/
theorem framesMatch_nil : FramesMatch [] before [] behind := .seqNil

/-- A loop may be entered for one more round. -/
theorem matches_loop_of_round {min : Nat} {max : Option Nat} {greedy : Bool} {t : Tree} {g : Frame}
    (hmax : max ≠ some 0) (hg : g.bytes = .loop (min - 1) (max.map (· - 1)) greedy t.bytes)
    (h : FramesMatch [.tree t, g] before matched behind) :
    Matches Look.HoldsBetween (.loop min max greedy t.bytes) before matched behind := by
  obtain ⟨round, rest, rfl, hround, hrest⟩ := ByteTree.matches_of_seq_pair h
  rw [hg] at hrest
  exact .loopRound hmax hround hrest

/-- A loop ends if it may. -/
theorem matches_loop_of_exit {min : Nat} {max : Option Nat} {greedy : Bool} {t : Tree}
    (hexit : min = 0 ∨ max = some 0) (h : FramesMatch [] before matched behind) :
    Matches Look.HoldsBetween (.loop min max greedy t.bytes) before matched behind := by
  rw [eq_nil_of_framesMatch_nil h]
  exact .loopExit hexit

/-- The alternatives of a loop are another round and, if there have been enough, the exit. -/
theorem round_or_exit {α : Type} {min : Nat} {greedy : Bool} {round exit a : α}
    (ha : a ∈ if 0 < min then [round] else if greedy then [round, exit] else [exit, round]) :
    a = round ∨ min = 0 ∧ a = exit := by
  split at ha
  · exact .inl (List.mem_singleton.mp ha)
  · rename_i hmin
    have hmin : min = 0 := Nat.eq_zero_of_not_pos hmin
    split at ha <;> rcases List.mem_pair.mp ha with rfl | rfl <;> simp [hmin]

variable {seen rest : List Char}

/-- What a frame becomes without a character matches only what the frame matches. -/
theorem Frame.matches_of_unfold {f : Frame} {alternatives : List (List Frame × Borders)}
    (hf : f.unfold ⟨seen.length, seen.getLast?, rest.head?⟩ = some alternatives)
    {a : List Frame × Borders} (ha : a ∈ alternatives)
    (hrest : matched ++ behind = Bytes.ofChars rest)
    (h : FramesMatch a.1 (Bytes.ofChars seen) matched behind) :
    Matches Look.HoldsBetween f.bytes (Bytes.ofChars seen) matched behind := by
  -- One case for each form of expression, which is the rule of that form.
  match f with
  | .tree .empty =>
    cases hf
    rw [List.mem_singleton.mp ha] at h
    rw [eq_nil_of_framesMatch_nil h]
    exact .empty
  | .tree (.text cs) =>
    rw [unfold] at hf
    split at hf
    · rename_i hcs
      cases hf
      rw [List.mem_singleton.mp ha] at h
      rw [eq_nil_of_framesMatch_nil h, List.isEmpty_iff.mp hcs]
      exact .text
    · cases hf
  | .tree (.set _) => cases hf
  | .tree (.look l) =>
    cases hf
    split at ha
    · rename_i hholds
      rw [List.mem_singleton.mp ha] at h
      rw [eq_nil_of_framesMatch_nil h] at hrest ⊢
      exact .look ⟨seen, rest, rfl, hrest, hholds⟩
    · cases ha
  | .tree (.group i t) =>
    cases hf
    rw [List.mem_singleton.mp ha] at h
    obtain ⟨first, rest, rfl, hfirst, hclose⟩ := ByteTree.matches_of_seq_pair h
    cases hclose
    rw [List.append_nil]
    exact .group hfirst
  | .tree (.seq ts) =>
    cases hf
    rw [List.mem_singleton.mp ha] at h
    rw [FramesMatch, List.map_map] at h
    rw [bytes, Tree.bytes, Tree.bytesAll_eq_map]
    exact h
  | .tree (.choice ts) =>
    cases hf
    obtain ⟨t, ht, rfl⟩ := List.mem_map.mp ha
    rw [bytes, Tree.bytes, Tree.bytesAll_eq_map]
    exact .choice (List.mem_map_of_mem ht) (ByteTree.matches_of_seq_singleton h)
  -- A loop becomes its body with the rest of the loop behind it, or it ends.
  | .tree (.loop min none greedy t) =>
    cases hf
    rcases round_or_exit ha with rfl | ⟨hmin, rfl⟩
    · split at h
      · rename_i hmin
        refine matches_loop_of_round nofun ?_ h
        rw [bytes, Option.map_none, Nat.sub_eq_zero_of_le hmin]
      · exact matches_loop_of_round nofun rfl h
    · exact matches_loop_of_exit (.inl hmin) h
  | .tree (.loop min (some max) greedy t) =>
    cases hf
    split at ha
    · rename_i hmax
      rw [List.mem_singleton.mp ha] at h
      exact matches_loop_of_exit (.inr (congrArg some hmax)) h
    · rename_i hmax
      rcases round_or_exit ha with rfl | ⟨hmin, rfl⟩
      · exact matches_loop_of_round (fun heq => hmax (Option.some.inj heq)) rfl h
      · exact matches_loop_of_exit (.inl hmin) h
  | .again greedy t =>
    cases hf
    rcases @round_or_exit _ 0 _ _ _ _ ha with rfl | ⟨hmin, rfl⟩
    · exact matches_loop_of_round nofun rfl h
    · exact matches_loop_of_exit (.inl rfl) h
  | .close _ =>
    cases hf
    rw [List.mem_singleton.mp ha] at h
    rw [eq_nil_of_framesMatch_nil h]
    exact .empty

/-- What a thread becomes by a character matches only what the thread matches behind it. -/
theorem Thread.framesMatch_of_take {c : Char} {th th' : Thread} (hc : th.take c = some th')
    (h : FramesMatch th'.frames (before ++ String.utf8EncodeChar c) matched behind) :
    FramesMatch th.frames before (String.utf8EncodeChar c ++ matched) behind := by
  obtain ⟨frames, borders⟩ := th
  match frames with
  | .tree (.text (x :: xs)) :: fs =>
    change (if x = c then _ else none) = some th' at hc
    split at hc
    · rename_i hx
      cases hc
      subst hx
      cases xs with
      | nil =>
        have hchar : Bytes.ofChars [x] = String.utf8EncodeChar x := List.append_nil _
        rw [← hchar] at h ⊢
        exact .seqCons .text h
      | cons y ys =>
        -- The rest of the text has been matched too, so the whole of it is.
        cases h with
        | seqCons htext hrest =>
          cases htext
          rw [List.append_assoc] at hrest
          rw [← List.append_assoc]
          exact .seqCons .text hrest
    · cases hc
  | .tree (.set s) :: fs =>
    change (if s.mem c then _ else none) = some th' at hc
    split at hc
    · rename_i hmem
      cases hc
      exact .seqCons (.chars hmem) h
    · cases hc

/-! ### Threads -/

/-- The invariant of a thread with the given frames, behind the characters that have been seen:
whatever the frames match there completes a match of the whole expression. -/
def Leads (goal : ByteTree) (seen rest : List Char) (fs : List Frame) : Prop :=
  ∀ matched behind, matched ++ behind = Bytes.ofChars rest →
    FramesMatch fs (Bytes.ofChars seen) matched behind →
    Matches Look.HoldsBetween goal [] (Bytes.ofChars seen ++ matched) behind

namespace Leads

variable {goal : ByteTree} {fs : List Frame}

/-- A thread that is done has found a match. -/
theorem matches_of_nil (h : Leads goal seen rest []) :
    Matches Look.HoldsBetween goal [] (Bytes.ofChars seen) (Bytes.ofChars rest) := by
  have hdone := h [] (Bytes.ofChars rest) rfl framesMatch_nil
  rwa [List.append_nil] at hdone

/-- What takes no character keeps the invariant. -/
theorem unfold {f : Frame} {alternatives : List (List Frame × Borders)}
    (h : Leads goal seen rest (f :: fs))
    (hf : f.unfold ⟨seen.length, seen.getLast?, rest.head?⟩ = some alternatives) :
    ∀ a ∈ alternatives, Leads goal seen rest (a.1 ++ fs) := by
  intro a ha matched behind hrest hmatch
  obtain ⟨first, others, rfl, hfirst, hothers⟩ := framesMatch_append.mp hmatch
  refine h _ behind hrest (.seqCons ?_ hothers)
  exact Frame.matches_of_unfold hf ha (by rwa [← List.append_assoc]) hfirst

/-- Taking a character keeps the invariant. -/
theorem take {c : Char} {th th' : Thread} (h : Leads goal seen (c :: rest) th.frames)
    (hc : th.take c = some th') : Leads goal (seen ++ [c]) rest th'.frames := by
  intro matched behind hrest hmatch
  have hchar : Bytes.ofChars (seen ++ [c]) = Bytes.ofChars seen ++ String.utf8EncodeChar c := by
    rw [Bytes.ofChars_append, Bytes.ofChars_cons, Bytes.ofChars_nil, List.append_nil]
  rw [hchar] at hmatch ⊢
  rw [List.append_assoc]
  refine h _ behind ?_ (Thread.framesMatch_of_take hc hmatch)
  rw [List.append_assoc, hrest, Bytes.ofChars_cons]

end Leads

variable {goal : ByteTree}

/-- Following a thread at one place keeps the invariant. -/
theorem leads_follow (fuel : Nat) {found : Found} {th : Thread}
    (hfound : ∀ x ∈ found.waiting, Leads goal seen rest x.frames)
    (hth : Leads goal seen rest th.frames) :
    ∀ x ∈ (th.follow ⟨seen.length, seen.getLast?, rest.head?⟩ fuel found).waiting,
      Leads goal seen rest x.frames := by
  have hcons : ∀ x ∈ th :: found.waiting, Leads goal seen rest x.frames := by
    intro x hx
    rcases List.mem_cons.mp hx with rfl | hx
    · exact hth
    · exact hfound x hx
  -- Following spends fuel at each step, and what it leaves out only makes the list shorter.
  induction fuel generalizing found th with
  | zero => exact hfound
  | succ fuel ih =>
    rw [Thread.follow]
    split
    · exact hfound
    · simp only
      split
      · exact hcons
      · rename_i f fs hframes
        split
        · exact hcons
        · rename_i alternatives hunfold
          rw [hframes] at hth
          have halt := hth.unfold hunfold
          -- The alternatives are followed one after the other, on the same list of waiting threads.
          refine List.foldlRecOn
            (motive := fun found : Found => ∀ x ∈ found.waiting, Leads goal seen rest x.frames)
            alternatives _ hfound fun found hfound a ha => ?_
          refine ih hfound (halt a ha) fun x hx => ?_
          rcases List.mem_cons.mp hx with rfl | hx
          · exact halt a ha
          · exact hfound x hx

/-- The threads at one place keep the invariant. -/
theorem leads_settle (fuel : Nat) {threads : List Thread}
    (h : ∀ x ∈ threads, Leads goal seen rest x.frames) :
    ∀ x ∈ settle fuel ⟨seen.length, seen.getLast?, rest.head?⟩ threads,
      Leads goal seen rest x.frames := by
  intro x hx
  rw [settle, List.mem_reverse] at hx
  refine List.foldlRecOn
    (motive := fun found : Found => ∀ x ∈ found.waiting, Leads goal seen rest x.frames)
    threads _ (by simp) (fun found hfound th hth => ?_) x hx
  exact leads_follow fuel hfound (h th hth)

/-! ### Runs -/

/-- The expression matches some front part of the text. -/
def MatchesFront (goal : ByteTree) (cs : List Char) : Prop :=
  ∃ front behind, cs = front ++ behind
    ∧ Matches Look.HoldsBetween goal [] (Bytes.ofChars front) (Bytes.ofChars behind)

/-- A thread that is done has found a match. -/
theorem matchesFront_of_find? {threads : List Thread}
    (h : ∀ x ∈ threads, Leads goal seen rest x.frames) {th : Thread}
    (hth : threads.find? (·.frames.isEmpty) = some th) : MatchesFront goal (seen ++ rest) := by
  have hleads := h th (List.mem_of_find?_eq_some hth)
  have hnil : th.frames = [] := by simpa using List.find?_some hth
  rw [hnil] at hleads
  exact ⟨seen, rest, rfl, hleads.matches_of_nil⟩

/-- A run that finds a match has found one by the rules. -/
theorem matchesFront_of_run {fuel offset : Nat} {before : Option Char} {threads : List Thread}
    {best : Option Borders} {cs : List Char} (hoffset : offset = seen.length)
    (hbefore : before = seen.getLast?) (hthreads : ∀ x ∈ threads, Leads goal seen cs x.frames)
    (hbest : best.isSome → MatchesFront goal (seen ++ cs))
    (h : (run fuel offset before threads best cs).isSome) : MatchesFront goal (seen ++ cs) := by
  -- The induction is on the characters that are left. Those that have been seen grow at each step.
  induction cs generalizing offset before threads best seen with
  | nil =>
    subst hoffset hbefore
    rw [run] at h
    have hready := leads_settle fuel hthreads
    split at h
    · exact matchesFront_of_find? hready ‹_›
    · exact hbest h
  | cons c cs ih =>
    subst hoffset hbefore
    rw [run] at h
    split at h
    · exact hbest h
    · have hready := leads_settle fuel hthreads
      simp only at h
      rw [List.append_cons]
      refine ih (by simp) (by simp) (fun x hx => ?_) (fun hsome => ?_) h
      · -- A thread that goes on has taken `c`, so `c` has been seen.
        obtain ⟨th, hth, htake⟩ := List.mem_filterMap.mp hx
        exact (hready th ((List.takeWhile_sublist _).subset hth)).take htake
      · rw [← List.append_cons]
        split at hsome
        · exact matchesFront_of_find? hready ‹_›
        · exact hbest hsome

/-- A text with a match at its start has one by the rules. -/
theorem Tree.matches_of_borders? {t : Tree} {cs : List Char} (h : (t.borders? cs).isSome) :
    MatchesFront t.bytes cs := by
  show MatchesFront t.bytes ([] ++ cs)
  refine matchesFront_of_run rfl rfl (fun x hx => ?_) (by simp) h
  rw [List.mem_singleton.mp hx]
  intro matched behind _ hmatch
  exact ByteTree.matches_of_seq_singleton hmatch

end HttpMux.Regex
