import HttpMux.Regex.Tree

/-!
# `HttpMux.Regex.Matcher`: matching from the start of a text

All ways to match are followed at once, one character at a time. A thread is one way: the frames
still to be matched and the group borders seen so far. Threads stand in order of preference. Two
threads with the same frames have the same future, so of these only the first is kept, and a loop
cannot go round without a character in between.

The result is the match that is preferred: an earlier branch before a later one, and in a loop
another round before the exit, or the other way round if the loop is lazy.

- `Tree.borders?`: the group borders of the preferred match.
-/

set_option autoImplicit false

namespace HttpMux.Regex

/-- Something still to be matched: an expression, the end of a round of an open loop, or the end of
a group. -/
inductive Frame
  | tree (t : Tree)
  | again (greedy : Bool) (t : Tree)
  | close (index : Nat)
  deriving BEq

/-- The borders of groups: group `i` starts at border `2 * i` and ends at border `2 * i + 1`. The
latest entry of a border counts. -/
abbrev Borders := List (Nat × Nat)

/-- One way to match. -/
structure Thread where
  frames : List Frame
  borders : Borders

/-- The place between two characters where the threads stand: its offset and its neighbours. -/
structure Place where
  offset : Nat
  before : Option Char
  after : Option Char

/-! ### Conditions -/

/-- Whether a neighbour belongs to a word. -/
def isWordSide (unicode : Bool) : Option Char → Bool
  | none => false
  | some c => if unicode then CharSet.words.mem c else CharSet.asciiWords.mem c

/-- Whether a condition holds at a place. -/
def Look.holds (l : Look) (p : Place) : Bool :=
  match l with
  | .textStart => p.before.isNone
  | .textEnd => p.after.isNone
  | .lineStart false => p.before.isNone || p.before = some '\n'
  | .lineEnd false => p.after.isNone || p.after = some '\n'
  | .lineStart true =>
    p.before.isNone || p.before = some '\n' || (p.before = some '\r' && p.after ≠ some '\n')
  | .lineEnd true =>
    p.after.isNone || p.after = some '\r' || (p.after = some '\n' && p.before ≠ some '\r')
  | .wordEdge u => isWordSide u p.before != isWordSide u p.after
  | .notWordEdge u => isWordSide u p.before == isWordSide u p.after
  | .wordStart u => !isWordSide u p.before && isWordSide u p.after
  | .wordEnd u => isWordSide u p.before && !isWordSide u p.after
  | .wordStartHalf u => !isWordSide u p.before
  | .wordEndHalf u => !isWordSide u p.after

/-! ### Threads at one place -/

/-- The alternatives of the first frame that take no character, in order of preference. Nothing if
the frame needs a character. -/
def Frame.unfold (p : Place) : Frame → Option (List (List Frame × Borders))
  | .tree .empty => some [([], [])]
  | .tree (.text cs) => if cs.isEmpty then some [([], [])] else none
  | .tree (.set _) => none
  | .tree (.look l) => some (if l.holds p then [([], [])] else [])
  | .tree (.group i t) => some [([.tree t, .close i], [(2 * i, p.offset)])]
  | .tree (.seq ts) => some [(ts.map .tree, [])]
  | .tree (.choice ts) => some (ts.map fun t => ([.tree t], []))
  | .tree (.loop min none greedy t) =>
    let round : List Frame × Borders :=
      if min ≤ 1 then ([.tree t, .again greedy t], [])
      else ([.tree t, .tree (.loop (min - 1) none greedy t)], [])
    some (if 0 < min then [round] else if greedy then [round, ([], [])] else [([], []), round])
  | .tree (.loop min (some max) greedy t) =>
    let round : List Frame × Borders :=
      ([.tree t, .tree (.loop (min - 1) (some (max - 1)) greedy t)], [])
    some
      (if max = 0 then [([], [])]
      else if 0 < min then [round]
      else if greedy then [round, ([], [])]
      else [([], []), round])
  | .again greedy t =>
    let round : List Frame × Borders := ([.tree t, .again greedy t], [])
    some (if greedy then [round, ([], [])] else [([], []), round])
  | .close i => some [([], [(2 * i + 1, p.offset)])]

/-- What has been found at one place: the frames met so far, and the threads that need a character
or are done, the last one first. -/
structure Found where
  met : List (List Frame)
  waiting : List Thread

/-- Follows a thread at one place as long as it takes no character. `fuel` bounds the number of
steps in one direction. -/
def Thread.follow (p : Place) : Nat → Found → Thread → Found
  | 0, found, _ => found
  | fuel + 1, found, th =>
    if found.met.contains th.frames then found
    else
      let found := { found with met := th.frames :: found.met }
      match th.frames with
      | [] => { found with waiting := th :: found.waiting }
      | f :: fs =>
        match f.unfold p with
        | none => { found with waiting := th :: found.waiting }
        | some alternatives =>
          alternatives.foldl
            (fun found a => follow p fuel found ⟨a.1 ++ fs, a.2 ++ th.borders⟩) found

/-- The threads at a place that need a character or are done, in order of preference. -/
def settle (fuel : Nat) (p : Place) (threads : List Thread) : List Thread :=
  (threads.foldl (Thread.follow p fuel) ⟨[], []⟩).waiting.reverse

/-! ### From place to place -/

/-- The thread after the character `c`, if it can take it. -/
def Thread.take (c : Char) (th : Thread) : Option Thread :=
  match th.frames with
  | .tree (.text (x :: xs)) :: fs =>
    if x = c then some ⟨if xs.isEmpty then fs else .tree (.text xs) :: fs, th.borders⟩ else none
  | .tree (.set s) :: fs => if s.mem c then some ⟨fs, th.borders⟩ else none
  | _ => none

/-- Runs threads over a text. `best` holds the borders of the preferred match so far; a thread that
is done makes all behind it worthless. -/
def run (fuel : Nat) (offset : Nat) (before : Option Char) (threads : List Thread)
    (best : Option Borders) : List Char → Option Borders
  | [] =>
    let ready := settle fuel ⟨offset, before, none⟩ threads
    match ready.find? (·.frames.isEmpty) with
    | some th => some th.borders
    | none => best
  | c :: cs =>
    if threads.isEmpty then best
    else
      let ready := settle fuel ⟨offset, before, some c⟩ threads
      let best := match ready.find? (·.frames.isEmpty) with
        | some th => some th.borders
        | none => best
      let next := (ready.takeWhile (!·.frames.isEmpty)).filterMap (Thread.take c)
      run fuel (offset + 1) (some c) next best cs

mutual

/-- A bound on the number of different frame lists that an expression can lead to at one place. -/
def Tree.states : Tree → Nat
  | .empty => 1
  | .text _ => 1
  | .set _ => 1
  | .look _ => 1
  | .loop min max _ t => (states t + 2) * (max.getD min + 2)
  | .group _ t => states t + 2
  | .seq ts => statesOfAll ts + 1
  | .choice ts => statesOfAll ts + 1

/-- The same bound for a list of expressions. -/
def Tree.statesOfAll : List Tree → Nat
  | [] => 1
  | t :: ts => states t + statesOfAll ts

end

/-- The group borders of the preferred match that starts where the text starts. -/
def Tree.borders? (t : Tree) (cs : List Char) : Option Borders :=
  run (t.states + 2) 0 none [⟨[.tree t], []⟩] none cs

/-- The part of a text that a group captured; nothing if the group took no part in the match. -/
def groupText? (cs : List Char) (b : Borders) (i : Nat) : Option String :=
  match b.lookup (2 * i), b.lookup (2 * i + 1) with
  | some start, some stop => some (String.ofList ((cs.drop start).take (stop - start)))
  | _, _ => none

end HttpMux.Regex
