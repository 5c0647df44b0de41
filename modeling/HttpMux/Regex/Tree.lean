import HttpMux.Regex.CharSet

/-!
# `HttpMux.Regex.Tree`: regular expressions in simplified form

The functions named `mk…` build expressions in the simplified form. Sequences and choices are flat
and have at least two members, neighbouring texts in a sequence are one text, a set of one
character is a text, a choice of characters is a set, and members that all branches of a choice
begin with stand in front of it.
-/

set_option autoImplicit false

namespace HttpMux.Regex

/-- A condition on a place between two characters. -/
inductive Look
  | textStart
  | textEnd
  | lineStart (crlf : Bool)
  | lineEnd (crlf : Bool)
  | wordEdge (unicode : Bool)
  | notWordEdge (unicode : Bool)
  | wordStart (unicode : Bool)
  | wordEnd (unicode : Bool)
  | wordStartHalf (unicode : Bool)
  | wordEndHalf (unicode : Bool)
  deriving DecidableEq, Repr

/-- A regular expression. Groups are numbered from one. -/
inductive Tree
  | empty
  | text (cs : List Char)
  | set (s : CharSet)
  | look (l : Look)
  | loop (min : Nat) (max : Option Nat) (greedy : Bool) (t : Tree)
  | group (index : Nat) (t : Tree)
  | seq (ts : List Tree)
  | choice (ts : List Tree)
  deriving BEq, Inhabited

namespace Tree

/-- The expression that matches one character of the set. -/
def mkSet (s : CharSet) : Tree :=
  match s.only? with
  | some c => .text [c]
  | none => .set s

mutual

/-- Whether an expression matches nothing but the empty text. -/
def isBlank : Tree → Bool
  | .empty => true
  | .text cs => cs.isEmpty
  | .set _ => false
  | .look _ => true
  | .loop _ max _ t => isBlank t || max == some 0
  | .group _ t => isBlank t
  | .seq ts => allBlank ts
  | .choice ts => allBlank ts

/-- Whether all expressions match nothing but the empty text. -/
def allBlank : List Tree → Bool
  | [] => true
  | t :: ts => isBlank t && allBlank ts

end

/-- The expression repeated. Of what matches only the empty text, one repetition is enough. -/
def mkLoop (min : Nat) (max : Option Nat) (greedy : Bool) (t : Tree) : Tree :=
  let (min, max) := if t.isBlank then (Nat.min min 1, some ((max.map (Nat.min 1)).getD 1))
    else (min, max)
  if min = 0 ∧ max = some 0 then .empty
  else if min = 1 ∧ max = some 1 then t
  else .loop min max greedy t

/-- Puts a member in front of a simplified sequence. -/
def prepend (t : Tree) (ts : List Tree) : List Tree :=
  match t, ts with
  | .empty, ts => ts
  | .text cs, .text ds :: ts => .text (cs ++ ds) :: ts
  | t, ts => t :: ts

/-- The members of a sequence; any other expression is its only member. -/
def members : Tree → List Tree
  | .seq ts => ts
  | t => [t]

/-- The sequence of the given expressions. -/
def mkSeq (ts : List Tree) : Tree :=
  match (ts.flatMap members).foldr prepend [] with
  | [] => .empty
  | [t] => t
  | ts => .seq ts

/-- The members of a choice; any other expression is its only member. -/
def branches : Tree → List Tree
  | .choice ts => ts
  | t => [t]

/-- The character of a text of one character. -/
def char? : Tree → Option Char
  | .text [c] => some c
  | _ => none

/-- The set of an expression that matches one character of a set. -/
def set? : Tree → Option CharSet
  | .set s => some s
  | _ => none

/-- The members of a sequence, which must be one. -/
def seq? : Tree → Option (List Tree)
  | .seq ts => some ts
  | _ => none

/-- The longest list that both lists begin with. -/
def commonStart : List Tree → List Tree → List Tree
  | x :: xs, y :: ys => if x == y then x :: commonStart xs ys else []
  | _, _ => []

/-- The choice of the given branches, of which there are fewer than `fuel`. Every step takes
members off the front of all branches. -/
def mkChoiceFrom : Nat → List Tree → Tree
  | 0, ts => .choice ts
  | fuel + 1, ts =>
    match ts.flatMap branches with
    | [] => .set CharSet.empty
    | [t] => t
    | ts =>
      match ts.mapM char? with
      | some cs => mkSet (CharSet.ofRanges (cs.map fun c => (c.toNat, c.toNat)))
      | none =>
        match ts.mapM set? with
        | some ss => mkSet (CharSet.ofRanges (ss.flatMap CharSet.ranges))
        | none =>
          match ts.mapM seq? with
          | some (xs :: xss) =>
            match xss.foldl commonStart xs with
            | [] => .choice ts
            | common =>
              let behind := (xs :: xss).map fun ys => mkSeq (ys.drop common.length)
              mkSeq (common ++ [mkChoiceFrom fuel behind])
          | _ => .choice ts

mutual

/-- The number of nodes of an expression. -/
def size : Tree → Nat
  | .loop _ _ _ t => size t + 1
  | .group _ t => size t + 1
  | .seq ts => sizes ts + 1
  | .choice ts => sizes ts + 1
  | _ => 1

/-- The number of nodes of all expressions. -/
def sizes : List Tree → Nat
  | [] => 0
  | t :: ts => size t + sizes ts

end

/-- The choice of the given expressions. -/
def mkChoice (ts : List Tree) : Tree := mkChoiceFrom (sizes ts + 1) ts

end Tree

end HttpMux.Regex
