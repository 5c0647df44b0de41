import HttpMux.Regex.Tree

/-!
# `HttpMux.Regex.LeadingText`: the text that every match begins with

The text is collected from the front of an expression. Conditions are passed over only in front of
the first character, and groups, loops and choices end the walk.
-/

set_option autoImplicit false

namespace HttpMux.Regex.Tree

/-- How far a walk over an expression came: the characters collected, whether it may go on, and
whether it is still in front of the first character. -/
structure Walk where
  collected : List Char
  goesOn : Bool
  atStart : Bool
  deriving DecidableEq, Repr

mutual

/-- Walks over an expression. -/
def walk (atStart : Bool) : Tree → Walk
  | .empty => ⟨[], true, atStart⟩
  | .look _ => ⟨[], atStart, atStart⟩
  | .text cs => ⟨cs, true, false⟩
  | .set s =>
    match s.only? with
    | some c => ⟨[c], true, false⟩
    | none => ⟨[], false, atStart⟩
  | .seq ts => walkAll atStart ts
  | .loop .. => ⟨[], false, atStart⟩
  | .group .. => ⟨[], false, atStart⟩
  | .choice _ => ⟨[], false, atStart⟩

/-- Walks over expressions in sequence, as long as it may go on. -/
def walkAll (atStart : Bool) : List Tree → Walk
  | [] => ⟨[], true, atStart⟩
  | t :: ts =>
    let w := walk atStart t
    if w.goesOn then
      let v := walkAll w.atStart ts
      ⟨w.collected ++ v.collected, v.goesOn, v.atStart⟩
    else w

end

/-- The text that every match begins with, as far as it shows at the front of the expression. -/
def leadingText (t : Tree) : String := String.ofList (t.walk true).collected

end HttpMux.Regex.Tree
