import HttpMux.Regex.Matcher
import HttpMux.Regex.Reader

/-!
# `HttpMux.Regex.Basic`: regular expressions with their source

- `Regex.ofSource?`: the expression that a text spells under given flags.
- `Regex.captures?`: what the groups capture in the preferred match at the start of a text.
-/

set_option autoImplicit false

namespace HttpMux

/-- A regular expression: the text it was read from, the simplified form, and the names of its
groups in order. -/
structure Regex where
  source : String
  tree : Regex.Tree
  groups : List (Option String)

namespace Regex

/-- The expression that a text spells under the given flags, with the given properties. -/
def ofSource? (flags : Flags) (source : String) (properties : Properties := Properties.unknown) :
    Option Regex :=
  (parse? properties flags source).map fun (tree, groups) => ⟨source, tree, groups⟩

/-- What the groups capture, in order, in the preferred match at the start of a text. A group that
took no part captures the empty text. -/
def captures? (r : Regex) (s : String) : Option (List String) :=
  let cs := s.toList
  (r.tree.borders? cs).map fun b =>
    (List.range r.groups.length).map fun i => (groupText? cs b (i + 1)).getD ""

/-- Whether there is a match at the start of a text. -/
def matchesStart (r : Regex) (s : String) : Bool := (r.tree.borders? s.toList).isSome

end Regex

end HttpMux
