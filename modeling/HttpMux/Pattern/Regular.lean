import HttpMux.Dict
import HttpMux.Regex.Basic
import HttpMux.Regex.LeadingText
import HttpMux.Text.Quoted

/-!
# `HttpMux.Pattern.Regular`: path patterns given by regular expressions

Only matches at the start of the path count. A named group binds its name, and group number `i`
without a name binds `$i`.

- `Regular.ofSource?`: a pattern read from its source; it knows the text its matches begin with.
- `Regular.ofRegex`: a pattern of a ready expression. Its flags may not show in its source, so
  nothing is known about the start of its matches.
-/

set_option autoImplicit false

namespace HttpMux

/-- A pattern given by a regular expression, with the text that every matching path begins with. -/
structure Regular where
  regex : Regex
  literalStart : String

namespace Regular

/-- The pattern of a ready expression. -/
def ofRegex (r : Regex) : Regular := ⟨r, ""⟩

/-- The pattern that a text spells, with the given properties; nothing if the text is no regular
expression. -/
def ofSource? (source : String) (properties : Regex.Properties := Regex.Properties.unknown) :
    Option Regular :=
  (Regex.ofSource? Regex.Flags.initial source properties).map fun r => ⟨r, r.tree.leadingText⟩

/-- The names that the groups bind, in order. -/
def names (p : Regular) : List String :=
  p.regex.groups.zipIdx.map fun (name, i) => name.getD ("$" ++ toString (i + 1))

/-- Whether a path matches. -/
def accepts (p : Regular) (path : String) : Bool := p.regex.matchesStart path

/-- The parameters that a path binds. -/
def match? (p : Regular) (path : String) : Option (Dict String) :=
  (p.regex.captures? path).map fun captured => Dict.ofList (p.names.zip captured)

/-- How a pattern is shown. -/
def text (p : Regular) : String := "RegexPattern(" ++ Text.quoted p.regex.source ++ ")"

end Regular

end HttpMux
