/-!
# `HttpMux.Text.Split`: cutting a text at a character

- `Text.splitFirst?`: cuts at the first occurrence, if there is one.
- `Text.pieces`: cuts at every occurrence.
- `Text.lines`: the lines of a text, each without its line end.
-/

set_option autoImplicit false

namespace HttpMux.Text

/-- The characters before and after the first `x`. -/
def splitFirstChars? (x : Char) : List Char → Option (List Char × List Char)
  | [] => none
  | c :: cs =>
    if c = x then some ([], cs)
    else (splitFirstChars? x cs).map fun (before, after) => (c :: before, after)

/-- The texts before and after the first `x`, or nothing if there is no `x`. -/
def splitFirst? (x : Char) (s : String) : Option (String × String) :=
  (splitFirstChars? x s.toList).map fun (before, after) =>
    (String.ofList before, String.ofList after)

/-- The pieces between the occurrences of `x`; one piece more than there are occurrences. -/
def pieces (x : Char) (s : String) : List String :=
  (s.toList.splitOn x).map String.ofList

/-- Without one carriage return at its end. -/
def dropReturn (cs : List Char) : List Char :=
  if cs.getLast? = some '\r' then cs.dropLast else cs

/-- Every line feed ends a line; what follows the last one is a line unless it is empty. -/
def lineChars (cs : List Char) : List (List Char) :=
  match (cs.splitOn '\n').reverse with
  | [] => []
  | last :: before =>
    let ended := before.reverse.map dropReturn
    if last.isEmpty then ended else ended ++ [last]

/-- The lines of a text, without line feeds, and without the carriage return before one. -/
def lines (s : String) : List String := (lineChars s.toList).map String.ofList

/-- The text after `start`, if it begins with it. -/
def dropStart? (start s : String) : Option String :=
  (start.toList.isPrefixOf? s.toList).map String.ofList

/-- Whether the text begins with `start`. -/
def hasStart (start s : String) : Bool := start.toList.isPrefixOf s.toList

end HttpMux.Text
