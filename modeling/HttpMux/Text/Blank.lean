import HttpMux.Unicode.WhiteSpace

/-!
# `HttpMux.Text.Blank`: white space, trimming and words

A character is blank if it has the Unicode property White_Space.

- `Text.trim`: drops blanks from both ends.
- `Text.words`: the longest runs without a blank, in order.
-/

set_option autoImplicit false

namespace HttpMux.Text

/-- Whether the character has the property White_Space. -/
def isBlank (c : Char) : Bool := Unicode.Ranges.mem c.toNat Unicode.whiteSpace

/-- Without the blanks at both ends. -/
def trimChars (cs : List Char) : List Char :=
  ((cs.dropWhile isBlank).reverse.dropWhile isBlank).reverse

/-- The text without the blanks at both ends. -/
def trim (s : String) : String := String.ofList (trimChars s.toList)

/-- The longest runs without a blank. -/
def wordsOf (cs : List Char) : List (List Char) :=
  (cs.splitOnP isBlank).filter (!·.isEmpty)

/-- The words of a text: its longest runs without a blank. -/
def words (s : String) : List String := (wordsOf s.toList).map String.ofList

end HttpMux.Text
