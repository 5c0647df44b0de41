import HttpMux.Unicode.Printable

/-!
# `HttpMux.Text.Quoted`: texts in double quotes

Messages and listings show a text between double quotes. The quote and the backslash get a
backslash. Tab, line feed, carriage return and NUL have short forms. A character that is invisible
or attaches to its neighbour is written by its number.
-/

set_option autoImplicit false

namespace HttpMux.Text

/-- The number of a character in lower-case hexadecimal, as it is written in a quoted text. -/
def numbered (c : Char) : List Char :=
  ['\\', 'u', '\x7b'] ++ Nat.toDigits 16 c.toNat ++ ['\x7d']

/-- How one character is written inside quotes. -/
def quotedChar (c : Char) : List Char :=
  if c = '"' then ['\\', '"']
  else if c = '\\' then ['\\', '\\']
  else if c = '\t' then ['\\', 't']
  else if c = '\r' then ['\\', 'r']
  else if c = '\n' then ['\\', 'n']
  else if c = '\x00' then ['\\', '0']
  else if Unicode.isPlain c then [c]
  else numbered c

/-- The text in double quotes. -/
def quoted (s : String) : String :=
  String.ofList ('"' :: (s.toList.flatMap quotedChar ++ ['"']))

/-- The texts quoted, with separators, in square brackets. -/
def quotedList (ss : List String) : String :=
  "[" ++ String.intercalate ", " (ss.map quoted) ++ "]"

/-- The texts quoted, with separators, in braces. -/
def quotedSet (ss : List String) : String :=
  "\x7b" ++ String.intercalate ", " (ss.map quoted) ++ "\x7d"

end HttpMux.Text
