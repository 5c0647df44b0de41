import HttpMux.Decimal.Shortest
import HttpMux.Json.Basic

/-!
# `HttpMux.Json.Printer`: JSON values as text

The text has no spaces, and the fields of an object come in ascending order of their names.
Strings escape the quote, the backslash and the controls below U+0020; the rest is raw.

A float has the fewest digits that read back. It is positional while its point is at most sixteen
places from its first digit, or at most four zeros stand behind the point; otherwise it has an
exponent. A positional float always shows a fractional part.
-/

set_option autoImplicit false

namespace HttpMux.Json

/-- How a character is written inside a JSON string. -/
def escapedChar (c : Char) : List Char :=
  if c = '"' then ['\\', '"']
  else if c = '\\' then ['\\', '\\']
  else if c = '\x08' then ['\\', 'b']
  else if c = '\x0c' then ['\\', 'f']
  else if c = '\n' then ['\\', 'n']
  else if c = '\r' then ['\\', 'r']
  else if c = '\t' then ['\\', 't']
  else if c.toNat < 0x20 then
    ['\\', 'u', '0', '0', Nat.digitChar (c.toNat / 16), Nat.digitChar (c.toNat % 16)]
  else [c]

/-- A text as a JSON string. -/
def renderString (s : String) : String :=
  String.ofList ('"' :: (s.toList.flatMap escapedChar ++ ['"']))

/-- A positive decimal, by the place of its point. -/
def renderScaled (d : Decimal.Scaled) : String :=
  let ds := Nat.toDigits 10 d.digits
  let point := Int.ofNat ds.length + d.exponent
  if 0 ≤ d.exponent ∧ point ≤ 16 then
    String.ofList (ds ++ List.replicate d.exponent.toNat '0' ++ ['.', '0'])
  else if 0 < point ∧ point ≤ 16 then
    String.ofList (ds.take point.toNat ++ '.' :: ds.drop point.toNat)
  else if -5 < point ∧ point ≤ 0 then
    String.ofList (['0', '.'] ++ List.replicate (-point).toNat '0' ++ ds)
  else
    let mantissa := match ds with
      | [d] => [d]
      | d :: rest => d :: '.' :: rest
      | [] => []
    String.ofList mantissa ++ "e" ++ toString (point - 1)

/-- The text of a float; what is not finite has none of its own and is null. -/
def renderFloat (x : Float) : String :=
  let bits := x.toBits.toNat
  let sign := if Nat.pow 2 63 ≤ bits then "-" else ""
  let magnitude := bits % Nat.pow 2 63
  if 0x7FF * Nat.pow 2 52 ≤ magnitude then "null"
  else if magnitude = 0 then sign ++ "0.0"
  else sign ++ renderScaled (Decimal.Binary.ofBits magnitude).shortest

mutual

/-- The text of a value. -/
def render : Json → String
  | .null => "null"
  | .bool b => if b then "true" else "false"
  | .int n => toString n
  | .float x => renderFloat x
  | .string s => renderString s
  | .array items => "[" ++ renderItems items ++ "]"
  | .object ⟨fields⟩ => "\x7b" ++ renderFields fields ++ "\x7d"

/-- The items of an array, with commas between them. -/
def renderItems : List Json → String
  | [] => ""
  | [v] => render v
  | v :: vs => render v ++ "," ++ renderItems vs

/-- The fields of an object, with commas between them. -/
def renderFields : List (String × Json) → String
  | [] => ""
  | [(k, v)] => renderString k ++ ":" ++ render v
  | (k, v) :: fs => renderString k ++ ":" ++ render v ++ "," ++ renderFields fs

end

end HttpMux.Json
