/-!
# `HttpMux.Json.Error`: why a text is no JSON value

An error has a reason and a position. Lines count from one; the column is the number of bytes read
in the line when the error was noticed.
-/

set_option autoImplicit false

namespace HttpMux.Json

/-- What is wrong with a text. -/
inductive Reason
  | endInList
  | endInObject
  | endInString
  | endInValue
  | expectedColon
  | expectedListCommaOrEnd
  | expectedObjectCommaOrEnd
  | expectedIdent
  | expectedValue
  | invalidEscape
  | invalidNumber
  | numberOutOfRange
  | invalidCodePoint
  | controlCharacter
  | keyNotString
  | loneSurrogate
  | trailingComma
  | trailingCharacters
  | truncatedEscape
  | tooDeep
  deriving DecidableEq, Repr

/-- The wording of a reason. -/
def Reason.text : Reason → String
  | .endInList => "EOF while parsing a list"
  | .endInObject => "EOF while parsing an object"
  | .endInString => "EOF while parsing a string"
  | .endInValue => "EOF while parsing a value"
  | .expectedColon => "expected `:`"
  | .expectedListCommaOrEnd => "expected `,` or `]`"
  | .expectedObjectCommaOrEnd => "expected `,` or `\x7d`"
  | .expectedIdent => "expected ident"
  | .expectedValue => "expected value"
  | .invalidEscape => "invalid escape"
  | .invalidNumber => "invalid number"
  | .numberOutOfRange => "number out of range"
  | .invalidCodePoint => "invalid unicode code point"
  | .controlCharacter => "control character (\\u0000-\\u001F) found while parsing a string"
  | .keyNotString => "key must be a string"
  | .loneSurrogate => "lone leading surrogate in hex escape"
  | .trailingComma => "trailing comma"
  | .trailingCharacters => "trailing characters"
  | .truncatedEscape => "unexpected end of hex escape"
  | .tooDeep => "recursion limit exceeded"

/-- A reason with the place where it was noticed. -/
structure Error where
  reason : Reason
  line : Nat
  column : Nat
  deriving DecidableEq, Repr

/-- The wording of an error. -/
def Error.message (e : Error) : String :=
  e.reason.text ++ " at line " ++ toString e.line ++ " column " ++ toString e.column

end HttpMux.Json
