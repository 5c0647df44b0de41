import HttpMux.Dict

/-!
# `HttpMux.Json.Basic`: JSON values

Integers that fit into 64 bits, signed or unsigned, stay integers. Every other number is a 64-bit
float. The fields of an object are a dictionary, so their order does not matter and a key occurs
once.
-/

set_option autoImplicit false

namespace HttpMux

/-- A JSON value. -/
inductive Json
  | null
  | bool (b : Bool)
  | int (n : Int)
  | float (x : Float)
  | string (s : String)
  | array (items : List Json)
  | object (fields : Dict Json)
  deriving BEq, Inhabited

namespace Json

/-- The text of a string value. -/
def string? : Json → Option String
  | .string s => some s
  | _ => none

/-- The items of an array. -/
def array? : Json → Option (List Json)
  | .array items => some items
  | _ => none

/-- The fields of an object. -/
def object? : Json → Option (Dict Json)
  | .object fields => some fields
  | _ => none

/-- The object with the given fields; a later field replaces an earlier one of the same name. -/
def ofFields (fields : List (String × Json)) : Json := .object (Dict.ofList fields)

/-- An object of texts. -/
def ofTexts (d : Dict String) : Json := .object (d.map fun _ s => .string s)

/-- The text, or null. -/
def ofText? : Option String → Json
  | some s => .string s
  | none => .null

end Json

end HttpMux
