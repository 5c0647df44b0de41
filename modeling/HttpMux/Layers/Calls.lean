import HttpMux.Handler

/-!
# `HttpMux.Layers.Calls`: steps that layers have in common
-/

set_option autoImplicit false

namespace HttpMux.Layers

variable {A : App}

/-- Hands a context and a request inwards. -/
def forward (c : Context) (r : Request) : Script A (Context × Request) Served Served :=
  Script.call (c, r)

/-- The environment key of the ID of a request. -/
def requestIdKey : String := "reqID"

/-- What stands in front of a log line about a request: its ID in brackets, if it has one. -/
def logTag (c : Context) : String :=
  match c.text? requestIdKey with
  | some id => "[" ++ id ++ "] "
  | none => ""

end HttpMux.Layers
