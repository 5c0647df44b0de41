import HttpMux.Dict
import HttpMux.Json.Basic

/-!
# `HttpMux.Context`: what is known about the request being served

The pattern of the chosen route writes URL parameters, and layers hand values to each other and to
the handler through the environment.
-/

set_option autoImplicit false

namespace HttpMux

/-- URL parameters and environment values of one request. -/
structure Context where
  params : Dict String
  env : Dict Json
  deriving BEq

namespace Context

/-- The context of a request that nothing is known about. -/
def empty : Context := ⟨Dict.empty, Dict.empty⟩

instance : Inhabited Context := ⟨empty⟩

/-- Where the router leaves the methods that would have been accepted. -/
def validMethodsKey : String := "web.validMethods"

/-- The parameter that holds the rest of the path behind a path prefix. -/
def restParam : String := "*"

/-- Whether nothing has been written. -/
def isEmpty (c : Context) : Bool := c.params.isEmpty && c.env.isEmpty

/-- The URL parameter of the given name. -/
def param? (c : Context) (name : String) : Option String := c.params.get? name

/-- The environment value under the given key. -/
def value? (c : Context) (key : String) : Option Json := c.env.get? key

/-- The environment value under the given key, if it is a text. -/
def text? (c : Context) (key : String) : Option String := (c.value? key).bind Json.string?

/-- The context with an environment value set. -/
def withValue (c : Context) (key : String) (v : Json) : Context :=
  { c with env := c.env.insert key v }

/-- The context with URL parameters added; they win over those of the same name. -/
def withParams (c : Context) (params : Dict String) : Context :=
  { c with params := c.params.extend params }

/-- The names of the methods that the router left, if it left any. -/
def validMethods? (c : Context) : Option (List String) :=
  ((c.value? validMethodsKey).bind Json.array?).map fun items => items.filterMap Json.string?

end Context

end HttpMux
