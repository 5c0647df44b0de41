import HttpMux.Script

/-!
# `HttpMux.Handler`: handlers and layers

A handler answers requests. It either works on the context of the request or sees the request
alone. A layer surrounds a handler and is of either kind too.
-/

set_option autoImplicit false

namespace HttpMux

variable {A : App}

/-- What a handler does with a context and a request. -/
abbrev ContextHandler (A : App) := Context → Request → Script A Empty Empty Served

/-- What a handler does that sees the request alone. -/
abbrev PlainHandler (A : App) := Request → Script A Empty Empty Outcome

/-- A handler of either kind. -/
inductive Endpoint (A : App)
  | context (h : ContextHandler A)
  | plain (h : PlainHandler A)

namespace Endpoint

/-- What the handler does. One that sees the request alone leaves the context as it is. -/
def script (e : Endpoint A) (c : Context) (r : Request) : Script A Empty Empty Served :=
  match e with
  | context h => h c r
  | plain h => do return ⟨c, ← h r⟩

/-- How a handler is shown. -/
def text : Endpoint A → String
  | context _ => "Endpoint::Context"
  | plain _ => "Endpoint::Plain"

/-- The handler that answers every request alike. -/
def constant (r : Response) : Endpoint A := plain fun _ => return .response r

/-- The handler for requests that no route takes. -/
def notFound : Endpoint A :=
  constant (((Response.new .notFound).withContentType "text/plain; charset=utf-8").withText
    "404 page not found\n")

/-- The handler that serves requests on a mux, with their context. -/
def mounted (mux : MuxId) : Endpoint A :=
  context fun c r => Script.question (.serve mux c r)

/-- The handler that serves requests on a mux, with an empty context of their own. -/
def mountedPlain (mux : MuxId) : Endpoint A :=
  plain fun r => do return (← Script.question (.serve mux Context.empty r)).outcome

end Endpoint

/-! ### Layers -/

/-- What a layer does that works on the context. -/
abbrev ContextLayer (A : App) := Context → Request → Script A (Context × Request) Served Served

/-- What a layer does that sees the request alone. -/
abbrev PlainLayer (A : App) := Request → Script A Request Outcome Outcome

/-- A layer of either kind. -/
inductive Layer (A : App)
  | context (f : ContextLayer A)
  | plain (f : PlainLayer A)

/-- A layer with the name under which it is found in a stack. -/
structure Middleware (A : App) where
  name : String
  layer : Layer A

namespace Middleware

/-- The kind of a layer. -/
def kind (m : Middleware A) : String :=
  match m.layer with
  | .context _ => "context"
  | .plain _ => "plain"

end Middleware

end HttpMux
