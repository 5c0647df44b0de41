import HttpMux.Route.Engine
import HttpMux.Route.Table

/-!
# `HttpMux.Route.Router`: choosing the handler of a request

A router has a table of routes, the compiled form of the table once it has been needed, and a
handler for requests that no route takes. A change of the table discards the compiled form.

- `Router.add`: the router with a route added.
- `Router.compiled`: the router with its table compiled.
- `Router.dispatch`: the handler of a request, and the context that it gets.
-/

set_option autoImplicit false

namespace HttpMux

variable {A : App}

/-- A compiled table with the routes it was compiled from. -/
structure Machine (A : App) where
  program : Program
  routes : List (Route A)

namespace Machine

/-- The compiled form of a table. -/
def ofRoutes (routes : List (Route A)) : Machine A :=
  ⟨Program.ofTexts (routes.map Route.start), routes⟩

/-- The methods of a route that accepts a request. -/
def test (m : Machine A) (v : A.View) (r : Request) (c : Context) (index : Nat) :
    Option MethodSet :=
  match m.routes[index]? with
  | some route => if route.pattern.accepts v r c then some route.methods else none
  | none => none

/-- What the program finds for a request. -/
def search (m : Machine A) (v : A.View) (r : Request) (c : Context) : Search :=
  m.program.run (Bytes.ofText r.urlPath) r.method (m.test v r c)

/-- What is logged when a table has been compiled. -/
def compiledLine (m : Machine A) : LogLine :=
  ⟨.debug, "web: compiled " ++ toString m.routes.length ++ " routes into " ++
    toString m.program.length ++ " instructions"⟩

end Machine

/-- Where a request goes, with the context that its handler gets: to a route, whose pattern has
bound its parameters, or to the handler for the rest. -/
inductive Dispatch (A : App)
  | route (route : Route A) (c : Context)
  | rest (c : Context)

/-- A table of routes, its compiled form if it is known, and the handler for requests that no route
takes. -/
structure Router (A : App) where
  routes : List (Route A)
  machine : Option (Machine A)
  notFound : Endpoint A

namespace Router

/-- The router without routes. -/
def new : Router A := ⟨[], none, Endpoint.notFound⟩

/-- The router with a route added. -/
def add (rt : Router A) (r : Route A) : Router A :=
  { rt with routes := r.insert rt.routes, machine := none }

/-- The router with another handler for requests that no route takes. -/
def withNotFound (rt : Router A) (e : Endpoint A) : Router A := { rt with notFound := e }

/-- The router with its table compiled anew. -/
def compiled (rt : Router A) : Router A := { rt with machine := some (Machine.ofRoutes rt.routes) }

/-- The compiled form of the table: the one that is known, or a new one. -/
def ready (rt : Router A) : Machine A := rt.machine.getD (Machine.ofRoutes rt.routes)

/-- The router with a compiled form of its table. -/
def prepared (rt : Router A) : Router A := if rt.machine.isSome then rt else rt.compiled

/-- The context with the methods that would have been accepted; unchanged if there are none. -/
def withValidMethods (c : Context) (ms : MethodSet) : Context :=
  if ms.isEmpty then c
  else c.withValue Context.validMethodsKey (.array (ms.names.map .string))

/-- Where a request goes. -/
def dispatch (rt : Router A) (v : A.View) (c : Context) (r : Request) : Dispatch A :=
  let m := rt.ready
  let s := m.search v r c
  match s.found.bind fun i => m.routes[i]? with
  | some route => .route route (route.pattern.bind r c)
  | none => .rest (withValidMethods c s.methods)

/-- What is done with a request. -/
def script (rt : Router A) (v : A.View) (c : Context) (r : Request) : Script A Empty Empty Served :=
  match rt.dispatch v c r with
  | .route route c => route.endpoint.script c r
  | .rest c => rt.notFound.script c r

end Router

end HttpMux
