import HttpMux.Layers.Calls

/-!
# `HttpMux.Layers.Routing`: layers that work with the router

- `Layers.envInit`: changes nothing; a fixed outermost point of a stack.
- `Layers.subRouter`: routes on the part of the path that another mux has left over.
- `Layers.automaticOptions`: answers OPTIONS where there are routes for other methods.
-/

set_option autoImplicit false

namespace HttpMux.Layers

variable {A : App}

/-- Passes requests through. -/
def envInit : Middleware A := ⟨"env_init", .context forward⟩

/-- Replaces the URL path by the rest that a path prefix has left over, if there is one. -/
def subRouter : Middleware A :=
  ⟨"sub_router", .context fun c r =>
    match c.param? Context.restParam with
    | some rest => forward c (r.withUrlPath rest)
    | none => forward c r⟩

/-- The names of methods with OPTIONS among them. -/
def withOptions (names : List String) : List String :=
  if Method.options.name ∈ names then names else names ++ [Method.options.name]

/-- The response that lists methods. -/
def allowing (names : List String) (resp : Response) : Response :=
  (({ resp with status := .ok }.withoutHeader "Content-Type").withHeader "Allow"
    (String.intercalate ", " (withOptions names))).withBody []

/-- Answers OPTIONS requests that no route takes with the methods that routes would take. -/
def automaticOptions : Middleware A :=
  ⟨"automatic_options", .context fun c r => do
    let served ← forward c r
    match served.outcome with
    | .failure _ => return served
    | .response resp =>
      if r.method = .options ∧ resp.status = .notFound then
        match served.context.validMethods? with
        | some names => return { served with outcome := .response (allowing names resp) }
        | none => return served
      else return served⟩

end HttpMux.Layers
