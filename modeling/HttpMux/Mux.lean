import HttpMux.Route.Router
import HttpMux.Stack

/-!
# `HttpMux.Mux`: a router inside a stack of layers

- `PatternSource.resolve`: the pattern of a route, or what is wrong with its text.
- `Mux.add`: the mux with a route added.
-/

set_option autoImplicit false

namespace HttpMux

/-- A router inside a stack of layers. -/
structure Mux (A : App) where
  stack : Stack A
  router : Router A

/-- How many idle chains a mux keeps unless told otherwise. -/
def defaultCapacity : Nat := 32

/-- The text of a placeholder pattern has a flaw. -/
structure PatternError where
  raw : String
  flaw : Placeholder.Flaw
  deriving DecidableEq, Repr

/-- The wording of the error. -/
def PatternError.message (e : PatternError) : String :=
  "web: invalid pattern " ++ Text.quoted e.raw ++ ": " ++ e.flaw.message

/-- What a route can be given as its pattern: the text of a placeholder pattern, or a pattern. -/
inductive PatternSource (View : Type)
  | text (raw : String)
  | ready (p : Pattern View)

/-- The pattern that is meant. -/
def PatternSource.resolve {View : Type} : PatternSource View → Except PatternError (Pattern View)
  | text raw =>
    match Placeholder.parse raw with
    | .ok p => .ok (.placeholder p)
    | .error flaw => .error ⟨raw, flaw⟩
  | ready p => .ok p

/-- The methods of a route that is registered for one method. What answers GET answers HEAD too. -/
def Method.served (m : Method) : MethodSet :=
  match m with
  | .get => (MethodSet.of .get).insert .head
  | m => MethodSet.of m

namespace Mux

variable {A : App}

/-- The mux with the given number, without routes and layers. -/
def new (id : MuxId) (capacity : Nat) : Mux A := ⟨Stack.new id capacity, Router.new⟩

/-- The mux with a route added. -/
def add (m : Mux A) (r : Route A) : Mux A := { m with router := m.router.add r }

end Mux

end HttpMux
