import HttpMux.Method
import HttpMux.MethodSet
import HttpMux.Route.Program

/-!
# `HttpMux.Route.Engine`: running a compiled table on a path

The engine looks for the first route that accepts a request with its method. On the way it collects
the methods of the routes that accept the request with another one.

- `Program.run`: what the program of a table finds.
- `Program.scan`: what a plain walk over the table finds.

Jumps of a compiled table go forward, so it is enough to take as many steps as there are
instructions.
-/

set_option autoImplicit false

namespace HttpMux

/-- What a search over a table has found: the route that takes the request, the methods of the
routes that accept it with another one, and the routes that were tried, in order. -/
structure Search where
  found : Option Nat
  methods : MethodSet
  tried : List Nat

namespace Search

/-- The search that has found nothing yet. -/
def empty : Search := ⟨none, MethodSet.empty, []⟩

/-- Tries a route. `test` gives the methods of a route that accepts the request. -/
def attempt (method : Method) (test : Nat → Option MethodSet) (s : Search) (index : Nat) : Search :=
  let tried := s.tried ++ [index]
  match test index with
  | none => { s with tried }
  | some ms =>
    { found := if ms.contains method then some index else none
      methods := s.methods.union ms
      tried }

end Search

namespace Program

/-- The state of the engine: the next instruction, the cursor, and the search. -/
structure State where
  next : Nat
  cursor : Nat
  search : Search

/-- The state at the start of a program. -/
def State.initial : State := ⟨0, 0, Search.empty⟩

/-- One step. Nothing if the program is over. -/
def step (path : Bytes) (method : Method) (test : Nat → Option MethodSet) (p : Program)
    (s : State) : Option State :=
  if s.search.found.isSome then none
  else
    match p[s.next]? with
    | none => none
    | some (.setCursor offset) => some { s with next := s.next + 1, cursor := offset }
    | some (.literal bytes onMismatch) =>
      if bytes.isPrefixOf (path.drop s.cursor) then
        some { s with next := s.next + 1, cursor := s.cursor + bytes.length }
      else
        match onMismatch with
        | .index i => some { s with next := i }
        | .fail => none
    | some (.route index) =>
      some { s with next := s.next + 1, search := s.search.attempt method test index }

/-- At most `fuel` steps. -/
def steps (path : Bytes) (method : Method) (test : Nat → Option MethodSet) (p : Program) :
    Nat → State → State
  | 0, s => s
  | fuel + 1, s =>
    match step path method test p s with
    | none => s
    | some s => steps path method test p fuel s

/-- What the program finds on a path. -/
def run (path : Bytes) (method : Method) (test : Nat → Option MethodSet) (p : Program) : Search :=
  (steps path method test p (p.length + 1) State.initial).search

/-- Tries the routes of a list in order until one takes the request. -/
def scanFrom (method : Method) (test : Nat → Option MethodSet) (s : Search) : List Nat → Search
  | [] => s
  | i :: is =>
    let s := s.attempt method test i
    if s.found.isSome then s else scanFrom method test s is

/-- The places of the texts that a path begins with. -/
def considered (path : Bytes) (texts : List Bytes) : List Nat :=
  (texts.zipIdx.filter fun x => x.1.isPrefixOf path).map Prod.snd

/-- What a plain walk over the table finds. It tries exactly the routes whose text the path begins
with. -/
def scan (path : Bytes) (method : Method) (test : Nat → Option MethodSet) (texts : List Bytes) :
    Search :=
  scanFrom method test Search.empty (considered path texts)

end Program

end HttpMux
