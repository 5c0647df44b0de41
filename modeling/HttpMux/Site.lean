import HttpMux.Chain
import HttpMux.Mux

/-!
# `HttpMux.Site`: muxes that serve requests together

A site holds all muxes that can hand requests to each other, the log, and the state of the
application. Everything that happens is a change of the site.

- `Site.tryHandle`, `Site.use`, …: configuring a mux.
- `Site.serve`: serving a request on a mux.

A mux may hand a request to another one, or to itself. Each time the depth goes down by one, and at
depth zero serving fails.
-/

set_option autoImplicit false

namespace HttpMux

/-- The muxes, the log with its last line first, the number of request IDs issued, the text that
they begin with, how the log writes a time span, what patterns can see of the application, and the
rest of its state. -/
structure Site (A : App) (S : Type) where
  muxes : List (Mux A)
  log : List LogLine
  issued : Nat
  idBase : String
  elapsed : String
  view : A.View
  state : S

namespace Site

variable {A : App} {S : Type}

/-- The site without muxes. -/
def new (idBase elapsed : String) (view : A.View) (state : S) : Site A S :=
  ⟨[], [], 0, idBase, elapsed, view, state⟩

/-- The mux of the given number; one without routes and layers if there is none. -/
def mux (s : Site A S) (id : MuxId) : Mux A := (s.muxes[id]?).getD (Mux.new id defaultCapacity)

/-- The site with another mux in place of the one of the given number. -/
def setMux (s : Site A S) (id : MuxId) (m : Mux A) : Site A S :=
  { s with muxes := s.muxes.set id m }

/-- The site with a line at the end of its log. -/
def logged (s : Site A S) (line : LogLine) : Site A S := { s with log := line :: s.log }

/-- A change of a site that has a result. -/
abbrev Change (A : App) (S : Type) := StateM (Site A S)

/-- Logs a line. -/
def report (line : LogLine) : Change A S Unit := modify (·.logged line)

/-- Adds a mux and returns its number. -/
def addMux (capacity : Nat) : Change A S MuxId := do
  let id := (← get).muxes.length
  modify fun s => { s with muxes := s.muxes ++ [Mux.new id capacity] }
  return id

/-- Changes the stack of a mux. -/
def modifyStack (id : MuxId) (f : Stack A → Stack A) : Change A S Unit :=
  modify fun s => s.setMux id { s.mux id with stack := f (s.mux id).stack }

/-- Changes the router of a mux. -/
def modifyRouter (id : MuxId) (f : Router A → Router A) : Change A S Unit :=
  modify fun s => s.setMux id { s.mux id with router := f (s.mux id).router }

/-! ### Routes -/

/-- Adds a route to a mux. -/
def addRoute (id : MuxId) (r : Route A) : Change A S Unit := do
  report r.addedLine
  modifyRouter id (·.add r)

/-- Adds a route to a mux, unless its pattern has a flaw. -/
def tryHandle (id : MuxId) (source : PatternSource A.View) (methods : MethodSet)
    (e : Endpoint A) : Change A S (Except PatternError Unit) := do
  match source.resolve with
  | .error err => return .error err
  | .ok pattern =>
    addRoute id ⟨pattern, methods, e⟩
    return .ok ()

/-- Adds a route to a mux. A flaw of its pattern is logged and is a failure. -/
def handle (id : MuxId) (source : PatternSource A.View) (methods : MethodSet) (e : Endpoint A) :
    Change A S (Except Failure Unit) := do
  match ← tryHandle id source methods e with
  | .ok () => return .ok ()
  | .error err =>
    report ⟨.error, err.message⟩
    return .error (.text err.message)

/-- Sets the handler for requests that no route takes. -/
def setNotFound (id : MuxId) (e : Endpoint A) : Change A S Unit :=
  modifyRouter id (·.withNotFound e)

/-- Compiles the table of a mux anew. -/
def compile (id : MuxId) : Change A S Unit := do
  modifyRouter id Router.compiled
  report ((← get).mux id).router.ready.compiledLine

/-- Compiles the table of a mux, unless its compiled form is known. -/
def prepare (id : MuxId) : Change A S Unit := do
  if ((← get).mux id).router.machine.isNone then compile id

/-- The compiled form of the table of a mux. -/
def program (id : MuxId) : Change A S Program := do
  prepare id
  return ((← get).mux id).router.ready.program

/-! ### Layers -/

/-- Adds a layer inside all others of a mux. -/
def use (id : MuxId) (m : Middleware A) : Change A S Unit := do
  modifyStack id (·.push m)
  report ((← get).mux id).stack.changedLine

/-- Sets the layers of a mux to the result of a change that may fail. -/
def tryStack (id : MuxId) (f : Stack A → Except UnknownLayer (Stack A)) :
    Change A S (Except UnknownLayer Unit) := do
  match f ((← get).mux id).stack with
  | .error e => return .error e
  | .ok stack =>
    modifyStack id fun _ => stack
    report stack.changedLine
    return .ok ()

/-- Adds a layer directly outside the first one named `before`. -/
def insert (id : MuxId) (m : Middleware A) (before : String) :
    Change A S (Except UnknownLayer Unit) :=
  tryStack id fun stack => stack.insert m before

/-- Removes the first layer of the given name. -/
def abandon (id : MuxId) (name : String) : Change A S (Except UnknownLayer Unit) :=
  tryStack id fun stack => stack.abandon name

/-! ### Chains -/

/-- Takes a chain from the stack of a mux. -/
def alloc (id : MuxId) : Change A S (Chain A) := do
  let (chain, stack) := ((← get).mux id).stack.alloc
  modifyStack id fun _ => stack
  return chain

/-- Gives a chain back to the stack of a mux. -/
def release (id : MuxId) (chain : Chain A) : Change A S Unit := do
  let stack := ((← get).mux id).stack
  if stack.isCurrent chain then modifyStack id (·.release chain)
  else report (stack.droppedLine chain)

/-! ### Serving -/

/-- The text of a request ID: the base, a hyphen, and the number with at least six digits. -/
def idText (base : String) (n : Nat) : String :=
  let digits := Nat.toDigits 10 n
  base ++ "-" ++ String.ofList (List.replicate (6 - digits.length) '0' ++ digits)

/-- The answers to the questions of scripts. `app` answers for the application, and `serve` serves
on another mux. -/
def answer (app : (q : A.Ask) → Change A S (A.Answer q))
    (serve : MuxId → Server (Change A S)) : (q : Question A) → Change A S q.Answer
  | .log line => report line
  | .freshId => do
    modify fun s => { s with issued := s.issued + 1 }
    let s ← get
    return idText s.idBase s.issued
  | .elapsed => do return (← get).elapsed
  | .serve id c r => serve id c r
  | .app q => app q

/-- Runs the handler that the router of a mux chooses. -/
def route (answer : (q : Question A) → Change A S q.Answer) (id : MuxId) : Server (Change A S) :=
  fun c r => do
    prepare id
    let s ← get
    ((s.mux id).router.script s.view c r).run (fun i => i.elim) answer

/-- Serves a request on a chain. -/
def serveOn (answer : (q : Question A) → Change A S q.Answer) (chain : Chain A) (c : Context)
    (r : Request) : Change A S (Served × Chain A) :=
  chain.serve answer (route answer chain.inner) c r

/-- Serves a request on a mux. A chain on which serving failed is not given back. -/
def serveWith (answer : (q : Question A) → Change A S q.Answer) (id : MuxId) :
    Server (Change A S) :=
  fun c r => do
    let chain ← alloc id
    let (served, chain) ← serveOn answer chain c r
    match served.outcome with
    | .response _ => release id chain
    | .failure _ => pure ()
    return served

/-- Serves a request on a mux, with at most `depth` muxes inside each other. -/
def serve (app : (q : A.Ask) → Change A S (A.Answer q)) : Nat → MuxId → Server (Change A S)
  | 0, _ => fun c _ => return ⟨c, .failure .tooDeep⟩
  | depth + 1, id => serveWith (answer app (serve app depth)) id

end Site

end HttpMux
