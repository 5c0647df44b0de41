import HttpMux.Stack

/-!
# `HttpMux.Chain`: running the layers of a chain

A context layer hands a context and a request inwards. A plain layer hands only a request inwards,
so the context waits in the slot while the layer itself runs: it is put there before the layer
starts, lent to the layers inside for the time of each call, and taken out when the layer ends.

- `Layer.wrap`: a layer around what is inside it, by way of the slot.
- `Layer.thread`: the same with the context passed along, without a slot.
-/

set_option autoImplicit false

namespace HttpMux

variable {A : App} {M : Type → Type} [Monad M]

/-- What serves a request with its context inside a monad. -/
abbrev Server (M : Type → Type) := Context → Request → M Served

/-! ### With a slot -/

/-- The inside of a plain layer: the slot lends its context and gets back what has become of it. -/
def lend (inside : Server (StateT Context M)) (r : Request) : StateT Context M Outcome := do
  let c ← get
  set Context.empty
  let served ← inside c r
  set served.context
  return served.outcome

/-- A layer around what is inside it. The state is the slot of the chain. -/
def Layer.wrap (answer : (q : Question A) → M q.Answer) (inside : Server (StateT Context M)) :
    Layer A → Server (StateT Context M)
  | .context f => fun c r => (f c r).run (fun i => inside i.1 i.2) fun q => liftM (answer q)
  | .plain f => fun c r => do
    set c
    let outcome ← (f r).run (lend inside) fun q => liftM (answer q)
    let c ← get
    set Context.empty
    return ⟨c, outcome⟩

/-- The layers around what is inside them, outermost first. -/
def wrapAll (answer : (q : Question A) → M q.Answer) (inside : Server (StateT Context M))
    (layers : List (Middleware A)) : Server (StateT Context M) :=
  layers.foldr (fun m inside => m.layer.wrap answer inside) inside

/-- Serves a request on a chain around `inner`. The chain comes back with what is left in its
slot. -/
def Chain.serve (answer : (q : Question A) → M q.Answer) (inner : Server M) (ch : Chain A)
    (c : Context) (r : Request) : M (Served × Chain A) := do
  let (served, slot) ← (wrapAll answer (fun c r => liftM (inner c r)) ch.layers c r).run ch.slot
  return (served, { ch with slot })

/-! ### Without a slot -/

/-- The inside of a plain layer: the context is the state of the layer alone. -/
def passOn (inside : Server M) (r : Request) : StateT Context M Outcome := do
  let c ← get
  let served ← liftM (inside c r)
  set served.context
  return served.outcome

/-- A layer around what is inside it, with the context passed along. -/
def Layer.thread (answer : (q : Question A) → M q.Answer) (inside : Server M) :
    Layer A → Server M
  | .context f => fun c r => (f c r).run (fun i => inside i.1 i.2) answer
  | .plain f => fun c r => do
    let (outcome, c) ← ((f r).run (passOn inside) fun q => liftM (answer q)).run c
    return ⟨c, outcome⟩

/-- The layers around what is inside them, with the context passed along, outermost first. -/
def threadAll (answer : (q : Question A) → M q.Answer) (inside : Server M)
    (layers : List (Middleware A)) : Server M :=
  layers.foldr (fun m inside => m.layer.thread answer inside) inside

end HttpMux
