import HttpMux.Handler
import HttpMux.Text.Quoted

/-!
# `HttpMux.Stack`: a list of layers and the chains built from it

A chain is the layers of a stack put around the router of a mux. Chains are kept for reuse while
they are idle. Every change of the layers starts a new generation, with no idle chains; a chain of
an older generation is dropped when it comes back.

While a layer runs that sees the request alone, the context of the request waits in the slot of the
chain.

- `Stack.alloc`: takes an idle chain or builds one.
- `Stack.release`: gives a chain back.
-/

set_option autoImplicit false

namespace HttpMux

variable {A : App}

/-- Layers around the router of a mux, with the generation of the layers, a number that tells the
chain from all others of its stack, and the slot. -/
structure Chain (A : App) where
  layers : List (Middleware A)
  inner : MuxId
  generation : Nat
  serial : Nat
  slot : Context

/-- A list of layers around the router of a mux, outermost first, and its idle chains, the one that
came back last first. -/
structure Stack (A : App) where
  inner : MuxId
  capacity : Nat
  layers : List (Middleware A)
  generation : Nat
  idle : List (Chain A)
  built : Nat

/-- The layer of the given name is not in the stack. -/
structure UnknownLayer where
  name : String
  deriving DecidableEq, Repr

/-- The wording of the error. -/
def UnknownLayer.message (e : UnknownLayer) : String :=
  "web: unknown middleware " ++ Text.quoted e.name

namespace Stack

/-- A stack without layers around the router of a mux. -/
def new (inner : MuxId) (capacity : Nat) : Stack A := ⟨inner, capacity, [], 0, [], 0⟩

/-- The names of the layers, outermost first. -/
def names (s : Stack A) : List String := s.layers.map Middleware.name

/-! ### Changing the layers -/

/-- The place of the first layer of the given name. -/
def position? (s : Stack A) (name : String) : Option Nat := s.names.findIdx? (· = name)

/-- The stack with other layers, in a new generation. -/
def publish (s : Stack A) (layers : List (Middleware A)) : Stack A :=
  { s with layers, generation := s.generation + 1, idle := [] }

/-- The stack with a layer inside all others. -/
def push (s : Stack A) (m : Middleware A) : Stack A := s.publish (s.layers ++ [m])

/-- The stack with a layer directly outside the first layer named `before`. -/
def insert (s : Stack A) (m : Middleware A) (before : String) : Except UnknownLayer (Stack A) :=
  match s.position? before with
  | some i => .ok (s.publish (s.layers.take i ++ m :: s.layers.drop i))
  | none => .error ⟨before⟩

/-- The stack without the first layer of the given name. -/
def abandon (s : Stack A) (name : String) : Except UnknownLayer (Stack A) :=
  match s.position? name with
  | some i => .ok (s.publish (s.layers.eraseIdx i))
  | none => .error ⟨name⟩

/-- What is logged when the layers have changed. -/
def changedLine (s : Stack A) : LogLine :=
  ⟨.debug, "web: middleware stack is now " ++ Text.quotedList s.names ++ " (generation " ++
    toString s.generation ++ ")"⟩

/-! ### Chains -/

/-- A chain of the current layers, and the stack that has built it. -/
def build (s : Stack A) : Chain A × Stack A :=
  (⟨s.layers, s.inner, s.generation, s.built, Context.empty⟩, { s with built := s.built + 1 })

/-- Takes the idle chain that came back last, or builds one. -/
def alloc (s : Stack A) : Chain A × Stack A :=
  match s.idle with
  | c :: idle => (c, { s with idle })
  | [] => s.build

/-- Whether a chain is of the current generation. -/
def isCurrent (s : Stack A) (c : Chain A) : Bool := c.generation = s.generation

/-- Gives a chain back. It is kept, with an empty slot, if it is of the current generation and there
is room. -/
def release (s : Stack A) (c : Chain A) : Stack A :=
  if s.isCurrent c ∧ s.idle.length < s.capacity then
    { s with idle := { c with slot := Context.empty } :: s.idle }
  else s

/-- What is logged when a chain of another generation is dropped. -/
def droppedLine (s : Stack A) (c : Chain A) : LogLine :=
  ⟨.trace, "web: dropping stack of generation " ++ toString c.generation ++ " (current is " ++
    toString s.generation ++ ")"⟩

/-- How a stack is shown. -/
def text (s : Stack A) : String :=
  "MiddlewareStack \x7b layers: " ++ Text.quotedList s.names ++ ", generation: " ++
    toString s.generation ++ ", pool_size: " ++ toString s.capacity ++ " \x7d"

end Stack

/-- How a chain is shown. -/
def Chain.text (c : Chain A) : String :=
  "CachedStack \x7b generation: " ++ toString c.generation ++ ", .. \x7d"

/-- How a layer is shown. -/
def Middleware.text (m : Middleware A) : String :=
  "Middleware \x7b name: " ++ Text.quoted m.name ++ ", layer: " ++ Text.quoted m.kind ++ " \x7d"

end HttpMux
