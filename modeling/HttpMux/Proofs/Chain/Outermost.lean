import HttpMux.Proofs.Chain.Transparency

/-!
# `HttpMux.Proofs.Chain.Outermost`: a layer outside all others

What a ready-made layer does is said for a stack that has it outside all others. The inner chain is
the chain of the same stack without it, whatever its layers are, around whatever router.

* `Stack.serve`: what a chain that was built from a stack gives for a request.
* `Stack.serve_enclosed`: with one more layer outside, the layer runs around the inner chain.
* `Layer.thread_plain_once`: a plain layer that calls inwards once, and changes the request before
  and the response after the call.
-/

set_option autoImplicit false

namespace HttpMux

variable {A : App} {M : Type → Type} [Monad M]

/-- What was served, with its response changed. The context and a failure stay as they are. -/
def Served.map (f : Response → Response) (served : Served) : Served :=
  { served with outcome := served.outcome.map f }

/-- Changing a response twice is changing it by both changes. -/
theorem Served.map_map (f g : Response → Response) (served : Served) :
    (served.map g).map f = served.map fun resp => f (g resp) := by
  obtain ⟨context, outcome⟩ := served
  cases outcome <;> rfl

namespace Stack

/-- The stack with a layer outside all others. -/
def enclosed (s : Stack A) (m : Middleware A) : Stack A := { s with layers := m :: s.layers }

/-- What a chain that was built from the stack gives for a request, around a router. -/
def serve (answer : (q : Question A) → M q.Answer) (router : Server M) (s : Stack A) : Server M :=
  fun c r => Prod.fst <$> s.build.1.serve answer router c r

variable [LawfulMonad M]

/-- A chain hands the context along its layers, the outermost first. -/
theorem serve_eq (answer : (q : Question A) → M q.Answer) (router : Server M) (s : Stack A) :
    s.serve answer router = threadAll answer router s.layers := by
  funext c r
  rw [serve, Chain.serve_of_slot_empty answer rfl, Functor.map_map]
  exact id_map _

/-- With one more layer outside, the layer runs around the inner chain. -/
theorem serve_enclosed (answer : (q : Question A) → M q.Answer) (router : Server M) (s : Stack A)
    (m : Middleware A) :
    (s.enclosed m).serve answer router = m.layer.thread answer (s.serve answer router) := by
  rw [serve_eq, serve_eq]
  rfl

end Stack

/-- A plain layer that hands a changed request inwards, once, and changes what comes back. -/
theorem Layer.thread_plain_once [LawfulMonad M] (answer : (q : Question A) → M q.Answer)
    (inside : Server M) (before : Request → Request) (after : Request → Response → Response)
    (c : Context) (r : Request) :
    (Layer.plain fun r => do return (← Script.call (before r)).map (after r)).thread answer inside
        c r
      = Served.map (after r) <$> inside c (before r) := by
  -- There is one call inwards, so the context comes back as the call leaves it.
  rw [Layer.thread_plain, map_eq_pure_bind]
  rfl

/-- A router that finds every page. -/
def Layers.everyPage : Server Id := fun c _ => ⟨c, .response (.new .ok)⟩

end HttpMux
