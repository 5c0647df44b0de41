import HttpMux.Chain

/-!
# `HttpMux.Proofs.Chain.Transparency`: plain layers do not disturb the context

On a chain all plain layers share one slot, and the context goes through it: it is put there when a
plain layer starts, taken out for each call inwards and put back after it, and taken out again when
the layer ends. `Layer.thread` hands the context along instead and knows no slot. The two agree for
every list of layers.

The argument goes from the inside out. What lies inside a layer is `Transparent` if, from an empty
slot, it does what the handing along does and leaves the slot empty. A plain layer empties the slot
before it lends the context, so what is inside finds the slot empty at every call, however deep
the layers are nested.

* `Script.threaded` and `Layer.thread_plain`: handing the context along, written out call by call.
* `Transparent.wrap` and `transparent_wrapAll`: one layer, and all of them.
* `Chain.serve_build`: serving a request on a chain that a stack has built.

A failure is an outcome like a response. A layer may return it, and thus pass it on, or go on, and
thus catch it; a context that comes with it is never lost.
-/

set_option autoImplicit false

namespace HttpMux

variable {A : App} {M : Type → Type} [Monad M]

/-! ### Handing the context along -/

/-- What a plain layer does if the context is handed along: each call inwards gets the present
context, and what the call makes of it is the present one from then on. -/
def Script.threaded (answer : (q : Question A) → M q.Answer) (inside : Server M) :
    Script A Request Outcome Outcome → Context → M Served
  | .done outcome, c => return ⟨c, outcome⟩
  | .inward r k, c => do
    let served ← inside c r
    (k served.outcome).threaded answer inside served.context
  | .ask q k, c => do (k (← answer q)).threaded answer inside c

/-- What lies inside a layer does the same as `plain` and leaves the slot empty, if it finds it
empty. -/
def Transparent (inside : Server (StateT Context M)) (plain : Server M) : Prop :=
  ∀ c r, (inside c r).run Context.empty = (fun served => (served, Context.empty)) <$> plain c r

variable [LawfulMonad M] (answer : (q : Question A) → M q.Answer)

/-- With the context as its state, a script ends with the context that is handed along. -/
theorem Script.run_passOn (inside : Server M) (s : Script A Request Outcome Outcome)
    (c : Context) :
    (s.run (passOn inside) fun q => liftM (answer q)).run c
      = (fun served => (served.outcome, served.context)) <$> s.threaded answer inside c := by
  induction s generalizing c with
  | done outcome => simp [run, threaded]
  | inward r k ih => simp [run, threaded, passOn, ih]
  | ask q k ih => simp [run, threaded, ih]

/-- A plain layer gets the context, hands it along from call to call and returns it. -/
theorem Layer.thread_plain (inside : Server M) (f : PlainLayer A) (c : Context) (r : Request) :
    (Layer.plain f).thread answer inside c r = (f r).threaded answer inside c := by
  rw [thread]
  simp [Script.run_passOn]

/-! ### Passing the context through the slot -/

variable {inside : Server (StateT Context M)} {plain : Server M}

/-- What knows no slot does not touch it. -/
theorem transparent_lift (inner : Server M) :
    Transparent (fun c r => liftM (inner c r)) inner := by
  intro c r
  simp

/-- A context layer never sees the slot: its script goes from an empty slot to an empty slot. -/
theorem Transparent.run_script (h : Transparent inside plain) {R : Type}
    (s : Script A (Context × Request) Served R) :
    (s.run (fun i => inside i.1 i.2) fun q => liftM (answer q)).run Context.empty
      = (fun result => (result, Context.empty)) <$> s.run (fun i => plain i.1 i.2) answer := by
  induction s with
  | done result => simp [Script.run]
  | inward i k ih => simp [Script.run, h i.1 i.2, ih]
  | ask q k ih => simp [Script.run, ih]

/-- Lending the context from the slot is handing it along: the call finds the slot empty, and what
it makes of the context is put back. -/
theorem Transparent.lend_eq (h : Transparent inside plain) : lend inside = passOn plain := by
  funext r
  ext c
  simp [lend, passOn, h c r]

/-- A layer around what is transparent is transparent. -/
theorem Transparent.wrap (h : Transparent inside plain) (l : Layer A) :
    Transparent (l.wrap answer inside) (l.thread answer plain) := by
  intro c r
  cases l with
  | context f => exact h.run_script answer (f c r)
  | plain f =>
    -- By `lend_eq` the layer runs on the context alone; the slot holds it only before and after.
    rw [Layer.wrap, Layer.thread, h.lend_eq]
    simp

/-- All layers of a chain together are transparent. -/
theorem transparent_wrapAll (inner : Server M) (layers : List (Middleware A)) :
    Transparent (wrapAll answer (fun c r => liftM (inner c r)) layers)
      (threadAll answer inner layers) := by
  -- From the inside out, each layer is around what is transparent already.
  induction layers with
  | nil => exact transparent_lift inner
  | cons m layers ih => exact ih.wrap answer m.layer

/-! ### Chains -/

namespace Chain

/-- From an empty slot, a chain serves as if the context was handed along its layers, and leaves
the slot empty. -/
theorem serve_of_slot_empty {ch : Chain A} (h : ch.slot = Context.empty) (inner : Server M)
    (c : Context) (r : Request) :
    ch.serve answer inner c r
      = (fun served => (served, ch)) <$> threadAll answer inner ch.layers c r := by
  have hch : { ch with slot := Context.empty } = ch := by rw [← h]
  rw [serve, h, transparent_wrapAll answer inner ch.layers c r]
  simp [hch]

/-- The chain serves every request as if the context was handed along the given layers, the
outermost first, and comes back as it was. -/
def Runs (ch : Chain A) (layers : List (Middleware A)) : Prop :=
  ∀ (M : Type → Type) [Monad M] [LawfulMonad M] (answer : (q : Question A) → M q.Answer)
    (inner : Server M) (c : Context) (r : Request),
    ch.serve answer inner c r = (fun served => (served, ch)) <$> threadAll answer inner layers c r

/-- A chain with an empty slot hands the context along its own layers. -/
theorem runs_of_slot_empty {ch : Chain A} (h : ch.slot = Context.empty) : ch.Runs ch.layers :=
  fun _ _ _ answer inner c r => serve_of_slot_empty answer h inner c r

/-- A chain that a stack has built serves every request as if the context was handed along the
layers of the stack, the outermost first, and its slot is empty afterwards. A plain layer is
handed the context of its caller, each of its calls gets the context with the changes of the calls
before it, and the caller gets the context with all of them, whether the outcome is a response or
a failure. -/
theorem serve_build (s : Stack A) (inner : Server M) (c : Context) (r : Request) :
    s.build.1.serve answer inner c r
        = (fun served => (served, { s.build.1 with slot := Context.empty }))
          <$> threadAll answer inner s.layers c r
      ∧ ∀ (inside : Server M) (f : PlainLayer A) (c : Context) (r : Request),
          (Layer.plain f).thread answer inside c r = (f r).threaded answer inside c :=
  ⟨serve_of_slot_empty answer rfl inner c r, Layer.thread_plain answer⟩

/-- An application that is asked for nothing. -/
def silent : App := ⟨Empty, fun q => q.elim, Unit⟩

/-- The answers of such an application, where no other mux serves. -/
def silentAnswer : (q : Question silent) → Id q.Answer
  | .log _ => ()
  | .freshId => ""
  | .elapsed => ""
  | .serve _ c _ => ⟨c, .failure .silent⟩
  | .app q => q.elim

/-- A plain layer that calls inwards a second time, whatever the outcome of the first call. -/
def twice : PlainLayer silent := fun r => .inward r fun _ => .inward r .done

/-- A handler that leaves a mark, another one on a second call, and fails. -/
def marking : Server Id := fun c _ =>
  ⟨c.withValue (if (c.value? "first").isSome then "second" else "first") .null, .failure .silent⟩

/-- The marks of both calls come back to the caller, although both fail. -/
theorem keys_serve_build_twice :
    (((Stack.new 0 1).push ⟨"twice", .plain twice⟩).build.1.serve silentAnswer marking
      Context.empty ⟨.get, "/", .http11, ⟨[]⟩, [], none⟩).1.context.env.keys
        = ["first", "second"] := by
  rw [(serve_build (M := Id) silentAnswer ((Stack.new 0 1).push ⟨"twice", .plain twice⟩) marking
    Context.empty ⟨.get, "/", .http11, ⟨[]⟩, [], none⟩).1]
  rfl

end Chain

end HttpMux
