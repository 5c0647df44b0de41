import HttpMux.Chain

/-!
# `HttpMux.Proofs.Script.Correspondence`: one script in two monads

A script runs in any monad that gives its steps a meaning. If two monads give related meanings to
every step, then the script does related things in both, and so does a list of layers around what
lies inside.

* `Script.AsksOnly`: all questions of a script, whatever the answers are.
* `Correspondence`: a relation between the computations of two monads that their sequences keep.
* `Correspondence.run`: related steps make related scripts.
* `Correspondence.Servers.chainServe`: chains do related things around related insides.
* `Correspondence.Servers.threadAll`: so do layers that hand the context along without a slot.
-/

set_option autoImplicit false

namespace HttpMux

variable {A : App}

/-! ### What scripts ask -/

namespace Script

variable {I O R T : Type} {p : Question A → Prop}

/-- Whatever it is answered and whatever comes back from inside, the script asks only questions that
satisfy `p`. -/
def AsksOnly (p : Question A → Prop) : Script A I O R → Prop
  | done _ => True
  | inward _ k => ∀ o, (k o).AsksOnly p
  | ask q k => p q ∧ ∀ a, (k a).AsksOnly p

/-- A script goes on asking only such questions if what follows its result does. -/
theorem AsksOnly.bind {s : Script A I O R} (hs : s.AsksOnly p) {f : R → Script A I O T}
    (hf : ∀ r, (f r).AsksOnly p) : (s.bind f).AsksOnly p := by
  induction s with
  | done r => exact hf r
  | inward i k ih => exact fun o => ih o (hs o)
  | ask q k ih => exact ⟨hs.1, fun a => ih a (hs.2 a)⟩

/-- If any question will do, every script qualifies. -/
theorem asksOnly_true (s : Script A I O R) : s.AsksOnly fun _ => True := by
  induction s with
  | done r => trivial
  | inward i k ih => exact ih
  | ask q k ih => exact ⟨trivial, ih⟩

end Script

/-- All scripts of the handler ask only questions that satisfy `p`. -/
def Endpoint.AsksOnly (p : Question A → Prop) : Endpoint A → Prop
  | context h => ∀ c r, (h c r).AsksOnly p
  | plain h => ∀ r, (h r).AsksOnly p

/-- The script of a handler for a request is one of its scripts. -/
theorem Endpoint.AsksOnly.script {p : Question A → Prop} {e : Endpoint A} (h : e.AsksOnly p)
    (c : Context) (r : Request) : (e.script c r).AsksOnly p := by
  cases e with
  | context f => exact h c r
  | plain f => exact (h r).bind fun _ => trivial

/-- All scripts of the layer ask only questions that satisfy `p`. -/
def Layer.AsksOnly (p : Question A → Prop) : Layer A → Prop
  | context f => ∀ c r, (f c r).AsksOnly p
  | plain f => ∀ r, (f r).AsksOnly p

/-- If any question will do, every layer qualifies. -/
theorem Layer.asksOnly_true (l : Layer A) : l.AsksOnly fun _ => True := by
  cases l with
  | context f => exact fun c r => (f c r).asksOnly_true
  | plain f => exact fun r => (f r).asksOnly_true

/-! ### Correspondences -/

/-- A relation between the computations of two monads, kept by doing one after the other. -/
structure Correspondence (M N : Type → Type) [Monad M] [Monad N] where
  rel : {α : Type} → M α → N α → Prop
  pure : ∀ {α : Type} (a : α), rel (pure a) (pure a)
  bind : ∀ {α β : Type} {m : M α} {n : N α} {f : α → M β} {g : α → N β},
    rel m n → (∀ a, rel (f a) (g a)) → rel (m >>= f) (n >>= g)

namespace Correspondence

variable {M N : Type → Type} [Monad M] [Monad N] (R : Correspondence M N)
  {p : Question A → Prop} {answer : (q : Question A) → M q.Answer}
  {answer' : (q : Question A) → N q.Answer}

/-- Related steps make related scripts, if the script asks nothing else. -/
theorem run {I O T : Type} {inner : I → M O} {inner' : I → N O}
    (hinner : ∀ i, R.rel (inner i) (inner' i)) (hanswer : ∀ q, p q → R.rel (answer q) (answer' q))
    {s : Script A I O T} (hs : s.AsksOnly p) :
    R.rel (s.run inner answer) (s.run inner' answer') := by
  -- Induction on the script: each of its steps is made in both monads, and the results of the steps
  -- agree, so what follows is one and the same script.
  induction s with
  | done r => exact R.pure r
  | inward i k ih => exact R.bind (hinner i) fun o => ih o (hs o)
  | ask q k ih => exact R.bind (hanswer q hs.1) fun a => ih a (hs.2 a)

/-- The same relation between computations with a state of their own. -/
def state (σ : Type) : Correspondence (StateT σ M) (StateT σ N) where
  rel m n := ∀ s, R.rel (m.run s) (n.run s)
  pure a s := R.pure (a, s)
  bind hm hf s := R.bind (hm s) fun x => hf x.1 x.2

variable {σ : Type}

/-- Reading the state gives the same on both sides. -/
theorem state_get : (R.state σ).rel get get := fun s => R.pure (s, s)

/-- Writing the state gives the same state on both sides. -/
theorem state_set (s : σ) : (R.state σ).rel (set s) (set s) := fun _ => R.pure ((), s)

/-- Computations that do not touch the state stay related when a state is carried past them. -/
theorem state_lift {α : Type} {m : M α} {n : N α} (h : R.rel m n) :
    (R.state σ).rel (liftM m) (liftM n) :=
  fun s => R.bind h fun a => R.pure (a, s)

/-- What serves requests in one monad is related to what serves them in the other. -/
def Servers (f : Server M) (g : Server N) : Prop := ∀ c r, R.rel (f c r) (g c r)

variable {R}

/-! ### Layers -/

/-- What is inside of a plain layer is given the context from the slot. It stays related. -/
theorem Servers.lend {inside : Server (StateT Context M)} {inside' : Server (StateT Context N)}
    (h : (R.state Context).Servers inside inside') (r : Request) :
    (R.state Context).rel (lend inside r) (lend inside' r) :=
  (R.state Context).bind R.state_get fun c =>
    (R.state Context).bind (R.state_set _) fun _ =>
      (R.state Context).bind (h c r) fun served =>
        (R.state Context).bind (R.state_set _) fun _ => (R.state Context).pure served.outcome

/-- A layer around related insides is related, if it asks only what is answered alike. -/
theorem Servers.wrap {inside : Server (StateT Context M)} {inside' : Server (StateT Context N)}
    (h : (R.state Context).Servers inside inside')
    (hanswer : ∀ q, p q → R.rel (answer q) (answer' q)) {l : Layer A} (hl : l.AsksOnly p) :
    (R.state Context).Servers (l.wrap answer inside) (l.wrap answer' inside') := by
  intro c r
  have hlift : ∀ q, p q → (R.state Context).rel (liftM (answer q)) (liftM (answer' q)) :=
    fun q hq => R.state_lift (hanswer q hq)
  cases l with
  | context f => exact (R.state Context).run (fun i => h i.1 i.2) hlift (hl c r)
  | plain f =>
    -- The context goes into the slot, the layer runs, and the context is taken out again.
    exact (R.state Context).bind (R.state_set c) fun _ =>
      (R.state Context).bind ((R.state Context).run h.lend hlift (hl r)) fun outcome =>
        (R.state Context).bind R.state_get fun c =>
          (R.state Context).bind (R.state_set _) fun _ =>
            (R.state Context).pure (Served.mk c outcome)

/-- All layers of a list, one around the other, are related around related servers. One by one they
are wrapped by `Servers.wrap`, from the inside out. -/
theorem Servers.wrapAll {inside : Server (StateT Context M)} {inside' : Server (StateT Context N)}
    (h : (R.state Context).Servers inside inside')
    (hanswer : ∀ q, p q → R.rel (answer q) (answer' q)) {layers : List (Middleware A)}
    (hlayers : ∀ m ∈ layers, m.layer.AsksOnly p) :
    (R.state Context).Servers (wrapAll answer inside layers) (wrapAll answer' inside' layers) := by
  induction layers with
  | nil => exact h
  | cons m layers ih =>
    exact (ih fun m hm => hlayers m (List.mem_cons_of_mem _ hm)).wrap hanswer
      (hlayers m List.mem_cons_self)

/-- A chain does related things around related insides. -/
theorem Servers.chainServe {inner : Server M} {inner' : Server N} (h : R.Servers inner inner')
    (hanswer : ∀ q, p q → R.rel (answer q) (answer' q)) {ch : Chain A}
    (hlayers : ∀ m ∈ ch.layers, m.layer.AsksOnly p) (c : Context) (r : Request) :
    R.rel (ch.serve answer inner c r) (ch.serve answer' inner' c r) := by
  -- The inside of a chain does not see the slot.
  have hlift : (R.state Context).Servers (fun c r => liftM (inner c r))
      (fun c r => liftM (inner' c r)) := fun c r => R.state_lift (h c r)
  refine R.bind (hlift.wrapAll hanswer hlayers c r ch.slot) fun x => ?_
  exact R.pure _

/-! ### Layers without a slot -/

/-- What is inside of a plain layer is given the context that is handed along. -/
theorem Servers.passOn {inside : Server M} {inside' : Server N} (h : R.Servers inside inside')
    (r : Request) : (R.state Context).rel (passOn inside r) (passOn inside' r) :=
  (R.state Context).bind R.state_get fun c =>
    (R.state Context).bind (R.state_lift (h c r)) fun served =>
      (R.state Context).bind (R.state_set _) fun _ => (R.state Context).pure served.outcome

/-- A layer that hands the context along is related around related insides. -/
theorem Servers.thread {inside : Server M} {inside' : Server N} (h : R.Servers inside inside')
    (hanswer : ∀ q, p q → R.rel (answer q) (answer' q)) {l : Layer A} (hl : l.AsksOnly p) :
    R.Servers (l.thread answer inside) (l.thread answer' inside') := by
  intro c r
  -- A layer that sees the context hands it along itself; for a plain one it is kept as a state.
  cases l with
  | context f => exact R.run (fun i => h i.1 i.2) hanswer (hl c r)
  | plain f =>
    have hlift : ∀ q, p q → (R.state Context).rel (liftM (answer q)) (liftM (answer' q)) :=
      fun q hq => R.state_lift (hanswer q hq)
    refine R.bind ((R.state Context).run h.passOn hlift (hl r) c) fun x => ?_
    exact R.pure _

/-- All layers of a list that hand the context along are related around related servers. Runs
against a reference without a slot are compared by this one. -/
theorem Servers.threadAll {inside : Server M} {inside' : Server N} (h : R.Servers inside inside')
    (hanswer : ∀ q, p q → R.rel (answer q) (answer' q)) {layers : List (Middleware A)}
    (hlayers : ∀ m ∈ layers, m.layer.AsksOnly p) :
    R.Servers (threadAll answer inside layers) (threadAll answer' inside' layers) := by
  induction layers with
  | nil => exact h
  | cons m layers ih =>
    exact (ih fun m hm => hlayers m (List.mem_cons_of_mem _ hm)).thread hanswer
      (hlayers m List.mem_cons_self)

end Correspondence

end HttpMux
