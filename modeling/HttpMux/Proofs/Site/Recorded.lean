import HttpMux.Proofs.Route.Precedence
import HttpMux.Proofs.Script.Correspondence

/-!
# `HttpMux.Proofs.Site.Recorded`: serving requests with a record of what happens

A request is answered by handlers of several muxes, and their scripts put questions. Serving leaves
no trace of this by itself. The functions here do what those of `Site` do and write every call of a
handler and every question down, in order.

* `Event`: what is written down.
* `Recorded.serve`: serving a request on a mux with a record.
* `Recorded.erases_serve`: without the record it is `Site.serve`.
-/

set_option autoImplicit false

namespace HttpMux

variable {A : App} {S : Type}

/-- What happens while a request is served: a mux calls a handler, or a script puts a question. -/
inductive Event (A : App)
  | called (mux : MuxId) (e : Endpoint A) (c : Context) (r : Request)
  | asked (q : Question A)

/-- The call of the handler that a mux has chosen. -/
def Dispatch.event (d : Dispatch A) (fallback : Endpoint A) (mux : MuxId) (r : Request) : Event A :=
  match d with
  | .route x c => .called mux x.endpoint c r
  | .rest c => .called mux fallback c r

/-- Writes an event down. -/
def note {M : Type → Type} [Monad M] (e : Event A) : StateT (List (Event A)) M Unit :=
  modify (· ++ [e])

/-- Calls the handler that a mux has chosen, and writes the call down. -/
def Dispatch.call {M : Type → Type} [Monad M] (d : Dispatch A) (fallback : Endpoint A) (mux : MuxId)
    (r : Request) (answer : (q : Question A) → StateT (List (Event A)) M q.Answer) :
    StateT (List (Event A)) M Served := do
  note (d.event fallback mux r)
  (d.script fallback r).run (fun i => i.elim) answer

/-- Changes of a site with a record. -/
abbrev Recorded (A : App) (S : Type) := StateT (List (Event A)) (Site.Change A S)

namespace Recorded

/-- A change that is not written down. -/
def quiet {α : Type} (m : Site.Change A S α) : Recorded A S α := liftM m

/-- The answers to questions. Other muxes serve with the record, and nothing else needs one. -/
def reply (app : (q : A.Ask) → Site.Change A S (A.Answer q))
    (serve : MuxId → Server (Recorded A S)) : (q : Question A) → Recorded A S q.Answer
  | .serve id c r => serve id c r
  | q => quiet (Site.answer app (fun _ c _ => return ⟨c, .failure .tooDeep⟩) q)

/-- The answers to questions, which are written down. -/
def answer (app : (q : A.Ask) → Site.Change A S (A.Answer q))
    (serve : MuxId → Server (Recorded A S)) (q : Question A) : Recorded A S q.Answer := do
  note (.asked q)
  reply app serve q

/-- Runs the handler that the router of a mux chooses. -/
def route (answer : (q : Question A) → Recorded A S q.Answer) (id : MuxId) :
    Server (Recorded A S) :=
  fun c r => do
    quiet (Site.prepare id)
    let s ← quiet get
    ((s.mux id).router.dispatch s.view c r).call (s.mux id).router.notFound id r answer

/-- Serves a request on a chain. -/
def serveOn (answer : (q : Question A) → Recorded A S q.Answer) (chain : Chain A) (c : Context)
    (r : Request) : Recorded A S (Served × Chain A) :=
  chain.serve answer (route answer chain.inner) c r

/-- Gives a chain back, unless serving on it has failed. -/
def giveBack (id : MuxId) (served : Served) (chain : Chain A) : Recorded A S Served :=
  match served.outcome with
  | .response _ => do
    quiet (Site.release id chain)
    return served
  | .failure _ => return served

/-- Serves a request on a mux. -/
def serveWith (answer : (q : Question A) → Recorded A S q.Answer) (id : MuxId) :
    Server (Recorded A S) :=
  fun c r => do
    let chain ← quiet (Site.alloc id)
    let (served, chain) ← serveOn answer chain c r
    giveBack id served chain

/-- Serves a request on a mux, with at most `depth` muxes inside each other. -/
def serve (app : (q : A.Ask) → Site.Change A S (A.Answer q)) : Nat → MuxId → Server (Recorded A S)
  | 0, _ => fun c _ => return ⟨c, .failure .tooDeep⟩
  | depth + 1, id => serveWith (answer app (serve app depth)) id

/-! ### Step by step -/

/-- A chain is given back if there is a response. The record is not touched. -/
theorem giveBack_run (id : MuxId) (served : Served) (chain : Chain A) (t : List (Event A))
    (s : Site A S) :
    ((giveBack id served chain).run t).run s
      = ((served, t), match served.outcome with
        | .response _ => ((Site.release id chain).run s).2
        | .failure _ => s) := by
  rw [giveBack]
  cases served.outcome <;> rfl

/-- Serving on a mux with a record is taking a chain, serving on it and giving it back. -/
theorem serveWith_run (answer : (q : Question A) → Recorded A S q.Answer) (id : MuxId) (c : Context)
    (r : Request) (t : List (Event A)) (s : Site A S) :
    let taken := (Site.alloc id).run s
    let served := ((serveOn answer taken.1 c r).run t).run taken.2
    ((serveWith answer id c r).run t).run s
      = ((giveBack id served.1.1.1 served.1.1.2).run served.1.2).run served.2 := rfl

/-! ### Without the record -/

/-- The record shows nothing but what happens: without it, the one computation is the other. -/
def erases : Correspondence (Recorded A S) (Site.Change A S) where
  rel m n := ∀ t, Prod.fst <$> m.run t = n
  pure a t := by simp
  bind {α β m n f g} hm hf t := by
    rw [StateT.run_bind, map_bind, ← hm t, bind_map_left]
    exact bind_congr fun x => hf x.1 x.2

/-- A change does what the one with a record does. -/
theorem erases_run {α : Type} {m : Recorded A S α} {n : Site.Change A S α} (h : erases.rel m n)
    (t : List (Event A)) (s : Site A S) :
    n.run s = (((m.run t).run s).1.1, ((m.run t).run s).2) := by
  rw [← h t]
  rfl

/-- What is not written down is the change itself. -/
theorem erases_quiet {α : Type} (m : Site.Change A S α) : erases.rel (quiet m) m := by
  intro t
  simp [quiet]

/-- Writing something down does not show without the record. -/
theorem erases_note {α : Type} {m : Recorded A S α} {n : Site.Change A S α} (h : erases.rel m n)
    (e : Event A) : erases.rel (do note e; m) n := by
  intro t
  exact h (t ++ [e])

variable {app : (q : A.Ask) → Site.Change A S (A.Answer q)}

/-- The answers to questions are the same without the record, if other muxes serve the same. -/
theorem erases_answer {serve : MuxId → Server (Recorded A S)}
    {serve' : MuxId → Server (Site.Change A S)} (h : ∀ id, erases.Servers (serve id) (serve' id))
    (q : Question A) : erases.rel (answer app serve q) (Site.answer app serve' q) := by
  refine erases_note ?_ _
  cases q with
  | log line => exact erases_quiet _
  | freshId => exact erases_quiet _
  | elapsed => exact erases_quiet _
  | serve id c r => exact h id c r
  | app q => exact erases_quiet _

/-- Routing a request is the same without the record. -/
theorem erases_route {answer : (q : Question A) → Recorded A S q.Answer}
    {answer' : (q : Question A) → Site.Change A S q.Answer}
    (h : ∀ q, erases.rel (answer q) (answer' q)) (id : MuxId) :
    erases.Servers (route answer id) (Site.route answer' id) := by
  intro c r
  -- Only the note about the call is not there in the change without a record.
  refine erases.bind (erases_quiet _) fun _ => erases.bind (erases_quiet _) fun s => ?_
  refine erases_note ?_ _
  exact erases.run (fun i => i.elim) (fun q _ => h q) (Script.asksOnly_true _)

/-- Serving a request on a chain is the same without the record. -/
theorem erases_serveOn {answer : (q : Question A) → Recorded A S q.Answer}
    {answer' : (q : Question A) → Site.Change A S q.Answer}
    (h : ∀ q, erases.rel (answer q) (answer' q)) (chain : Chain A) (c : Context) (r : Request) :
    erases.rel (serveOn answer chain c r) (Site.serveOn answer' chain c r) :=
  (erases_route h chain.inner).chainServe (fun q _ => h q) (fun m _ => m.layer.asksOnly_true) c r

/-- Without the record, serving is what it is. -/
theorem erases_serve (depth : Nat) (id : MuxId) :
    erases.Servers (serve app depth id) (Site.serve app depth id) := by
  -- One mux inside of another is served with one less of the depth.
  induction depth generalizing id with
  | zero => exact fun c r => erases.pure _
  | succ depth ih =>
    intro c r
    refine erases.bind (erases_quiet _) fun chain => ?_
    refine erases.bind (erases_serveOn (erases_answer ih) chain c r) fun x => ?_
    obtain ⟨⟨context, outcome⟩, chain⟩ := x
    -- A chain on which serving has failed is not given back, with or without the record.
    cases outcome with
    | response response => exact erases.bind (erases_quiet _) fun _ => erases.pure _
    | failure f => exact erases.pure _

end Recorded

end HttpMux
