import HttpMux.Proofs.Site.Exchange

/-!
# `HttpMux.Proofs.Site.Refused`: configuration that is refused

A call that configures a mux is refused if it registers a route whose pattern has a flaw, or if it
changes the layers at a name that none of them has. A refused call leaves everything as it was,
compiled tables and idle chains included. A registration that fails with the flaw of its pattern
also logs it, and this line is all that remains of it.

The line is not seen by anything that happens later. A change ignores the log if it does the same on
sites that differ in their logs alone, and leaves them so.

* `Mux.Attempt.RefusedFor`: the reasons for which calls are refused.
* `perform_eq_error` and `perform_refused`: there are no other reasons, and what a refusal leaves.
* `IgnoresLog` and `ignoringLog`: changes that ignore the log, and that they can be made one after
  the other.
* `ignoresLog_serve`: whatever is in the log, requests are served alike.
* `World.UpToLog.runMoves`: so it is with everything that can happen to muxes and their chains.
* `World.refused_without_trace`: all this together.

Handlers may configure muxes while a request is served. They may not look at the log.
-/

set_option autoImplicit false

namespace HttpMux

variable {A : App} {S : Type}

/-! ### Refusals -/

namespace Mux

/-- A call that can be refused. A route is registered and a flaw of its pattern is returned, or it
is a failure. Or the layers change at a name. -/
inductive Attempt (A : App)
  | tryHandle (source : PatternSource A.View) (methods : MethodSet) (e : Endpoint A)
  | handle (source : PatternSource A.View) (methods : MethodSet) (e : Endpoint A)
  | insert (m : Middleware A) (before : String)
  | abandon (name : String)

/-- What comes back from a call that is refused. -/
inductive Refusal
  | pattern (e : PatternError)
  | failure (f : Failure)
  | layer (e : UnknownLayer)

/-- What a refusal leaves in the log. -/
def Refusal.lines : Refusal → List LogLine
  | failure (.text message) => [⟨.error, message⟩]
  | _ => []

namespace Attempt

/-- The call made on a mux. -/
def perform (id : MuxId) : Attempt A → Site.Change A S (Except Refusal Unit)
  | tryHandle source methods e =>
    return (← Site.tryHandle id source methods e).mapError .pattern
  | handle source methods e => return (← Site.handle id source methods e).mapError .failure
  | insert m before => return (← Site.insert id m before).mapError .layer
  | abandon name => return (← Site.abandon id name).mapError .layer

/-- The call is wrong on a mux with the given layers: the pattern is a text with a flaw, or no layer
has the name. -/
inductive RefusedFor (layers : List (Middleware A)) : Attempt A → Refusal → Prop
  | tryHandle {raw : String} {flaw : Placeholder.Flaw} (methods : MethodSet) (e : Endpoint A)
      (h : Placeholder.parse raw = .error flaw) :
      RefusedFor layers (.tryHandle (.text raw) methods e) (.pattern ⟨raw, flaw⟩)
  | handle {raw : String} {flaw : Placeholder.Flaw} (methods : MethodSet) (e : Endpoint A)
      (h : Placeholder.parse raw = .error flaw) :
      RefusedFor layers (.handle (.text raw) methods e)
        (.failure (.text (PatternError.message ⟨raw, flaw⟩)))
  | insert (m : Middleware A) {before : String} (h : ∀ x ∈ layers, x.name ≠ before) :
      RefusedFor layers (.insert m before) (.layer ⟨before⟩)
  | abandon {name : String} (h : ∀ x ∈ layers, x.name ≠ name) :
      RefusedFor layers (.abandon name) (.layer ⟨name⟩)

end Attempt

end Mux

/-- A result is an error after its errors are translated if it was one before, and the translation
of that one. -/
theorem mapError_eq_error {α ε ε' : Type} {f : ε → ε'} {result : Except ε α} {e : ε'} :
    result.mapError f = .error e ↔ ∃ err, result = .error err ∧ f err = e := by
  cases result <;> simp [Except.mapError]

/-- A text with a flaw gives the error that names the text and the flaw. -/
theorem PatternSource.resolve_text_of_error {View : Type} {raw : String} {flaw : Placeholder.Flaw}
    (h : Placeholder.parse raw = .error flaw) :
    (text raw : PatternSource View).resolve = .error ⟨raw, flaw⟩ := by
  rw [resolve, h]

/-- Only a text can have a flaw. -/
theorem PatternSource.resolve_eq_error {View : Type} {source : PatternSource View}
    {err : PatternError} (h : source.resolve = .error err) :
    source = .text err.raw ∧ Placeholder.parse err.raw = .error err.flaw := by
  cases source with
  | text raw =>
    rw [resolve] at h
    split at h
    · cases h
    · rename_i flaw hparse
      cases h
      exact ⟨rfl, hparse⟩
  | ready p => cases h

/-- A name has no place in a stack if and only if no layer has it. -/
theorem Stack.position?_eq_none {s : Stack A} {name : String} :
    s.position? name = none ↔ ∀ x ∈ s.layers, x.name ≠ name := by
  simp [position?, names]

/-- A layer cannot be put in front of a name that no layer has, and there is no other reason. -/
theorem Stack.insert_eq_error {s : Stack A} {m : Middleware A} {before : String}
    {e : UnknownLayer} :
    s.insert m before = .error e ↔ (∀ x ∈ s.layers, x.name ≠ before) ∧ e = ⟨before⟩ := by
  rw [← position?_eq_none, insert]
  cases s.position? before <;> simp [eq_comm]

/-- A layer cannot be taken out by a name that no layer has, and there is no other reason. -/
theorem Stack.abandon_eq_error {s : Stack A} {name : String} {e : UnknownLayer} :
    s.abandon name = .error e ↔ (∀ x ∈ s.layers, x.name ≠ name) ∧ e = ⟨name⟩ := by
  rw [← position?_eq_none, abandon]
  cases s.position? name <;> simp [eq_comm]

namespace Site

variable {s s' : Site A S} {id : MuxId}

/-- A registration returns the error of its pattern, if it has one. -/
theorem tryHandle_eq_error {source : PatternSource A.View} {methods : MethodSet} {e : Endpoint A}
    {err : PatternError} :
    ((tryHandle id source methods e).run s).1 = .error err ↔ source.resolve = .error err := by
  rw [tryHandle]
  cases source.resolve with
  | ok pattern =>
    -- The route is added, which cannot fail.
    show Except.ok () = .error err ↔ _
    simp
  | error err' =>
    show Except.error err' = .error err ↔ _
    simp

/-- A registration that may not return errors fails with the text of the error. -/
theorem handle_eq_error {source : PatternSource A.View} {methods : MethodSet} {e : Endpoint A}
    {f : Failure} :
    ((Site.handle id source methods e).run s).1 = .error f
      ↔ ∃ err, source.resolve = .error err ∧ .text err.message = f := by
  rw [Site.handle, tryHandle]
  cases source.resolve with
  | ok pattern =>
    show Except.ok () = .error f ↔ _
    simp
  | error err =>
    show Except.error (Failure.text err.message) = .error f ↔ _
    simp

/-- A change of the layers is refused if it is refused for the stack that the mux has. -/
theorem tryStack_eq_error {f : Stack A → Except UnknownLayer (Stack A)} {e : UnknownLayer} :
    ((tryStack id f).run s).1 = .error e ↔ f (s.mux id).stack = .error e := by
  cases hf : f (s.mux id).stack with
  | ok stack => simp [tryStack, hf]
  | error err =>
    have hresult : ((tryStack id f).run s).1 = .error err := by
      simp [tryStack, hf]
      rfl
    simp [hresult]

/-- A layer cannot be put into a mux in front of a name that no layer of the mux has. -/
theorem insert_eq_error {m : Middleware A} {before : String} {e : UnknownLayer} :
    ((Site.insert id m before).run s).1 = .error e
      ↔ (∀ x ∈ (s.mux id).stack.layers, x.name ≠ before) ∧ e = ⟨before⟩ := by
  rw [← Stack.insert_eq_error (m := m)]
  exact tryStack_eq_error (f := fun stack => stack.insert m before)

/-- A layer cannot be taken out of a mux by a name that no layer of the mux has. -/
theorem abandon_eq_error {name : String} {e : UnknownLayer} :
    ((Site.abandon id name).run s).1 = .error e
      ↔ (∀ x ∈ (s.mux id).stack.layers, x.name ≠ name) ∧ e = ⟨name⟩ := by
  rw [← Stack.abandon_eq_error]
  exact tryStack_eq_error (f := fun stack => stack.abandon name)

/-- A call is refused exactly for these reasons. -/
theorem perform_eq_error {x : Mux.Attempt A} {refusal : Mux.Refusal} :
    ((x.perform id).run s).1 = .error refusal ↔ x.RefusedFor (s.mux id).stack.layers refusal := by
  -- One case for each call. From left to right the error tells the reason; from right to left there
  -- is only one reason that fits the call.
  cases x with
  | tryHandle source methods e =>
    show ((Site.tryHandle id source methods e).run s).1.mapError _ = _ ↔ _
    rw [mapError_eq_error]
    constructor
    · rintro ⟨err, herr, rfl⟩
      obtain ⟨rfl, hflaw⟩ := PatternSource.resolve_eq_error (tryHandle_eq_error.mp herr)
      exact .tryHandle methods e hflaw
    · intro h
      cases h with
      | tryHandle _ _ hflaw =>
        exact ⟨_, tryHandle_eq_error.mpr (PatternSource.resolve_text_of_error hflaw), rfl⟩
  | handle source methods e =>
    show ((Site.handle id source methods e).run s).1.mapError _ = _ ↔ _
    rw [mapError_eq_error]
    constructor
    · rintro ⟨f, hf, rfl⟩
      obtain ⟨err, herr, rfl⟩ := handle_eq_error.mp hf
      obtain ⟨rfl, hflaw⟩ := PatternSource.resolve_eq_error herr
      exact .handle methods e hflaw
    · intro h
      cases h with
      | handle _ _ hflaw =>
        exact ⟨_, handle_eq_error.mpr ⟨_, PatternSource.resolve_text_of_error hflaw, rfl⟩, rfl⟩
  | insert m before =>
    show ((Site.insert id m before).run s).1.mapError _ = _ ↔ _
    rw [mapError_eq_error]
    constructor
    · rintro ⟨err, herr, rfl⟩
      obtain ⟨hnone, rfl⟩ := insert_eq_error.mp herr
      exact .insert m hnone
    · intro h
      cases h with
      | insert _ hnone => exact ⟨_, insert_eq_error.mpr ⟨hnone, rfl⟩, rfl⟩
  | abandon name =>
    show ((Site.abandon id name).run s).1.mapError _ = _ ↔ _
    rw [mapError_eq_error]
    constructor
    · rintro ⟨err, herr, rfl⟩
      obtain ⟨hnone, rfl⟩ := abandon_eq_error.mp herr
      exact .abandon hnone
    · intro h
      cases h with
      | abandon hnone => exact ⟨_, abandon_eq_error.mpr ⟨hnone, rfl⟩, rfl⟩

/-- A call that is refused changes nothing but the log. -/
theorem perform_refused {x : Mux.Attempt A} {refusal : Mux.Refusal}
    (h : x.RefusedFor (s.mux id).stack.layers refusal) :
    ((x.perform id).run s).2 = { s with log := refusal.lines ++ s.log } := by
  cases h with
  | tryHandle methods e hflaw =>
    rw [Mux.Attempt.perform, tryHandle, PatternSource.resolve_text_of_error hflaw]
    rfl
  | handle methods e hflaw =>
    rw [Mux.Attempt.perform, Site.handle, tryHandle, PatternSource.resolve_text_of_error hflaw]
    rfl
  | insert m hnone =>
    -- The error comes before anything is written, so not even the log is longer.
    exact tryStack_error (f := fun stack => stack.insert m _)
      (Stack.insert_eq_error.mpr ⟨hnone, rfl⟩)
  | abandon hnone =>
    exact tryStack_error (f := fun stack => stack.abandon _)
      (Stack.abandon_eq_error.mpr ⟨hnone, rfl⟩)

/-! ### Changes that ignore the log -/

/-- The site with an empty log. -/
def unlogged (s : Site A S) : Site A S := { s with log := [] }

/-- The change does the same whatever is in the log. It may write to it. -/
def IgnoresLog {α : Type} (m : Change A S α) : Prop :=
  ∀ s s' : Site A S, s.unlogged = s'.unlogged →
    (m.run s).1 = (m.run s').1 ∧ (m.run s).2.unlogged = (m.run s').2.unlogged

/-- Changes that ignore the log can be made one after the other. -/
def ignoringLog : Correspondence (Change A S) (Change A S) where
  rel m _ := IgnoresLog m
  pure _ _ _ h := ⟨rfl, h⟩
  bind {_ _ m _ f _} hm hf s s' h := by
    -- The first change returns the same on both sites, so the second one is the same on both.
    obtain ⟨hresult, hafter⟩ := hm s s' h
    show ((f (m.run s).1).run (m.run s).2).1 = ((f (m.run s').1).run (m.run s').2).1
      ∧ Site.unlogged _ = ((f (m.run s').1).run (m.run s').2).2.unlogged
    rw [← hresult]
    exact hf (m.run s).1 _ _ hafter

/-- Two changes in a row ignore the log if both do. -/
theorem IgnoresLog.bind {α β : Type} {m : Change A S α} {f : α → Change A S β}
    (hm : IgnoresLog m) (hf : ∀ a, IgnoresLog (f a)) : IgnoresLog (m >>= f) :=
  ignoringLog.bind (n := m) (g := f) hm hf

/-- Doing nothing ignores the log. -/
theorem ignoresLog_pure {α : Type} (a : α) : IgnoresLog (pure a : Change A S α) :=
  ignoringLog.pure a

/-- What is read of a site must not be in its log. -/
theorem ignoresLog_get {α : Type} {f : Site A S → Change A S α} (hread : ∀ s, f s = f s.unlogged)
    (hf : ∀ s, IgnoresLog (f s)) : IgnoresLog (get >>= f) := by
  intro s s' h
  -- What is done next depends on the site without its log, which is the same on both sides.
  have hsame : f s = f s' := by rw [hread s, hread s', h]
  show ((f s).run s).1 = ((f s').run s').1 ∧ Site.unlogged _ = ((f s').run s').2.unlogged
  rw [← hsame]
  exact hf s s s' h

/-- A change of the site ignores the log if, up to the log, it does the same on a site without
one. -/
theorem ignoresLog_modify {f : Site A S → Site A S}
    (hf : ∀ s, (f s).unlogged = (f s.unlogged).unlogged) :
    IgnoresLog (modify f : Change A S Unit) := by
  intro s s' h
  refine ⟨rfl, ?_⟩
  show (f s).unlogged = (f s').unlogged
  rw [hf s, hf s', h]

/-- Writing a line ignores what is in the log already. -/
theorem ignoresLog_report (line : LogLine) : IgnoresLog (report line : Change A S Unit) :=
  ignoresLog_modify fun _ => rfl

/-- A change of the stack of a mux does not look at the log. -/
theorem ignoresLog_modifyStack (id : MuxId) (f : Stack A → Stack A) :
    IgnoresLog (modifyStack id f : Change A S Unit) :=
  ignoresLog_modify fun _ => rfl

/-- A change of the router of a mux does not look at the log. -/
theorem ignoresLog_modifyRouter (id : MuxId) (f : Router A → Router A) :
    IgnoresLog (modifyRouter id f : Change A S Unit) :=
  ignoresLog_modify fun _ => rfl

/-- Compiling a table looks at the routes only. It writes a line. -/
theorem ignoresLog_compile (id : MuxId) : IgnoresLog (compile id : Change A S Unit) :=
  (ignoresLog_modifyRouter id _).bind fun _ =>
    ignoresLog_get (fun _ => rfl) fun _ => ignoresLog_report _

/-- Compiling a table only where it is not compiled yet does not look at the log either. -/
theorem ignoresLog_prepare (id : MuxId) : IgnoresLog (prepare id : Change A S Unit) := by
  refine ignoresLog_get (fun _ => rfl) fun s => ?_
  split
  · exact ignoresLog_compile id
  · exact ignoresLog_pure ()

/-- A change of the layers that may be refused ignores the log, refused or not. -/
theorem ignoresLog_tryStack (id : MuxId) (f : Stack A → Except UnknownLayer (Stack A)) :
    IgnoresLog (tryStack id f : Change A S _) := by
  refine ignoresLog_get (fun _ => rfl) fun s => ?_
  -- It is refused, or it is made and the new list of layers goes to the log.
  split
  · exact ignoresLog_pure _
  · exact (ignoresLog_modifyStack id _).bind fun _ =>
      (ignoresLog_report _).bind fun _ => ignoresLog_pure _

/-- A registration ignores the log, whether its pattern has a flaw or not. -/
theorem ignoresLog_tryHandle (id : MuxId) (source : PatternSource A.View) (methods : MethodSet)
    (e : Endpoint A) : IgnoresLog (tryHandle id source methods e : Change A S _) := by
  rw [tryHandle]
  split
  · exact ignoresLog_pure _
  · exact ((ignoresLog_report _).bind fun _ => ignoresLog_modifyRouter id _).bind fun _ =>
      ignoresLog_pure _

/-- All steps of the configuration ignore the log. -/
theorem ignoresLog_setup (id : MuxId) (x : Mux.Setup A) :
    IgnoresLog (x.perform id : Change A S Unit) := by
  -- The one step that writes two kinds of lines is the registration: one if a route is added, and
  -- another one if its pattern has a flaw.
  cases x with
  | handle source methods e =>
    refine IgnoresLog.bind ((ignoresLog_tryHandle id source methods e).bind fun result => ?_)
      fun _ => ignoresLog_pure _
    cases result with
    | ok _ => exact ignoresLog_pure _
    | error err => exact (ignoresLog_report _).bind fun _ => ignoresLog_pure _
  | notFound e => exact ignoresLog_modifyRouter id _
  | use m =>
    exact (ignoresLog_modifyStack id _).bind fun _ =>
      ignoresLog_get (fun _ => rfl) fun _ => ignoresLog_report _
  | insert m before => exact (ignoresLog_tryStack id _).bind fun _ => ignoresLog_pure _
  | abandon name => exact (ignoresLog_tryStack id _).bind fun _ => ignoresLog_pure _

/-- Which chain is given out does not depend on the log. -/
theorem ignoresLog_alloc (id : MuxId) : IgnoresLog (alloc id : Change A S (Chain A)) :=
  ignoresLog_get (fun _ => rfl) fun _ =>
    (ignoresLog_modifyStack id _).bind fun _ => ignoresLog_pure _

/-- Whether a chain is kept does not depend on the log. -/
theorem ignoresLog_release (id : MuxId) (ch : Chain A) :
    IgnoresLog (release id ch : Change A S Unit) := by
  refine ignoresLog_get (fun _ => rfl) fun s => ?_
  dsimp only
  -- The chain is kept, or it is dropped and a line says so.
  split
  · exact ignoresLog_modifyStack id _
  · exact ignoresLog_report _

/-- Request IDs are issued by a count that is not in the log. -/
theorem ignoresLog_freshId (app : (q : A.Ask) → Change A S (A.Answer q))
    (serve : MuxId → Server (Change A S)) : IgnoresLog (Site.answer app serve .freshId) :=
  IgnoresLog.bind (ignoresLog_modify fun _ => rfl) fun _ =>
    ignoresLog_get (fun _ => rfl) fun _ => ignoresLog_pure _

variable {app : (q : A.Ask) → Change A S (A.Answer q)}

/-- All questions of handlers are answered whatever is in the log, if the application and the muxes
ignore it. -/
theorem ignoresLog_answer (happ : ∀ q, IgnoresLog (app q)) {serve : MuxId → Server (Change A S)}
    (hserve : ∀ id c r, IgnoresLog (serve id c r)) (q : Question A) :
    IgnoresLog (Site.answer app serve q) := by
  cases q with
  | log line => exact ignoresLog_report line
  | freshId => exact ignoresLog_freshId app serve
  | elapsed => exact ignoresLog_get (fun _ => rfl) fun _ => ignoresLog_pure _
  | serve id c r => exact hserve id c r
  | app q => exact happ q

/-- Serving on a chain ignores the log if the answers to its questions do. -/
theorem ignoresLog_serveOn {answer : (q : Question A) → Change A S q.Answer}
    (h : ∀ q, IgnoresLog (answer q)) (ch : Chain A) (c : Context) (r : Request) :
    IgnoresLog (serveOn answer ch c r) := by
  -- The scripts are the same on both sides, so it is enough that their questions are answered
  -- alike.
  have hrun : ∀ script : Script A Empty Empty Served,
      ignoringLog.rel (script.run (fun i => i.elim) answer) (script.run (fun i => i.elim) answer) :=
    fun script => ignoringLog.run (fun i => i.elim) (fun q _ => h q) script.asksOnly_true
  have hroute : ignoringLog.Servers (route answer ch.inner) (route answer ch.inner) := fun c r =>
    (ignoresLog_prepare ch.inner).bind fun _ => ignoresLog_get (fun _ => rfl) fun s => hrun _
  have hserve : ignoringLog.rel (serveOn answer ch c r) (serveOn answer ch c r) :=
    hroute.chainServe (fun q _ => h q) (fun m _ => m.layer.asksOnly_true) c r
  exact hserve

/-- Whatever is in the log, requests are served alike. -/
theorem ignoresLog_serve (happ : ∀ q, IgnoresLog (app q)) (depth : Nat) (id : MuxId) (c : Context)
    (r : Request) : IgnoresLog (Site.serve app depth id c r) := by
  -- A handler may put the request on another mux, which is served with less depth.
  induction depth generalizing id c r with
  | zero => exact ignoresLog_pure _
  | succ depth ih =>
    have hserveOn := ignoresLog_serveOn (ignoresLog_answer happ ih)
    refine (ignoresLog_alloc id).bind fun ch => (hserveOn ch c r).bind fun ⟨served, ch⟩ => ?_
    obtain ⟨context, outcome⟩ := served
    cases outcome with
    | response _ => exact (ignoresLog_release id ch).bind fun _ => ignoresLog_pure _
    | failure _ => exact ignoresLog_pure _

/-! ### What happens later -/

namespace World

/-- The worlds differ in nothing but their logs. -/
structure UpToLog (w w' : World A S) : Prop where
  site : w.site.unlogged = w'.site.unlogged
  out : w.out = w'.out

variable {w w' : World A S}

/-- A change that ignores the log, made on both sites. -/
theorem UpToLog.run {α : Type} (h : w.UpToLog w') {m : Change A S α} (hm : IgnoresLog m)
    (out : α → List (Chain A)) :
    UpToLog ⟨(m.run w.site).2, out (m.run w.site).1⟩
      ⟨(m.run w'.site).2, out (m.run w'.site).1⟩ := by
  obtain ⟨hresult, hafter⟩ := hm _ _ h.site
  exact ⟨hafter, congrArg out hresult⟩

/-- One more move leads to worlds that differ in nothing else. -/
theorem UpToLog.afterMove (h : w.UpToLog w') (happ : ∀ q, IgnoresLog (app q)) (x : Move A) :
    (w.afterMove app x).UpToLog (w'.afterMove app x) := by
  obtain ⟨s, out⟩ := w
  obtain ⟨s', out'⟩ := w'
  obtain rfl : out = out' := h.out
  -- The same chains are out on both sides. So a move that names one of them names the same one
  -- twice, or none at all and does nothing.
  cases x with
  | act a =>
    cases a with
    | setup id x => exact h.run (ignoresLog_setup id x) fun _ => out
    | traffic t =>
      cases t with
      | compile id => exact h.run (ignoresLog_compile id) fun _ => out
      | serve depth id c r => exact h.run (ignoresLog_serve happ depth id c r) fun _ => out
      | alloc id => exact h.run (ignoresLog_alloc id) fun ch => ch :: out
      | serveOn depth i c r =>
        cases hi : out[i]? with
        | none => simpa [World.afterMove, World.after, afterTraffic, hi] using h
        | some ch =>
          have hanswer := ignoresLog_answer happ (ignoresLog_serve happ depth)
          have hserve := ignoresLog_serveOn hanswer ch c r
          simpa [World.afterMove, World.after, afterTraffic, hi] using
            h.run hserve fun served => out.set i served.2
      | release i =>
        cases hi : out[i]? with
        | none => simpa [World.afterMove, World.after, afterTraffic, hi] using h
        | some ch =>
          simpa [World.afterMove, World.after, afterTraffic, hi] using
            h.run (ignoresLog_release ch.inner ch) fun _ => out.eraseIdx i
  | give i id =>
    cases hi : out[i]? with
    | none => simpa [World.afterMove, hi] using h
    | some ch =>
      simpa [World.afterMove, hi] using
        h.run (ignoresLog_release id ch) fun _ => out.eraseIdx i

/-- No number of moves brings out a difference in the logs. -/
theorem UpToLog.runMoves (h : w.UpToLog w') (happ : ∀ q, IgnoresLog (app q))
    (moves : List (Move A)) : (w.runMoves app moves).UpToLog (w'.runMoves app moves) := by
  induction moves generalizing w w' with
  | nil => exact h
  | cons x moves ih => exact ih (h.afterMove happ x)

/-- A call is refused exactly if its pattern has a flaw or no layer has the name that it gives. Then
the muxes are as they were, each with its routes, their compiled form, its layers, its generation
and its idle chains. So is the rest of the site, but for the lines that the refusal leaves in the
log. After whatever happens next, both with the refused call before it and without, the same chains
are out, the sites differ in nothing but their logs, and the next request ends alike. -/
theorem refused_without_trace (happ : ∀ q, IgnoresLog (app q)) (w : World A S) (id : MuxId)
    (x : Mux.Attempt A) (refusal : Mux.Refusal) :
    let tried := (x.perform id).run w.site
    (tried.1 = .error refusal ↔ x.RefusedFor (w.site.mux id).stack.layers refusal)
      ∧ (tried.1 = .error refusal →
        tried.2 = { w.site with log := refusal.lines ++ w.site.log }
          ∧ ∀ later : List (Move A),
            let refused := World.runMoves app ⟨tried.2, w.out⟩ later
            let untried := w.runMoves app later
            refused.out = untried.out ∧ refused.site.unlogged = untried.site.unlogged
              ∧ ∀ depth j c r, ((Site.serve app depth j c r).run refused.site).1
                  = ((Site.serve app depth j c r).run untried.site).1) := by
  intro tried
  refine ⟨perform_eq_error, fun herror => ?_⟩
  have hsite : tried.2 = { w.site with log := refusal.lines ++ w.site.log } :=
    perform_refused (perform_eq_error.mp herror)
  refine ⟨hsite, fun later => ?_⟩
  -- The refused call has left lines in the log and nothing else, so the two worlds differ in their
  -- logs alone, and this is what all later moves preserve.
  have hnow : UpToLog ⟨tried.2, w.out⟩ w := ⟨by rw [hsite]; rfl, rfl⟩
  have hlater := hnow.runMoves happ later
  exact ⟨hlater.out, hlater.site, fun depth j c r =>
    (ignoresLog_serve happ depth j c r _ _ hlater.site).1⟩

/-- Mux 0 has served a request with a layer, and its next handler changes the layers of mux 1. -/
def warm : List (Move asking) :=
  [.act (.setup 0 (.use noop)),
    .act (.traffic (.serve 1 0 Context.empty rootRequest)),
    .act (.setup 0 (.notFound askingHandler))]

/-- The registration of a route with a placeholder that has no name. -/
def unnamed : Mux.Attempt asking := .handle (.text "/:") (MethodSet.of .get) askingHandler

/-- What comes back from it. -/
def unnamedRefusal : Mux.Refusal := .failure (.text (PatternError.message ⟨"/:", .unnamed 1⟩))

/-- The registration is refused. The mux keeps its compiled table and its idle chain, and the
next request is served as if there had been no registration. -/
theorem refused_unnamed :
    (∀ q, IgnoresLog (reconfigure q))
      ∧ let site := ((start [1, 1] "" "" () ()).runMoves reconfigure warm).site
        let tried := (unnamed.perform 0).run site
        tried.1 = .error unnamedRefusal
          ∧ (tried.2.mux 0).router.machine.isSome ∧ (tried.2.mux 0).stack.idle.length = 1
          ∧ ((Site.serve reconfigure 1 0 Context.empty rootRequest).run tried.2).1
              = ((Site.serve reconfigure 1 0 Context.empty rootRequest).run site).1 := by
  have happ : ∀ q, IgnoresLog (reconfigure q) := fun _ => ignoresLog_setup 1 (.use _)
  let w := (start [1, 1] "" "" () ()).runMoves reconfigure warm
  obtain ⟨hrefused, htrace⟩ := refused_without_trace happ w 0 unnamed unnamedRefusal
  have hflaw : Placeholder.parse "/:" = .error (.unnamed 1) := by decide +kernel
  have herror : ((unnamed.perform 0).run w.site).1 = .error unnamedRefusal :=
    hrefused.mpr (.handle _ _ hflaw)
  obtain ⟨hsite, hlater⟩ := htrace herror
  refine ⟨happ, herror, ?_, ?_, (hlater []).2.2 1 0 Context.empty rootRequest⟩
  · rw [hsite]
    decide +kernel
  · rw [hsite]
    decide +kernel

end World

end Site

end HttpMux
