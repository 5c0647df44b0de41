import HttpMux.Proofs.Route.Precedence
import HttpMux.Proofs.Route.ValidMethods
import HttpMux.Proofs.Script.Correspondence
import HttpMux.Proofs.Stack.Barrier

/-!
# `HttpMux.Proofs.Site.Settled`: sites behind a plan

A plan is what one would write down of the configuration of a site: the routes of each mux in the
order of their registration, its handler for the rest and its layers. A site is settled on a plan if
every mux has the routes, the handler and the layers of the plan, and whatever else has happened to
it shows in nothing but which chains are idle or out, whether the tables are compiled, the log and
the state of the application.

* `Mux.Setup` and `Mux.Plan.after`: one step of the configuration, and the plan after it.
* `Site.Settled`: what ties a site to its plan and to the chains that are out.
* `Site.Settled.setup`: a step of the configuration, on both sides.
* `Site.Settled.alloc`, `Site.Settled.release` and `Site.Settled.prepare`: what happens otherwise.
-/

set_option autoImplicit false

namespace HttpMux

variable {A : App} {S : Type}

/-- The question has the same answer whenever it is put. A request ID is a new one each time. -/
def Question.Stateless : Question A → Prop
  | freshId => False
  | log _ => True
  | elapsed => True
  | serve .. => True
  | app _ => True

/-- What holds of all layers still does after a change at the first one of a name that keeps it. -/
theorem Stack.forall_changeFirst {P : Middleware A → Prop} {name : String}
    {f : Middleware A → List (Middleware A) → List (Middleware A)}
    (hf : ∀ x xs, (∀ m ∈ x :: xs, P m) → ∀ m ∈ f x xs, P m) {layers : List (Middleware A)}
    (h : ∀ m ∈ layers, P m) : ∀ m ∈ (changeFirst name f layers).getD layers, P m := by
  cases hchanged : changeFirst name f layers with
  | none => exact h
  | some changed =>
    show ∀ m ∈ changed, P m
    -- The change is made somewhere along the list, so the induction walks up to that place.
    induction layers generalizing changed with
    | nil => cases hchanged
    | cons x xs ih =>
      rw [changeFirst] at hchanged
      split at hchanged
      · cases hchanged
        exact hf x xs h
      · obtain ⟨rest, hrest, rfl⟩ := Option.map_eq_some_iff.mp hchanged
        have hxs := ih (fun m hm => h m (List.mem_cons_of_mem x hm)) rest hrest
        intro m hm
        rcases List.mem_cons.mp hm with rfl | hm
        · exact h m List.mem_cons_self
        · exact hxs m hm

/-! ### Plans -/

namespace Mux

/-- One step of the configuration of a mux: a route is registered, the handler for the rest is
replaced, or the layers change. -/
inductive Setup (A : App)
  | handle (source : PatternSource A.View) (methods : MethodSet) (e : Endpoint A)
  | notFound (e : Endpoint A)
  | use (m : Middleware A)
  | insert (m : Middleware A) (before : String)
  | abandon (name : String)

/-- The step performed on a mux. -/
def Setup.perform (id : MuxId) : Setup A → Site.Change A S Unit
  | handle source methods e => do
    let _ ← Site.handle id source methods e
    return ()
  | notFound e => Site.setNotFound id e
  | use m => Site.use id m
  | insert m before => do
    let _ ← Site.insert id m before
    return ()
  | abandon name => do
    let _ ← Site.abandon id name
    return ()

/-- The handlers and layers that the step brings in keep nothing between requests. -/
def Setup.Stateless : Setup A → Prop
  | handle _ _ e => e.AsksOnly Question.Stateless
  | notFound e => e.AsksOnly Question.Stateless
  | use m => m.layer.AsksOnly Question.Stateless
  | insert m _ => m.layer.AsksOnly Question.Stateless
  | abandon _ => True

/-- The routes of a mux in the order of their registration, its handler for the rest, and its
layers, outermost first. -/
structure Plan (A : App) extends Router.Plan A where
  layers : List (Middleware A)

namespace Plan

/-- The plan of a mux that nothing has been set on. -/
def new : Plan A := { (Router.Plan.new : Router.Plan A) with layers := [] }

/-- The plan after one more step. A registration with a flaw in its pattern and a change at a layer
that is not there leave it as it is. -/
def after (plan : Plan A) : Setup A → Plan A
  | .handle source methods e =>
    match source.resolve with
    | .ok pattern => { plan with registered := plan.registered ++ [⟨pattern, methods, e⟩] }
    | .error _ => plan
  | .notFound e => { plan with fallback := e }
  | .use m => { plan with layers := plan.layers ++ [m] }
  | .insert m before =>
    { plan with layers := (Stack.insertBefore m before plan.layers).getD plan.layers }
  | .abandon name => { plan with layers := (Stack.removeFirst name plan.layers).getD plan.layers }

/-- The handlers and layers of the plan keep nothing between requests. -/
structure Stateless (plan : Plan A) : Prop where
  registered : ∀ x ∈ plan.registered, x.endpoint.AsksOnly Question.Stateless
  fallback : plan.fallback.AsksOnly Question.Stateless
  layers : ∀ m ∈ plan.layers, m.layer.AsksOnly Question.Stateless

/-- An empty plan has nothing that could keep something. -/
theorem stateless_new : (new : Plan A).Stateless :=
  ⟨nofun, fun _ => trivial, nofun⟩

/-- A step that brings in nothing that keeps something leaves the plan so. -/
theorem Stateless.after {plan : Plan A} (h : plan.Stateless) {x : Setup A} (hx : x.Stateless) :
    (plan.after x).Stateless := by
  -- Each step brings in at most one handler or layer, and the rest of the plan is as before.
  cases x with
  | handle source methods e =>
    rw [Plan.after]
    split
    · refine ⟨fun y hy => ?_, h.fallback, h.layers⟩
      rcases List.mem_append.mp hy with hy | hy
      · exact h.registered y hy
      · rw [List.mem_singleton.mp hy]
        exact hx
    · exact h
  | notFound e => exact ⟨h.registered, hx, h.layers⟩
  | use m =>
    refine ⟨h.registered, h.fallback, fun y hy => ?_⟩
    rcases List.mem_append.mp hy with hy | hy
    · exact h.layers y hy
    · rw [List.mem_singleton.mp hy]
      exact hx
  | insert m before =>
    refine ⟨h.registered, h.fallback, Stack.forall_changeFirst (fun y ys hys z hz => ?_) h.layers⟩
    rcases List.mem_cons.mp hz with rfl | hz
    · exact hx
    · exact hys z hz
  | abandon name =>
    exact ⟨h.registered, h.fallback, Stack.forall_changeFirst
      (fun y ys hys z hz => hys z (List.mem_cons_of_mem y hz)) h.layers⟩

end Plan

/-- A mux that is as its plan says. Its idle chains are those of its present layers. -/
structure Settled (id : MuxId) (plan : Plan A) (m : Mux A) : Prop where
  order : m.router.Ordered plan.registered
  fallback : m.router.notFound = plan.fallback
  layers : m.stack.layers = plan.layers
  inner : m.stack.inner = id
  idle : ∀ ch ∈ m.stack.idle, Stack.World.Kept m.stack ch

/-- A new mux is as the empty plan says. -/
theorem settled_new (id : MuxId) (capacity : Nat) : (Mux.new id capacity : Mux A).Settled id .new :=
  ⟨Router.ordered_new, rfl, rfl, rfl, nofun⟩

end Mux

namespace Site

/-- What is written down of a site: the plans of its muxes, what patterns can see, and how the log
writes a time span. -/
structure Plan (A : App) where
  muxes : List (Mux.Plan A)
  view : A.View
  elapsed : String

namespace Plan

/-- The plan of the mux of the given number; an empty one if there is none. -/
def mux (p : Plan A) (id : MuxId) : Mux.Plan A := (p.muxes[id]?).getD Mux.Plan.new

/-- Another plan for one mux. -/
def setMux (p : Plan A) (id : MuxId) (plan : Mux.Plan A) : Plan A :=
  { p with muxes := p.muxes.set id plan }

/-- The handlers and layers of all muxes keep nothing between requests. -/
def Stateless (p : Plan A) : Prop := ∀ id, (p.mux id).Stateless

end Plan

/-- A chain that is out: it runs the layers of its generation, and they keep nothing between
requests. -/
structure Out (s : Site A S) (ch : Chain A) : Prop where
  lent : Stack.World.Lent (s.mux ch.inner).stack ⟨ch, ch.layers, ch.generation⟩
  stateless : ∀ m ∈ ch.layers, m.layer.AsksOnly Question.Stateless

/-- What ties a site to its plan and to the chains that are out. -/
structure Settled (s : Site A S) (p : Plan A) (out : List (Chain A)) : Prop where
  view : s.view = p.view
  elapsed : s.elapsed = p.elapsed
  count : s.muxes.length = p.muxes.length
  mux : ∀ id, (s.mux id).Settled id (p.mux id)
  out : ∀ ch ∈ out, s.Out ch

variable {s : Site A S} {p : Plan A} {out : List (Chain A)} {id : MuxId}

/-! ### Replacing a mux -/

/-- A member of a list in which one was replaced is the new one at its place, and as before
elsewhere. A place outside the list has the default, before and after. -/
theorem getD_set {α : Type} (xs : List α) (i j : Nat) (x y : α) :
    ((xs.set i x)[j]?).getD y = if i = j ∧ i < xs.length then x else (xs[j]?).getD y := by
  rw [List.getElem?_set]
  by_cases hij : i = j
  · subst hij
    by_cases hlt : i < xs.length
    · simp [hlt]
    · simp [hlt]
  · simp [hij]

/-- Replacing a member by itself changes nothing, also where the list has no member. -/
theorem set_getD_self {α : Type} (xs : List α) (i : Nat) (y : α) :
    xs.set i ((xs[i]?).getD y) = xs := by
  by_cases hlt : i < xs.length
  · rw [List.getElem?_eq_getElem hlt, Option.getD_some, List.set_getElem_self]
  · exact List.set_eq_of_length_le (Nat.le_of_not_lt hlt)

/-- A mux of a site in which one was replaced is the new one at its number, if there is a mux of
that number, and as before elsewhere. -/
theorem mux_setMux_eq (s : Site A S) (id : MuxId) (m : Mux A) (j : MuxId) :
    (s.setMux id m).mux j = if id = j ∧ id < s.muxes.length then m else s.mux j :=
  getD_set ..

/-- A mux of a plan in which one was replaced is the new one at its number, if there is a mux of
that number, and as before elsewhere. -/
theorem Plan.mux_setMux_eq (p : Plan A) (id : MuxId) (plan : Mux.Plan A) (j : MuxId) :
    (p.setMux id plan).mux j = if id = j ∧ id < p.muxes.length then plan else p.mux j :=
  getD_set ..

/-- Replacing a mux by itself changes nothing. -/
theorem setMux_mux (s : Site A S) (id : MuxId) : s.setMux id (s.mux id) = s := by
  rw [setMux, mux, set_getD_self]

/-- Replacing the plan of a mux by itself changes nothing. -/
theorem Plan.setMux_mux (p : Plan A) (id : MuxId) : p.setMux id (p.mux id) = p := by
  rw [setMux, mux, set_getD_self]

/-- A site is settled on another plan for a mux when the mux is, and the chains of the mux that are
out stay as they are. -/
theorem Settled.setMux (h : s.Settled p out) {m : Mux A} {plan : Mux.Plan A}
    (hm : m.Settled id plan)
    (hout : ∀ loan, Stack.World.Lent (s.mux id).stack loan → Stack.World.Lent m.stack loan) :
    (s.setMux id m).Settled (p.setMux id plan) out := by
  -- What is left: the number of muxes, each mux, and the chains that are out, which need only be
  -- looked at if they are of the replaced mux.
  refine ⟨h.view, h.elapsed, ?_, fun j => ?_, fun ch hch => ⟨?_, (h.out ch hch).stateless⟩⟩
  · show (s.muxes.set id m).length = (p.muxes.set id plan).length
    rw [List.length_set, List.length_set, h.count]
  · rw [mux_setMux_eq, Plan.mux_setMux_eq, h.count]
    split
    · rename_i hj
      exact hj.1 ▸ hm
    · exact h.mux j
  · rw [mux_setMux_eq]
    split
    · rename_i hj
      exact hout _ (hj.1 ▸ (h.out ch hch).lent)
    · exact (h.out ch hch).lent

/-- A mux may be replaced by one that is settled for the same plan, and the site stays settled. -/
theorem Settled.setMux_same (h : s.Settled p out) {m : Mux A} (hm : m.Settled id (p.mux id))
    (hout : ∀ loan, Stack.World.Lent (s.mux id).stack loan → Stack.World.Lent m.stack loan) :
    (s.setMux id m).Settled p out := by
  have hset := h.setMux hm hout
  rwa [Plan.setMux_mux] at hset

/-- The log is no part of a plan. -/
theorem Settled.logged (h : s.Settled p out) (line : LogLine) : (s.logged line).Settled p out :=
  ⟨h.view, h.elapsed, h.count, h.mux, fun ch hch => ⟨(h.out ch hch).lent, (h.out ch hch).stateless⟩⟩

/-- Fewer of the chains that are out may be looked at. -/
theorem Settled.subset (h : s.Settled p out) {out' : List (Chain A)}
    (hsub : ∀ ch ∈ out', ch ∈ out) : s.Settled p out' :=
  ⟨h.view, h.elapsed, h.count, h.mux, fun ch hch => h.out ch (hsub ch hch)⟩

/-! ### Chains come and go -/

/-- A chain that the stack of a mux keeps could be taken as well. -/
theorem Settled.out_of_kept (h : s.Settled p out) (hp : p.Stateless) {ch : Chain A}
    (hch : Stack.World.Kept (s.mux id).stack ch) : s.Out ch := by
  have hinner : ch.inner = id := hch.inner.trans (h.mux id).inner
  have hlayers : ch.layers = (p.mux id).layers := hch.layers.trans (h.mux id).layers
  refine ⟨?_, fun m hm => (hp id).layers m (hlayers ▸ hm)⟩
  have hlent := hch.lent
  rw [← hch.layers, ← hch.generation] at hlent
  rwa [hinner]

/-- A chain that is taken has the layers of the plan and is out. -/
theorem Settled.alloc (h : s.Settled p out) (hp : p.Stateless) (id : MuxId) :
    ∃ ch s', (Site.alloc id).run s = (ch, s') ∧ ch.inner = id ∧ ch.layers = (p.mux id).layers
      ∧ ch.slot = Context.empty ∧ s'.Settled p (ch :: out) := by
  have hm := h.mux id
  have hkept := Stack.World.kept_alloc hm.idle
  obtain ⟨hlayers, hgeneration, hinner, -⟩ := Stack.World.alloc_snd (s.mux id).stack
  refine ⟨(s.mux id).stack.alloc.1,
    s.setMux id { s.mux id with stack := (s.mux id).stack.alloc.2 }, rfl,
    hkept.inner.trans hm.inner, hkept.layers.trans hm.layers, hkept.slot, ?_⟩
  have hout : s.Settled p ((s.mux id).stack.alloc.1 :: out) := by
    refine ⟨h.view, h.elapsed, h.count, h.mux, fun ch hch => ?_⟩
    rcases List.mem_cons.mp hch with rfl | hch
    · exact h.out_of_kept hp hkept
    · exact h.out ch hch
  -- The stack has the same layers as before, so it is enough to look at the site before.
  refine hout.setMux_same ⟨hm.order, hm.fallback, hlayers.trans hm.layers, hinner.trans hm.inner,
    fun ch hch => ?_⟩ fun loan hloan => hloan.congr hlayers hgeneration hinner
  have hidle := (Stack.World.idle_alloc (s.mux id).stack).subset hch
  exact (hm.idle ch hidle).congr hlayers hgeneration hinner

/-- A chain that comes back is kept if it is of the present generation of the mux, and otherwise a
line says that it was dropped. -/
theorem release_run (s : Site A S) (id : MuxId) (ch : Chain A) :
    ((Site.release id ch).run s).2
      = if (s.mux id).stack.isCurrent ch then
          s.setMux id { s.mux id with stack := (s.mux id).stack.release ch }
        else s.logged ((s.mux id).stack.droppedLine ch) := by
  show ((if (s.mux id).stack.isCurrent ch then Site.modifyStack id (·.release ch)
    else Site.report ((s.mux id).stack.droppedLine ch) : Change A S Unit).run s).2 = _
  split <;> rfl

/-- A chain that comes back to its mux is kept or dropped. -/
theorem Settled.release {ch : Chain A} (h : s.Settled p (ch :: out)) :
    ((Site.release ch.inner ch).run s).2.Settled p out := by
  have hlent := (h.out ch List.mem_cons_self).lent
  have hm := h.mux ch.inner
  have hrest : s.Settled p out := h.subset fun _ hch => List.mem_cons_of_mem ch hch
  rw [release_run]
  split
  · -- The first goal is about the idle chains of the mux, the second one about those that are still
    -- out.
    refine hrest.setMux_same ?_ fun loan hloan => ?_
    · -- A chain that is kept is of the present generation, and so of the present layers.
      rcases Stack.World.release_cases (s.mux ch.inner).stack ch with
        ⟨hcurrent, -, hrelease⟩ | hrelease
      · rw [hrelease]
        refine ⟨hm.order, hm.fallback, hm.layers, hm.inner, fun ch' hch' => ?_⟩
        rcases List.mem_cons.mp hch' with rfl | hch'
        · exact (hlent.kept hcurrent).congr rfl rfl rfl
        · exact (hm.idle ch' hch').congr rfl rfl rfl
      · rw [hrelease]
        exact hm
    · rcases Stack.World.release_cases (s.mux ch.inner).stack ch with ⟨-, -, hrelease⟩ | hrelease
      · rw [hrelease]
        exact hloan.congr rfl rfl rfl
      · rwa [hrelease]
  · exact hrest.logged _

/-! ### Tables -/

/-- A site stays settled if the router of a mux changes as its plan does and the layers stay. -/
theorem Settled.modifyRouter (h : s.Settled p out) {f : Router A → Router A} {plan : Mux.Plan A}
    (horder : (f (s.mux id).router).Ordered plan.registered)
    (hfallback : (f (s.mux id).router).notFound = plan.fallback)
    (hlayers : plan.layers = (p.mux id).layers) :
    ((Site.modifyRouter id f).run s).2.Settled (p.setMux id plan) out := by
  have hm := h.mux id
  exact h.setMux ⟨horder, hfallback, hm.layers.trans hlayers.symm, hm.inner, hm.idle⟩
    fun _ hloan => hloan

/-- Compiling a table is no change of the plan. -/
theorem Settled.compile (h : s.Settled p out) (id : MuxId) :
    ((Site.compile id).run s).2.Settled p out := by
  have hm := h.mux id
  have hrouter := h.modifyRouter hm.order.compiled hm.fallback rfl
  rw [Plan.setMux_mux] at hrouter
  exact hrouter.logged _

/-- Compiling a table only where it is not compiled yet is no change of the plan. -/
theorem Settled.prepare (h : s.Settled p out) (id : MuxId) :
    ((Site.prepare id).run s).2.Settled p out := by
  rw [prepare_run]
  split
  · exact h.compile id
  · exact h

/-! ### The configuration -/

/-- A registration adds the route if its pattern has no flaw, and otherwise logs the flaw. -/
theorem handle_run (s : Site A S) (id : MuxId) (source : PatternSource A.View)
    (methods : MethodSet) (e : Endpoint A) :
    ((Site.handle id source methods e).run s).2
      = match source.resolve with
        | .ok pattern => ((addRoute id ⟨pattern, methods, e⟩).run s).2
        | .error err => s.logged ⟨.error, err.message⟩ := by
  rw [Site.handle, tryHandle]
  cases source.resolve <;> rfl

/-- A registration adds its route at the end of the plan, unless its pattern has a flaw. -/
theorem Settled.handle (h : s.Settled p out) (id : MuxId) (source : PatternSource A.View)
    (methods : MethodSet) (e : Endpoint A) :
    ((Site.handle id source methods e).run s).2.Settled
      (p.setMux id ((p.mux id).after (.handle source methods e))) out := by
  rw [handle_run, Mux.Plan.after]
  cases source.resolve with
  | ok pattern =>
    have hlogged := h.logged (Route.addedLine ⟨pattern, methods, e⟩)
    have hm := hlogged.mux id
    exact hlogged.modifyRouter (f := (·.add ⟨pattern, methods, e⟩)) (hm.order.add _) hm.fallback rfl
  | error err =>
    dsimp only
    rw [Plan.setMux_mux]
    exact h.logged _

/-- Other layers are in a new generation, and no chain is idle. -/
theorem Settled.publish (h : s.Settled p out) (id : MuxId) (layers : List (Middleware A)) :
    (s.setMux id { s.mux id with stack := (s.mux id).stack.publish layers }).Settled
      (p.setMux id { p.mux id with layers := layers }) out := by
  have hm := h.mux id
  exact h.setMux ⟨hm.order, hm.fallback, rfl, hm.inner, nofun⟩ fun _ hloan => hloan.publish layers

/-- A change of the layers that is possible is made and logged. -/
theorem tryStack_ok {f : Stack A → Except UnknownLayer (Stack A)} {stack : Stack A}
    (h : f (s.mux id).stack = .ok stack) :
    ((Site.tryStack id f).run s).2
      = (s.setMux id { s.mux id with stack := stack }).logged stack.changedLine := by
  simp [Site.tryStack, h, modifyStack, report]
  rfl

/-- A change of the layers that is not possible leaves the site as it was, without a line in the
log. -/
theorem tryStack_error {f : Stack A → Except UnknownLayer (Stack A)} {e : UnknownLayer}
    (h : f (s.mux id).stack = .error e) : ((Site.tryStack id f).run s).2 = s := by
  simp [Site.tryStack, h]
  rfl

/-- A change of the layers that may fail does to the stack what it does to the plan. -/
theorem Settled.tryStack (h : s.Settled p out) (id : MuxId)
    {f : Stack A → Except UnknownLayer (Stack A)} (layers? : Option (List (Middleware A)))
    (hsome : ∀ layers, layers? = some layers →
      f (s.mux id).stack = .ok ((s.mux id).stack.publish layers))
    (hnone : layers? = none → ∃ e, f (s.mux id).stack = .error e) :
    ((Site.tryStack id f).run s).2.Settled
      (p.setMux id { p.mux id with layers := layers?.getD (p.mux id).layers }) out := by
  cases layers? with
  | some layers =>
    rw [tryStack_ok (hsome layers rfl)]
    exact (h.publish id layers).logged _
  | none =>
    obtain ⟨e, he⟩ := hnone rfl
    rw [tryStack_error he, Option.getD_none, Plan.setMux_mux]
    exact h

/-- A step of the configuration leaves the site settled on the plan after it. -/
theorem Settled.setup (h : s.Settled p out) (id : MuxId) (x : Mux.Setup A) :
    ((x.perform id).run s).2.Settled (p.setMux id ((p.mux id).after x)) out := by
  have hm := h.mux id
  -- The layers of the mux are those of the plan, so each step does the same to both.
  cases x with
  | handle source methods e => exact h.handle id source methods e
  | notFound e => exact h.modifyRouter (hm.order.withNotFound e) rfl rfl
  | use m =>
    rw [Mux.Plan.after, ← hm.layers]
    exact (h.publish id ((s.mux id).stack.layers ++ [m])).logged _
  | insert m before =>
    have hinsert := Stack.insert_eq (s.mux id).stack m before
    rw [hm.layers] at hinsert
    exact h.tryStack (f := fun stack => stack.insert m before) id
      (Stack.insertBefore m before (p.mux id).layers)
      (fun layers hlayers => by rw [hinsert, hlayers])
      fun hlayers => ⟨⟨before⟩, by rw [hinsert, hlayers]⟩
  | abandon name =>
    have habandon := Stack.abandon_eq (s.mux id).stack name
    rw [hm.layers] at habandon
    exact h.tryStack (f := fun stack => stack.abandon name) id
      (Stack.removeFirst name (p.mux id).layers)
      (fun layers hlayers => by rw [habandon, hlayers])
      fun hlayers => ⟨⟨name⟩, by rw [habandon, hlayers]⟩

/-- A step that brings in nothing that keeps something leaves the plan of a site so. -/
theorem Plan.Stateless.setup (hp : p.Stateless) (id : MuxId) {x : Mux.Setup A} (hx : x.Stateless) :
    (p.setMux id ((p.mux id).after x)).Stateless := by
  intro j
  rw [Plan.mux_setMux_eq]
  split
  · exact (hp id).after hx
  · exact hp j

end Site

end HttpMux
