import HttpMux.Proofs.Site.Reference

/-!
# `HttpMux.Proofs.Site.Independence`: requests do not influence one another

A history is a list of things that happen to a site of new muxes, in any order: steps of the
configuration, compiled tables, requests, and chains that are taken by hand, serve requests and are
given back to their mux. Requests may fail, and a chain on which one has failed may come back or
not. Handlers and layers keep nothing between requests: they ask for no request IDs, and the
application gives each question one answer.

* `World.after`: one step of a history, and `Plan.afterAction`: what is written down of it.
* `Plan.run_congr`: only the configuration of the muxes, each for itself, is written down.
* `Settled.after` and `Settled.run`: one step keeps a site settled on what is written down, and so
  do all of them.
* `serve_independent`: after two histories with the same configuration, every next request is served
  alike. The pool sizes, the state of the application and everything else in the histories may
  differ.
-/

set_option autoImplicit false

namespace HttpMux.Site

variable {A : App} {S : Type}

/-! ### Histories -/

/-- What can happen to a site besides its configuration: a table is compiled, a request is served, a
chain is taken from a mux by hand, and a chain that is out serves a request or is given back. -/
inductive Traffic
  | compile (id : MuxId)
  | serve (depth : Nat) (id : MuxId) (c : Context) (r : Request)
  | alloc (id : MuxId)
  | serveOn (depth : Nat) (i : Nat) (c : Context) (r : Request)
  | release (i : Nat)

/-- What can happen to a site. -/
inductive Action (A : App)
  | setup (id : MuxId) (x : Mux.Setup A)
  | traffic (t : Traffic)

/-- The handlers and layers that come in keep nothing between requests. -/
def Action.Stateless : Action A → Prop
  | setup _ x => x.Stateless
  | traffic _ => True

/-- A site and the chains that have been taken from its muxes by hand, the last one first. -/
structure World (A : App) (S : Type) where
  site : Site A S
  out : List (Chain A)

namespace World

/-- The world after some traffic. A chain that is out is named by its place and comes back to its
own mux. Nothing happens to a place where no chain is out. -/
def afterTraffic (app : (q : A.Ask) → Change A S (A.Answer q)) (w : World A S) :
    Traffic → World A S
  | .compile id => { w with site := ((Site.compile id).run w.site).2 }
  | .serve depth id c r => { w with site := ((Site.serve app depth id c r).run w.site).2 }
  | .alloc id => ⟨((Site.alloc id).run w.site).2, ((Site.alloc id).run w.site).1 :: w.out⟩
  | .serveOn depth i c r =>
    match w.out[i]? with
    | some ch =>
      let served := (Site.serveOn (Site.answer app (Site.serve app depth)) ch c r).run w.site
      ⟨served.2, w.out.set i served.1.2⟩
    | none => w
  | .release i =>
    match w.out[i]? with
    | some ch => ⟨((Site.release ch.inner ch).run w.site).2, w.out.eraseIdx i⟩
    | none => w

/-- The world after one more action. -/
def after (app : (q : A.Ask) → Change A S (A.Answer q)) (w : World A S) : Action A → World A S
  | .setup id x => { w with site := ((x.perform id).run w.site).2 }
  | .traffic t => w.afterTraffic app t

/-- New muxes with the given pool sizes. -/
def start (capacities : List Nat) (idBase elapsed : String) (view : A.View) (state : S) :
    World A S where
  site := { Site.new idBase elapsed view state with muxes := capacities.mapIdx Mux.new }
  out := []

/-- The world that a history leads to. -/
def run (app : (q : A.Ask) → Change A S (A.Answer q)) (w : World A S) (history : List (Action A)) :
    World A S :=
  history.foldl (after app) w

end World

/-- The steps of a history that configure the given mux. -/
def setupsOf (id : MuxId) (history : List (Action A)) : List (Mux.Setup A) :=
  history.filterMap fun
    | .setup j x => if j = id then some x else none
    | .traffic _ => none

/-- A step is one of a mux if the history configures the mux by it. -/
theorem mem_setupsOf {id : MuxId} {history : List (Action A)} {x : Mux.Setup A} :
    x ∈ setupsOf id history ↔ .setup id x ∈ history := by
  rw [setupsOf, List.mem_filterMap]
  constructor
  · rintro ⟨a, ha, hx⟩
    cases a with
    | setup j y =>
      rw [Option.ite_none_right_eq_some] at hx
      obtain ⟨rfl, hx⟩ := hx
      exact Option.some.inj hx ▸ ha
    | traffic t => cases hx
  · intro hx
    exact ⟨_, hx, if_pos rfl⟩

/-- What comes in is decided by the configuration of the muxes. -/
theorem stateless_of_same {history history' : List (Action A)}
    (hsame : ∀ id, setupsOf id history = setupsOf id history')
    (h : ∀ a ∈ history, a.Stateless) : ∀ a ∈ history', a.Stateless := by
  intro a ha
  cases a with
  | setup id x =>
    have hx : x ∈ setupsOf id history := by
      rw [hsame id]
      exact mem_setupsOf.mpr ha
    exact h _ (mem_setupsOf.mp hx)
  | traffic t => trivial

/-! ### What is written down of a history -/

namespace Plan

/-- The plan after one more action. Only the configuration is written down. -/
def afterAction (p : Plan A) : Action A → Plan A
  | .setup id x => p.setMux id ((p.mux id).after x)
  | .traffic _ => p

/-- The plan of new muxes. -/
def start (count : Nat) (view : A.View) (elapsed : String) : Plan A :=
  ⟨List.replicate count Mux.Plan.new, view, elapsed⟩

/-- The plan of a history. -/
def run (p : Plan A) (history : List (Action A)) : Plan A := history.foldl afterAction p

variable {p : Plan A}

/-- One action leaves a plan without state between requests if it brings in none. -/
theorem Stateless.afterAction (hp : p.Stateless) {a : Action A} (ha : a.Stateless) :
    (p.afterAction a).Stateless := by
  cases a with
  | setup id x => exact hp.setup id ha
  | traffic t => exact hp

/-- The number of muxes and what scripts and patterns can see of the site are not configured. -/
theorem afterAction_frame (p : Plan A) (a : Action A) :
    (p.afterAction a).muxes.length = p.muxes.length ∧ (p.afterAction a).view = p.view
      ∧ (p.afterAction a).elapsed = p.elapsed := by
  cases a with
  | setup id x => exact ⟨List.length_set .., rfl, rfl⟩
  | traffic t => exact ⟨rfl, rfl, rfl⟩

/-- Over a whole history, the number of muxes and what scripts and patterns can see of the site stay
as they were. -/
theorem run_frame (p : Plan A) (history : List (Action A)) :
    (p.run history).muxes.length = p.muxes.length ∧ (p.run history).view = p.view
      ∧ (p.run history).elapsed = p.elapsed := by
  induction history generalizing p with
  | nil => exact ⟨rfl, rfl, rfl⟩
  | cons a history ih =>
    obtain ⟨hlength, hview, helapsed⟩ := p.afterAction_frame a
    obtain ⟨hlength', hview', helapsed'⟩ := ih (p.afterAction a)
    exact ⟨hlength'.trans hlength, hview'.trans hview, helapsed'.trans helapsed⟩

/-- One action counts for a mux only if it configures this mux. -/
theorem mux_afterAction (p : Plan A) (a : Action A) {id : MuxId} (hid : id < p.muxes.length) :
    (p.afterAction a).mux id = (setupsOf id [a]).foldl Mux.Plan.after (p.mux id) := by
  cases a with
  | setup j x =>
    rw [afterAction, mux_setMux_eq]
    by_cases hj : j = id
    · subst hj
      rw [if_pos ⟨rfl, hid⟩]
      simp [setupsOf]
    · rw [if_neg fun h => hj h.1]
      simp [setupsOf, hj]
  | traffic t => rfl

/-- The plan of a mux is that of its own steps alone. -/
theorem mux_run (p : Plan A) (history : List (Action A)) {id : MuxId}
    (hid : id < p.muxes.length) :
    (p.run history).mux id = (setupsOf id history).foldl Mux.Plan.after (p.mux id) := by
  -- The steps of the mux are those of the first action, if it is one, and then those of the others.
  induction history generalizing p with
  | nil => rfl
  | cons a history ih =>
    have hsplit : setupsOf id (a :: history) = setupsOf id [a] ++ setupsOf id history :=
      List.filterMap_append (l := [a])
    have hrest := ih (p.afterAction a) ((p.afterAction_frame a).1 ▸ hid)
    rw [mux_afterAction p a hid] at hrest
    rw [hsplit, List.foldl_append, ← hrest]
    rfl

/-- Two histories with the same configuration of every mux have the same plan. -/
theorem run_congr (p : Plan A) {history history' : List (Action A)}
    (h : ∀ id, setupsOf id history = setupsOf id history') : p.run history = p.run history' := by
  obtain ⟨hlength, hview, helapsed⟩ := p.run_frame history
  obtain ⟨hlength', hview', helapsed'⟩ := p.run_frame history'
  -- Every mux has the plan of its own steps, and these are the same.
  have hmuxes : (p.run history).muxes = (p.run history').muxes := by
    refine List.ext_getElem (hlength.trans hlength'.symm) fun id hid hid' => ?_
    have hmux : (p.run history).mux id = (p.run history').mux id := by
      rw [mux_run p history (hlength ▸ hid), mux_run p history' (hlength ▸ hid), h id]
    rwa [mux, mux, List.getElem?_eq_getElem hid, List.getElem?_eq_getElem hid'] at hmux
  calc p.run history = ⟨(p.run history).muxes, p.view, p.elapsed⟩ := by rw [← hview, ← helapsed]
    _ = ⟨(p.run history').muxes, p.view, p.elapsed⟩ := by rw [hmuxes]
    _ = p.run history' := by rw [← hview', ← helapsed']

/-- The plan of a new mux is empty. -/
theorem mux_start (count : Nat) (view : A.View) (elapsed : String) (id : MuxId) :
    (start count view elapsed).mux id = Mux.Plan.new := by
  rw [mux, start, List.getElem?_replicate]
  split <;> rfl

/-- An empty plan has nothing that could keep something. -/
theorem stateless_start (count : Nat) (view : A.View) (elapsed : String) :
    (start count view elapsed).Stateless := fun id => by
  rw [mux_start]
  exact Mux.Plan.stateless_new

end Plan

/-! ### Histories keep sites settled -/

variable {s : Site A S} {p : Plan A} {out : List (Chain A)}
  {app : (q : A.Ask) → Change A S (A.Answer q)} {reply : (q : A.Ask) → A.Answer q}

/-- Serving a request leaves a site settled. -/
theorem Settled.serve (h : s.Settled p out) (happ : Replies app reply) (hp : p.Stateless)
    (depth : Nat) (id : MuxId) (c : Context) (r : Request) :
    ((Site.serve app depth id c r).run s).2.Settled p out := by
  obtain ⟨s', hrun, hs'⟩ := Plan.follows_serve happ hp depth id c r out s [] h
  rw [Recorded.erases_run (Recorded.erases_serve depth id c r) [], hrun]
  exact hs'

/-- Serving a request on a chain that is out leaves a site settled, and the chain comes back as it
was. -/
theorem Settled.serveOn (h : s.Settled p out) (happ : Replies app reply) (hp : p.Stateless)
    {ch : Chain A} (hch : ch ∈ out) (depth : Nat) (c : Context) (r : Request) :
    let served := (Site.serveOn (Site.answer app (Site.serve app depth)) ch c r).run s
    served.1.2 = ch ∧ served.2.Settled p out := by
  intro served
  have hout := h.out ch hch
  have hslot : ch.slot = Context.empty := hout.lent.slot
  have hanswer := Plan.follows_answer happ (Plan.follows_serve happ hp depth)
  obtain ⟨s', hrun, hs'⟩ :=
    Plan.follows_serveOn hp hanswer hslot hout.stateless c r out s [] h
  -- The plan says how recorded requests are served. Without the record they are served alike.
  have herases : Recorded.erases.rel
      (Recorded.serveOn (Recorded.answer app (Recorded.serve app depth)) ch c r)
      (Site.serveOn (Site.answer app (Site.serve app depth)) ch c r) :=
    Recorded.erases_serveOn (Recorded.erases_answer (Recorded.erases_serve depth)) ch c r
  have hserved : served = _ := Recorded.erases_run herases [] s
  rw [hserved, hrun]
  exact ⟨rfl, hs'⟩

/-- At the beginning every mux is a new one, and its pool has the given size, if one is given. -/
theorem mux_start (capacities : List Nat) (idBase elapsed : String) (view : A.View) (state : S)
    (id : MuxId) :
    (World.start capacities idBase elapsed view state).site.mux id
      = Mux.new id ((capacities[id]?).getD defaultCapacity) := by
  show ((capacities.mapIdx Mux.new)[id]?).getD (Mux.new id defaultCapacity) = _
  rw [List.getElem?_mapIdx]
  cases capacities[id]? <;> rfl

/-- New muxes are settled. -/
theorem settled_start (capacities : List Nat) (idBase elapsed : String) (view : A.View)
    (state : S) :
    (World.start capacities idBase elapsed view state).site.Settled
      (Plan.start capacities.length view elapsed) [] := by
  refine ⟨rfl, rfl, ?_, fun id => ?_, nofun⟩
  · show (capacities.mapIdx Mux.new).length = (List.replicate capacities.length Mux.Plan.new).length
    simp
  · rw [mux_start, Plan.mux_start]
    exact Mux.settled_new id _

/-- Traffic keeps a site settled. -/
theorem Settled.afterTraffic {w : World A S} (h : w.site.Settled p w.out) (happ : Replies app reply)
    (hp : p.Stateless) (t : Traffic) :
    (w.afterTraffic app t).site.Settled p (w.afterTraffic app t).out := by
  -- Chains that are out are named by their places; a place without a chain leaves all as it is.
  cases t with
  | compile id => exact h.compile id
  | serve depth id c r => exact h.serve happ hp depth id c r
  | alloc id =>
    obtain ⟨ch, s', hrun, -, -, -, hs'⟩ := h.alloc hp id
    rw [World.afterTraffic, hrun]
    exact hs'
  | serveOn depth i c r =>
    rw [World.afterTraffic]
    split
    · rename_i ch hi
      obtain ⟨hsame, hserved⟩ := h.serveOn happ hp (List.mem_of_getElem? hi) depth c r
      refine hserved.subset fun ch' hch' => ?_
      -- The chain that comes back is the one that was there.
      rcases List.mem_or_eq_of_mem_set hch' with hch' | heq
      · exact hch'
      · rw [heq, hsame]
        exact List.mem_of_getElem? hi
    · exact h
  | release i =>
    rw [World.afterTraffic]
    split
    · rename_i ch hi
      refine Settled.release (h.subset fun ch' hch' => ?_)
      rcases List.mem_cons.mp hch' with rfl | hch'
      · exact List.mem_of_getElem? hi
      · exact List.mem_of_mem_eraseIdx hch'
    · exact h

/-- One action keeps a site settled. -/
theorem Settled.after {w : World A S} (h : w.site.Settled p w.out) (happ : Replies app reply)
    (hp : p.Stateless) (a : Action A) :
    (w.after app a).site.Settled (p.afterAction a) (w.after app a).out := by
  cases a with
  | setup id x => exact h.setup id x
  | traffic t => exact h.afterTraffic happ hp t

/-- All actions of a history keep a site settled. -/
theorem Settled.run {w : World A S} (h : w.site.Settled p w.out) (happ : Replies app reply)
    (hp : p.Stateless) {history : List (Action A)} (hhistory : ∀ a ∈ history, a.Stateless) :
    (w.run app history).site.Settled (p.run history) (w.run app history).out
      ∧ (p.run history).Stateless := by
  induction history generalizing w p with
  | nil => exact ⟨h, hp⟩
  | cons a history ih =>
    exact ih (h.after happ hp a) (hp.afterAction (hhistory a List.mem_cons_self))
      fun a ha => hhistory a (List.mem_cons_of_mem _ ha)

/-! ### The next request -/

/-- The handlers that are called and the questions that are put while a request is served. -/
def events (app : (q : A.Ask) → Change A S (A.Answer q)) (depth : Nat) (id : MuxId) (c : Context)
    (r : Request) (s : Site A S) : List (Event A) :=
  (((Recorded.serve app depth id c r).run []).run s).1.2

/-- A settled site serves a request as its plan says. -/
theorem Settled.serve_eq (h : s.Settled p out) (happ : Replies app reply) (hp : p.Stateless)
    (depth : Nat) (id : MuxId) (c : Context) (r : Request) :
    (((Site.serve app depth id c r).run s).1, events app depth id c r s)
      = (p.serve reply depth id c r).run [] := by
  obtain ⟨s', hrun, -⟩ := Plan.follows_serve happ hp depth id c r out s [] h
  rw [Recorded.erases_run (Recorded.erases_serve depth id c r) [], events, hrun]
  rfl

/-- Take two sites with equally many muxes, each with its own pool sizes, request IDs and state of
the application, and two histories in which every mux is configured by the same steps in the same
order. Whatever else has happened in them, every next request is served alike: with the same
outcome and the same final context, by the same calls of the same handlers in the same order, and
with the same questions in between. -/
theorem serve_independent (happ : Replies app reply) {capacities capacities' : List Nat}
    (hcount : capacities.length = capacities'.length) (view : A.View) (elapsed : String)
    (idBase idBase' : String) (state state' : S) {history history' : List (Action A)}
    (hstateless : ∀ a ∈ history, a.Stateless)
    (hsame : ∀ id, setupsOf id history = setupsOf id history') (depth : Nat) (id : MuxId)
    (c : Context) (r : Request) :
    let site := ((World.start capacities idBase elapsed view state).run app history).site
    let site' := ((World.start capacities' idBase' elapsed view state').run app history').site
    ((Site.serve app depth id c r).run site).1 = ((Site.serve app depth id c r).run site').1
      ∧ events app depth id c r site = events app depth id c r site' := by
  intro site site'
  have hstateless' := stateless_of_same hsame hstateless
  have hstart := Plan.stateless_start capacities.length view elapsed (A := A)
  obtain ⟨hsite, hp⟩ :=
    (settled_start capacities idBase elapsed view state).run happ hstart hstateless
  rw [hcount] at hstart
  obtain ⟨hsite', -⟩ :=
    (settled_start capacities' idBase' elapsed view state').run happ hstart hstateless'
  -- Both sites are settled on the same plan, and the plan says how they serve.
  rw [← hcount, ← Plan.run_congr _ hsame] at hsite'
  have hserve := hsite.serve_eq happ hp depth id c r
  rw [← hsite'.serve_eq happ hp depth id c r] at hserve
  exact Prod.mk.inj hserve

/-- A handler that fails. -/
def failing : Endpoint Chain.silent := .plain fun _ => .done (.failure .silent)

/-- The application that is asked for nothing. -/
def noReply (q : Chain.silent.Ask) : Change Chain.silent Unit (Chain.silent.Answer q) := q.elim

/-- The mux gets a layer that calls inwards twice. -/
def useTwice : Action Chain.silent := .setup 0 (.use ⟨"twice", .plain Chain.twice⟩)

/-- The mux gets a route to the failing handler. -/
def handleFailing : Action Chain.silent :=
  .setup 0 (.handle (.text "/a") (MethodSet.of .get) failing)

/-- A request for the failing handler. -/
def failingRequest : Request := ⟨.get, "/a", .http11, ⟨[]⟩, [], none⟩

/-- A request fails, and its chain is not given back. -/
def failed : List (Action Chain.silent) :=
  [useTwice, handleFailing, .traffic (.serve 1 0 Context.empty failingRequest)]

/-- A chain is taken by hand, a request fails on it, and it is given back. -/
def byHand : List (Action Chain.silent) :=
  [useTwice, .traffic (.compile 0), handleFailing, .traffic (.alloc 0),
    .traffic (.serveOn 1 0 Context.empty failingRequest), .traffic (.release 0)]

/-- No handler and no layer of this history keeps anything. -/
theorem stateless_failed : ∀ a ∈ failed, a.Stateless := by
  intro a ha
  simp only [failed, List.mem_cons, List.not_mem_nil, or_false] at ha
  rcases ha with rfl | rfl | rfl
  · exact fun _ _ _ => trivial
  · exact fun _ => trivial
  · trivial

/-- The two histories configure every mux alike. -/
theorem setupsOf_byHand (id : MuxId) : setupsOf id failed = setupsOf id byHand := rfl

/-- The next request calls the failing handler twice after both histories. -/
theorem serve_independent_failing :
    (∀ a ∈ failed, a.Stateless) ∧ (∀ id, setupsOf id failed = setupsOf id byHand)
      ∧ ((Site.serve noReply 1 0 Context.empty failingRequest).run
            ((World.start [0] "a" "1ms" () ()).run noReply failed).site).1
          = ((Site.serve noReply 1 0 Context.empty failingRequest).run
            ((World.start [2] "b" "1ms" () ()).run noReply byHand).site).1 := by
  have happ : Replies noReply fun q => q.elim :=
    ⟨fun q => q.elim, fun q => q.elim, fun q => q.elim, fun q => q.elim⟩
  have hcount : [0].length = [2].length := rfl
  have hindependent := serve_independent happ hcount () "1ms" "a" "b" () () stateless_failed
    setupsOf_byHand 1 0 Context.empty failingRequest
  exact ⟨stateless_failed, setupsOf_byHand, hindependent.1⟩

end HttpMux.Site
