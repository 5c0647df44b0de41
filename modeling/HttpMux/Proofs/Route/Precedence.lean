import HttpMux.Proofs.Pattern.Bindings
import HttpMux.Proofs.Route.Table
import HttpMux.Site

/-!
# `HttpMux.Proofs.Route.Precedence`: the first registered route wins

A mux is set up by registering routes, replacing the handler for the rest and compiling the table,
in any order. A route may come after the table has been compiled, as it does when requests have been
served before. A plan is what one would write down along the way: the routes in the order of their
registration, and the present handler for the rest. The table of the router is in another order,
and requests are served on its compiled form. Neither shows.

* `Pattern.Bound`: what binding the parameters of an accepted request does to the context.
* `Router.Plan.after`: the plan after one more setting, and `Site.Follows`: a mux whose router does
  what a plan says.
* `Site.Follows.perform` and `Site.follows_opened`: one setting keeps a mux behind its plan, and so
  do all of them.
* `Site.route_first_registered`: serving a request calls the handler of the route that was
  registered first among those that take the request, on the context with the parameters of that
  route alone. If there is none, it calls the handler for the rest.
-/

set_option autoImplicit false

namespace HttpMux

variable {A : App} {S : Type}

/-! ### The context of a handler -/

/-- A context that has captured parameters in front of those of another one, and its environment. -/
structure Context.Merged (c : Context) (captured : Dict String) (c' : Context) : Prop where
  env : c'.env = c.env
  params : ∀ name, c'.param? name = (captured.get? name).or (c.param? name)

/-- Parameters that are put in front of a context are merged with those it has. -/
theorem Context.merged_withParams (c : Context) {captured : Dict String} (h : captured.Sorted) :
    c.Merged captured (c.withParams captured) :=
  ⟨rfl, c.param?_withParams h⟩

/-- Parameters that have been captured are merged, if they are sorted by name. -/
theorem Context.merged_of_captured {captured? : Option (Dict String)} (hsome : captured?.isSome)
    (hsorted : ∀ captured, captured? = some captured → captured.Sorted) (c : Context) :
    ∃ captured, captured? = some captured
      ∧ c.Merged captured ((captured?.map c.withParams).getD c) := by
  obtain ⟨captured, rfl⟩ := Option.isSome_iff_exists.mp hsome
  exact ⟨captured, rfl, c.merged_withParams (hsorted captured rfl)⟩

/-- What the groups of a regular expression are bound to is sorted by name. -/
theorem Regular.sorted_of_match? {p : Regular} {path : String} {captured : Dict String}
    (h : p.match? path = some captured) : captured.Sorted := by
  rw [match?, Option.map_eq_some_iff] at h
  obtain ⟨texts, -, rfl⟩ := h
  exact Dict.sorted_ofList _

namespace Pattern

variable {View : Type}

/-- What binding makes of the context of an accepted request: a placeholder pattern or a regular
expression has captured parameters, which are merged over the old ones, and a pattern of the
application's own does what it does. -/
def Bound (r : Request) (c c' : Context) : Pattern View → Prop
  | placeholder p => ∃ captured, p.match? r.urlPath = some captured ∧ c.Merged captured c'
  | regular p => ∃ captured, p.match? r.urlPath = some captured ∧ c.Merged captured c'
  | own p => c' = p.bind r c

/-- The parameters of an accepted request are always captured and merged. -/
theorem bound_of_accepts {p : Pattern View} {v : View} {r : Request} {c : Context}
    (h : p.accepts v r c) : p.Bound r c (p.bind r c) := by
  -- A path is accepted because it has been matched, so there is something to bind.
  cases p with
  | placeholder p =>
    have hsome : (p.match? r.urlPath).isSome := by rwa [Placeholder.match?, Option.isSome_map]
    exact Context.merged_of_captured hsome (fun _ => Placeholder.sorted_of_match?) c
  | regular p =>
    have hsome : (p.match? r.urlPath).isSome := by
      rw [Regular.match?, Option.isSome_map, Regex.captures?, Option.isSome_map]
      exact h
    exact Context.merged_of_captured hsome (fun _ => Regular.sorted_of_match?) c
  | own p => rfl

end Pattern

/-! ### The script of a request -/

/-- What is done with a request that goes to a route, or to the given handler for the rest. -/
def Dispatch.script (d : Dispatch A) (fallback : Endpoint A) (r : Request) :
    Script A Empty Empty Served :=
  match d with
  | .route x c => x.endpoint.script c r
  | .rest c => fallback.script c r

/-- A router does what its choice of a route asks for. -/
theorem Router.script_eq (rt : Router A) (v : A.View) (c : Context) (r : Request) :
    rt.script v c r = (rt.dispatch v c r).script rt.notFound r := rfl

/-! ### Setting up a mux -/

namespace Router

/-- One setting of a mux: a route is registered, the handler for the rest is replaced, or the table
is compiled, anew or only if its compiled form is not known. -/
inductive Setting (A : App)
  | handle (o : Offer A.View) (methods : MethodSet) (e : Endpoint A)
  | notFound (e : Endpoint A)
  | compile
  | prepare

/-- The setting made on a mux. Nothing is registered if the pattern has a flaw. -/
def Setting.perform (id : MuxId) : Setting A → Site.Change A S Unit
  | handle o methods e =>
    match o.source? with
    | some source => do
      let _ ← Site.tryHandle id source methods e
      return ()
    | none => return ()
  | notFound e => Site.setNotFound id e
  | compile => Site.compile id
  | prepare => Site.prepare id

/-- The routes of a mux in the order of their registration, and its handler for the rest. -/
structure Plan (A : App) where
  registered : List (Route A)
  fallback : Endpoint A

namespace Plan

/-- The plan of a mux that nothing has been set on. -/
def new : Plan A := ⟨[], Endpoint.notFound⟩

/-- The plan after one more setting. -/
def after (plan : Plan A) : Setting A → Plan A
  | .handle o methods e =>
    match o.pattern? with
    | some pattern => { plan with registered := plan.registered ++ [⟨pattern, methods, e⟩] }
    | none => plan
  | .notFound e => { plan with fallback := e }
  | .compile => plan
  | .prepare => plan

/-- The plan after a list of settings. -/
def ofSettings (xs : List (Setting A)) : Plan A := xs.foldl after new

/-- A plan has only sound patterns. -/
def Sound (plan : Plan A) : Prop := ∀ x ∈ plan.registered, x.pattern.Sound

/-- A setting leaves a plan with sound patterns, as only sound ones are offered. -/
theorem Sound.after {plan : Plan A} (h : plan.Sound) (x : Setting A) : (plan.after x).Sound := by
  cases x with
  | handle o methods e =>
    rw [Plan.after]
    -- A pattern that is refused adds no route, so there is nothing to show for it.
    split
    · rename_i pattern hpattern
      intro y hy
      rcases List.mem_append.mp hy with hy | hy
      · exact h y hy
      · rw [List.mem_singleton.mp hy]
        exact Offer.sound hpattern
    · exact h
  | notFound e => exact h
  | compile => exact h
  | prepare => exact h

/-- All patterns of a plan are sound, whatever the settings were. -/
theorem sound_ofSettings (xs : List (Setting A)) : (ofSettings xs).Sound := by
  have hnew : (new : Plan A).Sound := fun _ h => nomatch h
  exact List.foldlRecOn xs after hnew fun _ h x _ => h.after x

end Plan

end Router

namespace Site

open Router (Plan Setting)

/-- A mux that was replaced is the new one. -/
theorem mux_setMux {s : Site A S} {id : MuxId} (h : id < s.muxes.length) (m : Mux A) :
    (s.setMux id m).mux id = m := by
  rw [mux, setMux, List.getElem?_set_self h, Option.getD_some]

/-- A mux whose router tries routes in the order of a plan and has its handler for the rest. -/
structure Follows (s : Site A S) (id : MuxId) (plan : Plan A) : Prop where
  bound : id < s.muxes.length
  order : (s.mux id).router.Ordered plan.registered
  fallback : (s.mux id).router.notFound = plan.fallback

variable {s : Site A S} {id : MuxId} {plan plan' : Plan A}

/-- A line in the log leaves a mux behind its plan. -/
theorem Follows.logged (h : s.Follows id plan) (line : LogLine) :
    (s.logged line).Follows id plan :=
  ⟨h.bound, h.order, h.fallback⟩

/-- A change of the router brings the mux to a plan if it does so for the router. -/
theorem Follows.modifyRouter (h : s.Follows id plan) {f : Router A → Router A}
    (horder : (f (s.mux id).router).Ordered plan'.registered)
    (hfallback : (f (s.mux id).router).notFound = plan'.fallback) :
    ((modifyRouter id f).run s).2.Follows id plan' := by
  show (s.setMux id { s.mux id with router := f (s.mux id).router }).Follows id plan'
  -- There are as many muxes as before, and the router of this one is the changed one.
  refine ⟨?_, ?_, ?_⟩
  · rw [setMux, List.length_set]
    exact h.bound
  · rwa [mux_setMux h.bound]
  · rwa [mux_setMux h.bound]

/-- A route that is added to a mux comes last in its plan. -/
theorem Follows.addRoute (h : s.Follows id plan) (x : Route A) :
    ((addRoute id x).run s).2.Follows id { plan with registered := plan.registered ++ [x] } := by
  show ((Site.modifyRouter id (·.add x)).run (s.logged x.addedLine)).2.Follows id _
  exact (h.logged x.addedLine).modifyRouter (h.order.add x) h.fallback

/-- Compiling its table leaves a mux behind its plan. -/
theorem Follows.compile (h : s.Follows id plan) : ((compile id).run s).2.Follows id plan :=
  (h.modifyRouter h.order.compiled h.fallback).logged _

/-- A table is compiled if its compiled form is not known, and otherwise nothing is done. -/
theorem prepare_run (s : Site A S) (id : MuxId) :
    (Site.prepare id).run s
      = if (s.mux id).router.machine.isNone then (Site.compile id).run s else ((), s) := by
  show (if (s.mux id).router.machine.isNone then Site.compile id else pure ()).run s = _
  split <;> rfl

/-- Compiling its table when that is needed leaves a mux behind its plan. -/
theorem Follows.prepare (h : s.Follows id plan) : ((prepare id).run s).2.Follows id plan := by
  rw [prepare_run]
  split
  · exact h.compile
  · exact h

/-- A registration adds the route if its pattern has no flaw, and otherwise does nothing. -/
theorem tryHandle_run (s : Site A S) (id : MuxId) (source : PatternSource A.View)
    (methods : MethodSet) (e : Endpoint A) :
    ((tryHandle id source methods e).run s).2
      = match source.resolve with
        | .ok pattern => ((addRoute id ⟨pattern, methods, e⟩).run s).2
        | .error _ => s := by
  rw [tryHandle]
  cases source.resolve <;> rfl

/-- One setting keeps a mux behind its plan. -/
theorem Follows.perform (h : s.Follows id plan) (x : Setting A) :
    ((x.perform id).run s).2.Follows id (plan.after x) := by
  -- One case for each setting; the plan changes with the first two only.
  cases x with
  | handle o methods e =>
    rw [Setting.perform, Plan.after, Offer.pattern?]
    cases o.source? with
    | none => exact h
    | some source =>
      show ((tryHandle id source methods e).run s).2.Follows id _
      rw [tryHandle_run, Option.bind_some]
      -- A flaw leaves both the table and the plan as they are.
      cases source.resolve with
      | error flaw => exact h
      | ok pattern => exact h.addRoute ⟨pattern, methods, e⟩
  | notFound e => exact h.modifyRouter (h.order.withNotFound e) rfl
  | compile => exact h.compile
  | prepare => exact h.prepare

/-- Adds a mux, sets it up and returns its number. -/
def opened (capacity : Nat) (xs : List (Setting A)) : Change A S MuxId := do
  let id ← addMux capacity
  xs.forM fun x => x.perform id
  return id

/-- All settings together keep a mux behind its plan. -/
theorem Follows.performAll (h : s.Follows id plan) (xs : List (Setting A)) :
    ((xs.forM fun x => x.perform id).run s).2.Follows id (xs.foldl Plan.after plan) := by
  induction xs generalizing s plan with
  | nil => exact h
  | cons x xs ih => exact ih (h.perform x)

/-- The new mux comes behind all others, and its number is their number. -/
theorem mux_addMux (s : Site A S) (capacity : Nat) :
    ((addMux capacity).run s).2.mux s.muxes.length = Mux.new s.muxes.length capacity := by
  show ((s.muxes ++ [_])[s.muxes.length]?).getD _ = _
  rw [List.getElem?_append_right (Nat.le_refl _), Nat.sub_self]
  rfl

/-- There is a mux of the new number. -/
theorem lt_length_addMux (s : Site A S) (capacity : Nat) :
    s.muxes.length < ((addMux capacity).run s).2.muxes.length := by
  show s.muxes.length < (s.muxes ++ [_]).length
  simp

/-- A mux that has been set up follows the plan of its settings. -/
theorem follows_opened (s : Site A S) (capacity : Nat) (xs : List (Setting A)) :
    let opened := (opened capacity xs).run s
    opened.2.Follows opened.1 (Plan.ofSettings xs) := by
  -- Before the settings, the new mux is behind the empty plan.
  have hnew : ((addMux capacity).run s).2.Follows ((addMux capacity).run s).1 Plan.new := by
    have hmux := mux_addMux s capacity
    refine ⟨lt_length_addMux s capacity, ?_, ?_⟩
    · show (((addMux capacity).run s).2.mux s.muxes.length).router.Ordered []
      rw [hmux]
      exact Router.ordered_new
    · show (((addMux capacity).run s).2.mux s.muxes.length).router.notFound = _
      rw [hmux]
      rfl
  exact hnew.performAll xs

/-! ### Serving requests -/

/-- A router that follows a plan serves a request with the script that the plan asks for. -/
theorem Follows.route_run (h : s.Follows id plan) (hs : plan.Sound)
    (answer : (q : Question A) → Change A S q.Answer) (c : Context) (r : Request) :
    (route answer id c r).run s
      = (((Dispatch.ofRoutes s.view r c plan.registered).script plan.fallback r).run
          (fun i => i.elim) answer).run ((Site.prepare id).run s).2 := by
  show (((((Site.prepare id).run s).2.mux id).router.script
    ((Site.prepare id).run s).2.view c r).run (fun i => i.elim) answer).run
      ((Site.prepare id).run s).2 = _
  -- Compiling, if it happens, leaves what patterns can see.
  have hview : ((Site.prepare id).run s).2.view = s.view := by
    rw [prepare_run]
    split <;> rfl
  have hready := h.prepare
  rw [hview, Router.script_eq, Router.dispatch_of_ordered hready.order hs, hready.fallback]

/-- However a mux has been set up, its router serves every request as if the routes were tried in
the order of their registration. If one takes the request, then the first that does is chosen,
and its handler gets the context with the parameters of that route bound, and of no other. If none
does, and only then, the handler for the rest is called. The view and the state of the application
may have become any others since the mux was set up. -/
theorem route_first_registered (s : Site A S) (capacity : Nat) (xs : List (Setting A))
    (view : A.View) (state : S) (answer : (q : Question A) → Change A S q.Answer) (c : Context)
    (r : Request) :
    let opened := (opened capacity xs).run s
    let id := opened.1
    let site : Site A S := { opened.2 with view, state }
    let ready := ((prepare id).run site).2
    let plan := Plan.ofSettings xs
    match plan.registered.find? (·.takes view r c) with
    | some x =>
      let bound := x.pattern.bind r c
      (site.mux id).router.dispatch view c r = .route x bound
        ∧ x.pattern.Bound r c bound
        ∧ (route answer id c r).run site
            = ((x.endpoint.script bound r).run (fun i => i.elim) answer).run ready
    | none =>
      let informed := Router.withValidMethods c (Route.acceptedMethods view r c plan.registered)
      (site.mux id).router.dispatch view c r = .rest informed
        ∧ (route answer id c r).run site
            = ((plan.fallback.script informed r).run (fun i => i.elim) answer).run ready := by
  intro opened id site ready plan
  have hopened := follows_opened s capacity xs
  have hsound : plan.Sound := Plan.sound_ofSettings xs
  -- Neither the view nor the state says anything about a mux.
  have hsite : site.Follows id plan := ⟨hopened.bound, hopened.order, hopened.fallback⟩
  have hdispatch := Router.dispatch_of_ordered hsite.order hsound view c r
  have hrun := hsite.route_run hsound answer c r
  show match plan.registered.find? (·.takes view r c) with | some x => _ | none => _
  rw [Dispatch.ofRoutes] at hdispatch hrun
  cases hfirst : plan.registered.find? (·.takes view r c) with
  | some x =>
    rw [hfirst] at hdispatch hrun
    have htakes : x.takes view r c := List.find?_some hfirst
    rw [Route.takes, Bool.and_eq_true] at htakes
    exact ⟨hdispatch, Pattern.bound_of_accepts htakes.1, hrun⟩
  | none =>
    rw [hfirst] at hdispatch hrun
    exact ⟨hdispatch, hrun⟩

end Site

end HttpMux
