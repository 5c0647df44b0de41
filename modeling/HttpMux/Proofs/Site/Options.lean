import HttpMux.Layers.Routing
import HttpMux.Proofs.Site.Outline
import Mathlib.Data.List.Sort

/-!
# `HttpMux.Proofs.Site.Options`: automatic answers to OPTIONS

A layer answers OPTIONS requests for which there is no route with the methods that there are routes
for. It sees only the response and the context that come back from the router, so its answer is
right because of when the router leaves the methods there: only if no route takes the request, and
only if there is some method with which one would.

* `Pattern.BuiltIn`: the patterns that come with the router.
* `Layers.thread_automaticOptions`: what the layer does around whatever is inside it.
* `Site.AnswersOptions`: a mux that has this layer and no other one.
* `Site.AnswersOptions.serve_of_valid`, `serve_of_other_valid` and `serve_of_none_valid`: an OPTIONS
  request that a route takes, one that a route would take with another method, and one that no route
  would take.
* `Site.options_answered`: all requests, after every history.

A route may be registered without any method. If the path matches such a route and no other one,
then no method is left for the layer, and the answer is that of a path without routes.
-/

set_option autoImplicit false

namespace HttpMux

variable {A : App} {S : Type}

/-! ### Patterns -/

namespace Pattern

variable {View : Type}

/-- The patterns that come with the router: a placeholder pattern that a text spells, and a regular
expression that was read from its source, with any properties, or is given ready. -/
def BuiltIn : Pattern View → Prop
  | placeholder p => ∃ raw, Placeholder.parse raw = .ok p
  | regular p =>
    (∃ source properties, Regular.ofSource? source properties = some p)
      ∨ ∃ regex, p = .ofRegex regex
  | own _ => False

variable {p : Pattern View}

/-- The patterns that come with the router look only at the path. -/
theorem BuiltIn.pathOnly (h : p.BuiltIn) : p.PathOnly := by
  cases p with
  | placeholder p => exact pathOnly_placeholder p
  | regular p => exact pathOnly_regular p
  | own p => exact h.elim

/-- The patterns that come with the router accept only paths that begin with the text they name. -/
theorem BuiltIn.sound (h : p.BuiltIn) : p.Sound := by
  intro v r c haccepts
  cases p with
  | placeholder p => exact Placeholder.isPrefixOf_of_accepts haccepts
  | regular p =>
    rcases h with ⟨source, properties, hp⟩ | ⟨regex, rfl⟩
    · exact Regular.isPrefixOf_of_accepts hp haccepts
    · rfl
  | own p => exact h.elim

/-- Binding parameters leaves the environment as it is. -/
theorem BuiltIn.value?_bind (h : p.BuiltIn) (r : Request) (c : Context) (key : String) :
    (p.bind r c).value? key = c.value? key := by
  cases p with
  | placeholder p =>
    rw [bind]
    cases p.match? r.urlPath <;> rfl
  | regular p =>
    rw [bind]
    cases p.match? r.urlPath <;> rfl
  | own p => exact h.elim

end Pattern

/-! ### Responses -/

namespace Response

/-- What is said about a path without routes. -/
def notFoundPage : Response where
  status := .notFound
  headers := ⟨[("Content-Length", "19"), ("Content-Type", "text/plain; charset=utf-8"),
    ("Server", "microweb-rs")]⟩
  body := Bytes.ofText "404 page not found\n"

/-- An empty response with nothing but a list of methods. -/
def allowed (methods : String) : Response where
  status := .ok
  headers := ⟨[("Allow", methods), ("Content-Length", "0"), ("Server", "microweb-rs")]⟩
  body := []

end Response

/-- Where no handler is set for the rest, it is said that there is no such page. -/
theorem Endpoint.notFound_eq : (Endpoint.notFound : Endpoint A) = .constant Response.notFoundPage :=
  rfl

/-- Of what is said about a path without routes, the layer leaves only the name of the server. -/
theorem Layers.allowing_notFoundPage (names : List String) :
    allowing names Response.notFoundPage
      = Response.allowed (String.intercalate ", " (withOptions names)) := by
  have hstart : ({ Response.notFoundPage with status := .ok }.withoutHeader "Content-Type").headers
      = ⟨[("Content-Length", "19"), ("Server", "microweb-rs")]⟩ := rfl
  -- The list of methods is left open here, as it is not known which these are.
  have hallow : ∀ value, Headers.set ⟨[("Content-Length", "19"), ("Server", "microweb-rs")]⟩
      "Allow" value
        = ⟨[("Allow", value), ("Content-Length", "19"), ("Server", "microweb-rs")]⟩ := by
    intro value
    have hspelling : Headers.spelling? ⟨[("Content-Length", "19"), ("Server", "microweb-rs")]⟩
        "Allow" = none := by decide +kernel
    rw [Headers.set, Headers.without, hspelling]
    rfl
  have hlength : ∀ value, Headers.set
      ⟨[("Allow", value), ("Content-Length", "19"), ("Server", "microweb-rs")]⟩
      "Content-Length" "0"
        = ⟨[("Allow", value), ("Content-Length", "0"), ("Server", "microweb-rs")]⟩ := by
    intro value
    have hfind : ["Allow", "Content-Length", "Server"].find? (Text.sameName · "Content-Length")
        = some "Content-Length" := by decide +kernel
    have hspelling : Headers.spelling?
        ⟨[("Allow", value), ("Content-Length", "19"), ("Server", "microweb-rs")]⟩
        "Content-Length" = some "Content-Length" := hfind
    rw [Headers.set, Headers.without, hspelling]
    rfl
  rw [allowing, Response.withHeader, hstart, hallow, Response.withBody, Response.withHeader]
  show Response.mk _ (Headers.set _ _ "0") _ = _
  rw [hlength]
  rfl

/-! ### The layer -/

namespace Layers

/-- What the layer makes of what comes back from inside. -/
def answered (r : Request) (served : Served) : Served :=
  match served.outcome with
  | .failure _ => served
  | .response resp =>
    if r.method = .options ∧ resp.status = .notFound then
      match served.context.validMethods? with
      | some names => { served with outcome := .response (allowing names resp) }
      | none => served
    else served

/-- Around whatever is inside it, the layer hands the request inwards as it is, and then changes at
most the response. -/
theorem thread_automaticOptions {M : Type → Type} [Monad M] [LawfulMonad M]
    (answer : (q : Question A) → M q.Answer) (inside : Server M) (c : Context) (r : Request) :
    (automaticOptions.layer : Layer A).thread answer inside c r
      = answered r <$> inside c r := by
  rw [map_eq_pure_bind, automaticOptions, Layer.thread]
  refine bind_congr fun served => ?_
  obtain ⟨context, outcome⟩ := served
  -- Only a response of status 404 is looked at more closely.
  cases outcome with
  | failure f => rfl
  | response resp =>
    simp only [answered, Script.bind]
    split
    · cases context.validMethods? <;> rfl
    · rfl

variable {r : Request} {served : Served}

/-- Requests with other methods are left alone. -/
theorem answered_of_method_ne (h : r.method ≠ .options) : answered r served = served := by
  rw [answered]
  split
  · rfl
  · rw [if_neg fun hboth => h hboth.1]

/-- Requests for which no methods have been left are left alone. -/
theorem answered_of_value?_eq_none
    (h : served.context.value? Context.validMethodsKey = none) : answered r served = served := by
  have hnone : served.context.validMethods? = none := by
    rw [Context.validMethods?, h]
    rfl
  rw [answered]
  split
  · rfl
  · split
    · rw [hnone]
    · rfl

/-- What is said about a path without routes becomes a list of the methods that have been left. -/
theorem answered_of_page (hmethod : r.method = .options)
    (hpage : served.outcome = .response Response.notFoundPage) {names : List String}
    (hvalue : served.context.value? Context.validMethodsKey
      = some (.array (names.map .string))) (hown : Method.options.name ∉ names) :
    (answered r served).outcome = .response
      (Response.allowed (String.intercalate ", " (names ++ [Method.options.name]))) := by
  have hnames : served.context.validMethods? = some names := by
    rw [Context.validMethods?, hvalue]
    simp [Json.array?, Json.string?, List.filterMap_map, Function.comp_def]
  have hstatus : Response.notFoundPage.status = .notFound := rfl
  rw [answered, hpage]
  dsimp only
  rw [if_pos ⟨hmethod, hstatus⟩, hnames]
  dsimp only
  rw [allowing_notFoundPage, withOptions, if_neg hown]

end Layers

/-! ### Muxes with this layer -/

/-- If a handler finds no methods in the environment, it leaves none there. -/
def Endpoint.LeavesNoMethods (answer : (q : Question A) → Site.Change A S q.Answer)
    (e : Endpoint A) : Prop :=
  ∀ (c : Context) (r : Request) (s : Site A S), c.value? Context.validMethodsKey = none →
    (((e.script c r).run (fun i => i.elim) answer).run s).1.context.value? Context.validMethodsKey
      = none

namespace Site

/-- A mux that has the layer and no other one, patterns that come with the router, handlers that
leave no methods in the environment, and nothing set for the rest. -/
structure AnswersOptions (s : Site A S) (answer : (q : Question A) → Change A S q.Answer)
    (id : MuxId) : Prop where
  layers : (s.mux id).stack.layers = [Layers.automaticOptions]
  notFound : (s.mux id).router.notFound = Endpoint.notFound
  builtIn : ∀ x ∈ (s.mux id).router.routes, x.pattern.BuiltIn
  endpoints : ∀ x ∈ (s.mux id).router.routes, x.endpoint.LeavesNoMethods answer

/-- What a mux gives for a request without its layers: the chain that it takes is run with none. -/
def servedBare (app : (q : A.Ask) → Change A S (A.Answer q)) (depth : Nat) (id : MuxId)
    (c : Context) (r : Request) (s : Site A S) : Served :=
  let taken := (Site.alloc id).run s
  let bare : Chain A := { taken.1 with layers := [] }
  ((Site.serveOn (Site.answer app (Site.serve app depth)) bare c r).run taken.2).1.1

variable {s : Site A S} {app : (q : A.Ask) → Change A S (A.Answer q)} {depth : Nat} {id : MuxId}
  {c : Context} {r : Request}

/-- Without its layers, a mux runs the handler that its router chooses. -/
theorem servedBare_eq (hs : s.Sane []) (app : (q : A.Ask) → Change A S (A.Answer q)) (depth : Nat)
    (id : MuxId) (c : Context) (r : Request) :
    let rt := (s.mux id).router
    let ready := ((Site.prepare id).run ((Site.alloc id).run s).2).2
    servedBare app depth id c r s
      = ((((rt.dispatch s.view c r).script rt.notFound r).run (fun i => i.elim)
          (Site.answer app (Site.serve app depth))).run ready).1 := by
  intro rt ready
  let taken := (Site.alloc id).run s
  -- Without layers, serving on the chain is running the router of its mux.
  have hbare : ({ taken.1 with layers := [] } : Chain A).slot = Context.empty :=
    (hs.idle_taken id).homed.slot
  show ((Site.serveOn _ { taken.1 with layers := [] } c r).run taken.2).1.1 = _
  rw [← route_run_of_outline hs (hs.taken id) (outline_alloc s id), Site.serveOn,
    Chain.serve_of_slot_empty _ hbare, hs.inner_taken id]
  rfl

/-- With the layer and no other one, it changes at most the response. -/
theorem serve_eq_answered (hs : s.Sane [])
    (hlayers : (s.mux id).stack.layers = [Layers.automaticOptions])
    (app : (q : A.Ask) → Change A S (A.Answer q)) (depth : Nat) (c : Context) (r : Request) :
    ((Site.serve app (depth + 1) id c r).run s).1
      = Layers.answered r (servedBare app depth id c r s) := by
  have hroute := route_run_of_outline hs (hs.taken id) (outline_alloc s id)
    (Site.answer app (Site.serve app depth)) id c r
  have hthread : ∀ (answer : (q : Question A) → Change A S q.Answer) (inside : Server _),
      threadAll answer inside [Layers.automaticOptions] c r = Layers.answered r <$> inside c r :=
    fun answer inside => Layers.thread_automaticOptions answer inside c r
  rw [(serve_threaded hs app depth id c r).1, hlayers, hthread, servedBare_eq hs, ← hroute]
  rfl

/-! ### Requests with the method OPTIONS -/

namespace AnswersOptions

variable (h : s.AnswersOptions (Site.answer app (Site.serve app depth)) id) (hs : s.Sane [])

include h hs

/-- The methods with which a request would be sent to a route are those of the routes whose pattern
accepts it. -/
theorem serves_iff (m : Method) :
    (s.mux id).router.Serves s.view c r m
      ↔ ∃ x ∈ (s.mux id).router.routes,
          x.pattern.accepts s.view r c ∧ x.methods.contains m := by
  rw [(hs.ordered id).serves_iff fun x hx => (h.builtIn x hx).pathOnly]
  refine exists_congr fun x => and_congr_right fun hx => and_congr_left fun _ => ?_
  rw [Route.matched, Bool.and_eq_true]
  exact and_iff_right_of_imp fun haccepts =>
    Route.mayTake_of_accepts (h.builtIn x hx).sound haccepts

/-- If a route takes the request, its handler answers, whatever it answers with. -/
theorem serve_of_valid (hc : c.value? Context.validMethodsKey = none) {x : Route A}
    {bound : Context} (hdispatch : (s.mux id).router.dispatch s.view c r = .route x bound) :
    let ready := ((Site.prepare id).run ((Site.alloc id).run s).2).2
    let bare := servedBare app depth id c r s
    bare = (((x.endpoint.script bound r).run (fun i => i.elim)
        (Site.answer app (Site.serve app depth))).run ready).1
      ∧ ((Site.serve app (depth + 1) id c r).run s).1 = bare := by
  intro ready bare
  obtain ⟨hx, -, hbound⟩ := (hs.ordered id).route_of_dispatch hdispatch
  have hbare : bare = (((x.endpoint.script bound r).run (fun i => i.elim)
      (Site.answer app (Site.serve app depth))).run ready).1 := by
    show servedBare app depth id c r s = _
    rw [servedBare_eq hs, hdispatch]
    rfl
  -- Binding writes no methods, and neither does the handler.
  have hnone : bound.value? Context.validMethodsKey = none := by
    rw [hbound, (h.builtIn x hx).value?_bind, hc]
  refine ⟨hbare, ?_⟩
  rw [serve_eq_answered hs h.layers]
  refine Layers.answered_of_value?_eq_none ?_
  show bare.context.value? _ = none
  rw [hbare]
  exact h.endpoints x hx bound r ready hnone

/-- If no route takes the request, the handler for the rest is told with which methods one would. -/
theorem servedBare_of_not_valid (hnone : ¬ (s.mux id).router.Serves s.view c r r.method) :
    ∃ methods : MethodSet, (∀ m, methods.contains m ↔ (s.mux id).router.Serves s.view c r m)
      ∧ servedBare app depth id c r s
        = ⟨Router.withValidMethods c methods, .response Response.notFoundPage⟩ := by
  have hpath : ∀ x ∈ (s.mux id).router.routes, x.pattern.PathOnly :=
    fun x hx => (h.builtIn x hx).pathOnly
  -- These are the methods that the search for a route has collected on its way.
  refine ⟨Route.acceptedMethods s.view r c ((s.mux id).router.routes.filter (·.mayTake r)),
    fun m => ?_, ?_⟩
  · exact Route.contains_acceptedMethods.trans ((hs.ordered id).serves_iff hpath m).symm
  · rw [servedBare_eq hs, (hs.ordered id).dispatch_of_not_serves hpath hnone, Dispatch.script,
      h.notFound, Endpoint.notFound_eq]
    rfl

/-- If a route would take the request with another method, the response lists these methods. -/
theorem serve_of_other_valid (hmethod : r.method = .options)
    (hnone : ¬ (s.mux id).router.Serves s.view c r .options)
    (hother : ∃ m, (s.mux id).router.Serves s.view c r m) :
    ∃ names : List String, names.Pairwise (· < ·)
      ∧ (∀ name, name ∈ names ↔ ∃ m, (s.mux id).router.Serves s.view c r m ∧ m.name = name)
      ∧ ((Site.serve app (depth + 1) id c r).run s).1.outcome = .response
          (Response.allowed (String.intercalate ", " (names ++ [Method.options.name]))) := by
  obtain ⟨methods, hmethods, hbare⟩ := servedBare_of_not_valid h hs (hmethod ▸ hnone)
  have hnames : ∀ name, name ∈ methods.names
      ↔ ∃ m, (s.mux id).router.Serves s.view c r m ∧ m.name = name := fun name =>
    MethodSet.mem_names.trans (exists_congr fun m => and_congr_left fun _ => hmethods m)
  -- The layer adds OPTIONS to the names, so it must not be among them already.
  have hown : Method.options.name ∉ methods.names := by
    rw [hnames]
    rintro ⟨m, hm, hname⟩
    exact hnone (Method.name_injective hname ▸ hm)
  refine ⟨methods.names, methods.pairwise_names, hnames, ?_⟩
  rw [serve_eq_answered hs h.layers]
  refine Layers.answered_of_page hmethod ?_ ?_ hown
  · rw [hbare]
  · rw [hbare]
    exact Router.value?_withValidMethods (hother.imp fun m => (hmethods m).mpr) c

/-- If no route would take the request with any method, it is told so. -/
theorem serve_of_none_valid (hc : c.value? Context.validMethodsKey = none)
    (hnone : ¬ ∃ m, (s.mux id).router.Serves s.view c r m) :
    ((Site.serve app (depth + 1) id c r).run s).1 = ⟨c, .response Response.notFoundPage⟩ := by
  obtain ⟨methods, hmethods, hbare⟩ :=
    servedBare_of_not_valid h hs (r := r) fun hserves => hnone ⟨_, hserves⟩
  have hempty : ¬ ∃ m, methods.contains m := fun ⟨m, hm⟩ => hnone ⟨m, (hmethods m).mp hm⟩
  rw [Router.withValidMethods_of_none hempty] at hbare
  rw [serve_eq_answered hs h.layers, hbare]
  exact Layers.answered_of_value?_eq_none hc

end AnswersOptions

/-- Take a mux with this layer and no other one, after any history, and a request whose context has
no methods yet. With another method than OPTIONS, the request is served as without the layer. With
OPTIONS, it is served as without the layer too if some route takes it: the handler of the route
answers, and its response is left as it is. Otherwise, if a route would take the request with some
other method, then the response is an empty one that lists exactly these methods, in strictly
ascending order and with OPTIONS behind them. If there is no such method, the response is that of a
path without routes. -/
theorem options_answered (happ : ∀ q, Keeps (app q)) (capacities : List Nat)
    (idBase elapsed : String) (view : A.View) (state : S) (history : List (Action A))
    (depth : Nat) (id : MuxId) (c : Context) (r : Request) :
    let site := ((World.start capacities idBase elapsed view state).run app history).site
    let answer := Site.answer app (Site.serve app depth)
    site.AnswersOptions answer id → c.value? Context.validMethodsKey = none →
      let rt := (site.mux id).router
      let valid : Method → Prop := rt.Serves site.view c r
      let served := ((Site.serve app (depth + 1) id c r).run site).1
      let bare := servedBare app depth id c r site
      let ready := ((Site.prepare id).run ((Site.alloc id).run site).2).2
      (∀ m, valid m
          ↔ ∃ x ∈ rt.routes, x.pattern.accepts site.view r c ∧ x.methods.contains m)
        ∧ (r.method ≠ .options → served = bare)
        ∧ (r.method = .options →
            (valid .options → ∃ x bound, rt.dispatch site.view c r = .route x bound
                ∧ x ∈ rt.routes ∧ x.takes site.view r c ∧ x.pattern.Bound r c bound
                ∧ bare = (((x.endpoint.script bound r).run (fun i => i.elim) answer).run ready).1
                ∧ served = bare)
            ∧ (¬ valid .options → (∃ m, valid m) →
                ∃ names : List String, names.Pairwise (· < ·)
                  ∧ (∀ name, name ∈ names ↔ ∃ m, valid m ∧ m.name = name)
                  ∧ served.outcome = .response
                      (Response.allowed (String.intercalate ", " (names ++ ["OPTIONS"]))))
            ∧ ((¬ ∃ m, valid m) → served.outcome = .response Response.notFoundPage)) := by
  intro site answer h hc rt valid served bare ready
  have hs : site.Sane [] := sane_run happ capacities idBase elapsed view state history
  refine ⟨h.serves_iff hs, fun hmethod => ?_, fun hmethod => ⟨fun hvalid => ?_, ?_, ?_⟩⟩
  · exact (serve_eq_answered hs h.layers app depth c r).trans (Layers.answered_of_method_ne hmethod)
  · -- Being sent to a route with the method OPTIONS is being sent to it as it is.
    obtain ⟨x, bound, hdispatch⟩ := hvalid
    have hr : { r with method := .options } = r := by rw [← hmethod]
    rw [hr] at hdispatch
    obtain ⟨hx, htakes, hbound⟩ := (hs.ordered id).route_of_dispatch hdispatch
    obtain ⟨hbare, hserved⟩ := h.serve_of_valid hs hc hdispatch
    have haccepts : x.pattern.accepts site.view r c := by
      rw [Route.takes, Bool.and_eq_true] at htakes
      exact htakes.1
    exact ⟨x, bound, hdispatch, hx, htakes, hbound ▸ Pattern.bound_of_accepts haccepts, hbare,
      hserved⟩
  · exact h.serve_of_other_valid hs hmethod
  · exact fun hnone => congrArg Served.outcome (h.serve_of_none_valid hs hc hnone)

/-- A site on which mux 1 has served a request, whose handler made the application change the layers
of that mux. Mux 0 has a route for one path, with the same handler, and the layer. -/
def optionsSite (methods : MethodSet) : Site asking Unit :=
  ((World.start [1, 1] "" "" () ()).run reconfigure
    [.setup 1 (.notFound askingHandler), .traffic (.serve 1 1 Context.empty failingRequest),
      .setup 0 (.handle (.text "/x") methods askingHandler),
      .setup 0 (.use Layers.automaticOptions)]).site

/-- An OPTIONS request for this path. -/
def optionsRequest : Request := ⟨.options, "/x", .http11, ⟨[]⟩, [], none⟩

/-- The pattern of the path. -/
def optionsPattern : Placeholder := ⟨"/x", [], "/x", false⟩

/-- The route of the site. -/
def optionsRoute (methods : MethodSet) : Route asking :=
  ⟨.placeholder optionsPattern, methods, askingHandler⟩

/-- The only route of mux 0 is the one that was registered. -/
theorem routes_optionsSite (methods : MethodSet) :
    ((optionsSite methods).mux 0).router.routes = [optionsRoute methods] := by
  with_unfolding_all rfl

/-- Mux 0 answers OPTIONS automatically, and its only handler touches no context. -/
theorem answersOptions_optionsSite (methods : MethodSet) (depth : Nat) :
    (optionsSite methods).AnswersOptions (Site.answer reconfigure (Site.serve reconfigure depth))
      0 := by
  refine ⟨by with_unfolding_all rfl, by with_unfolding_all rfl, fun x hx => ?_, fun x hx => ?_⟩
  · rw [routes_optionsSite, List.mem_singleton] at hx
    rw [hx]
    exact ⟨"/x", by decide +kernel⟩
  · rw [routes_optionsSite, List.mem_singleton] at hx
    rw [hx]
    exact fun c r s hc => hc

/-- The pattern accepts the request, whatever the methods of the route are. -/
theorem accepts_optionsRequest : optionsPattern.accepts optionsRequest.urlPath = true := by
  decide +kernel

/-- The request would be sent to the route with the methods that this has. -/
theorem serves_optionsSite (methods : MethodSet) (m : Method) :
    ((optionsSite methods).mux 0).router.Serves (optionsSite methods).view Context.empty
      optionsRequest m ↔ methods.contains m := by
  have hs : (optionsSite methods).Sane [] := sane_run keeps_reconfigure _ _ _ _ _ _
  rw [(answersOptions_optionsSite methods 0).serves_iff hs, routes_optionsSite]
  simp only [List.mem_singleton, exists_eq_left]
  exact and_iff_right accepts_optionsRequest

/-- For a path with a route for GET and HEAD, these two are listed, and OPTIONS. -/
theorem options_answered_getHead :
    let site := optionsSite Method.get.served
    (∀ q, Keeps (reconfigure q))
      ∧ site.AnswersOptions (Site.answer reconfigure (Site.serve reconfigure 0)) 0
      ∧ Context.empty.value? Context.validMethodsKey = none
      ∧ ((Site.serve reconfigure 1 0 Context.empty optionsRequest).run site).1.outcome
          = .response (Response.allowed "GET, HEAD, OPTIONS") := by
  intro site
  have hsite := answersOptions_optionsSite Method.get.served 0
  have hserves := serves_optionsSite Method.get.served
  obtain ⟨-, -, hoptions⟩ :=
    options_answered keeps_reconfigure [1, 1] "" "" () () _ 0 0 Context.empty optionsRequest
      hsite rfl
  obtain ⟨-, hother, -⟩ := hoptions rfl
  obtain ⟨names, hpairwise, hmem, houtcome⟩ :=
    hother (fun hown => absurd ((hserves _).mp hown) (by decide)) ⟨.get, (hserves _).mpr rfl⟩
  -- Ascending lists with the same members are the same.
  have hnames : names = Method.get.served.names :=
    hpairwise.eq_of_mem_iff (MethodSet.pairwise_names _) fun name =>
      (hmem name).trans ((exists_congr fun m => and_congr_left fun _ => hserves m).trans
        MethodSet.mem_names.symm)
  rw [hnames] at houtcome
  exact ⟨keeps_reconfigure, hsite, rfl, houtcome⟩

/-- If the only route that matches the path has no methods, the path is one without routes. -/
theorem options_unanswered_noMethods :
    let site := optionsSite MethodSet.empty
    let outcome := ((Site.serve reconfigure 1 0 Context.empty optionsRequest).run site).1.outcome
    site.AnswersOptions (Site.answer reconfigure (Site.serve reconfigure 0)) 0
      ∧ Context.empty.value? Context.validMethodsKey = none
      ∧ (∃ x ∈ (site.mux 0).router.routes,
          x.pattern.accepts site.view optionsRequest Context.empty = true)
      ∧ ¬ (site.mux 0).router.Serves site.view Context.empty optionsRequest .options
      ∧ outcome = .response Response.notFoundPage
      ∧ ¬ ∃ methods, outcome = .response (Response.allowed methods) := by
  intro site outcome
  have hs : site.Sane [] := sane_run keeps_reconfigure _ _ _ _ _ _
  have hsite := answersOptions_optionsSite MethodSet.empty 0
  have hserves : ∀ m, ¬ (site.mux 0).router.Serves site.view Context.empty optionsRequest m := by
    intro m hm
    cases (serves_optionsSite MethodSet.empty m).mp hm
  have houtcome : outcome = .response Response.notFoundPage :=
    congrArg Served.outcome (hsite.serve_of_none_valid hs rfl fun ⟨m, hm⟩ => hserves m hm)
  refine ⟨hsite, rfl, ?_, hserves _, houtcome, ?_⟩
  · refine ⟨optionsRoute MethodSet.empty, ?_, accepts_optionsRequest⟩
    rw [routes_optionsSite]
    exact List.mem_cons_self
  · rintro ⟨methods, hmethods⟩
    rw [houtcome] at hmethods
    cases hmethods

end Site

end HttpMux
