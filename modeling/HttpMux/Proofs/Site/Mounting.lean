import HttpMux.Layers.Routing
import HttpMux.Proofs.Pattern.Rest
import HttpMux.Proofs.Request.Target
import HttpMux.Proofs.Site.Outline

/-!
# `HttpMux.Proofs.Site.Mounting`: a mux behind a path prefix

A mux can be mounted behind a pattern that ends in an asterisk, with a layer outside all others that
routes on the rest of the path. Requests that come in this way are served as if they came to the mux
directly, without the layer and with the rest of the path as their path.

* `Layers.thread_subRouter`: what the layer does around whatever is inside it.
* `Site.Mounting`: a request that goes to such a mux, and the mux without the layer.
* `Site.Mounting.route_eq`: what comes back from the mux is what comes back from the other one.
* `Site.mounted_served_as_bare`: the same after every history, with what is known about the rest of
  the path.

A mux that is mounted as a handler that sees the request alone gets no context, so nothing of this
holds for it.
-/

set_option autoImplicit false

namespace HttpMux

variable {A : App} {S : Type}

/-- A request that goes to a route is one that the pattern of the route accepts, and the context is
the one that the pattern makes. -/
theorem Router.bound_of_dispatch {rt : Router A} (h : rt.Current) {v : A.View} {c bound : Context}
    {r : Request} {x : Route A} (hdispatch : rt.dispatch v c r = .route x bound) :
    x.pattern.Bound r c bound := by
  obtain ⟨-, htakes, rfl⟩ := h.ordered.route_of_dispatch hdispatch
  rw [Route.takes, Bool.and_eq_true] at htakes
  exact Pattern.bound_of_accepts htakes.1

/-- Around whatever is inside it, the layer hands the context inwards as it is, and the request with
the rest of the path that a pattern has bound. -/
theorem Layers.thread_subRouter {M : Type → Type} [Monad M] [LawfulMonad M]
    (answer : (q : Question A) → M q.Answer) (inside : Server M) {c : Context} {rest : String}
    (h : c.param? Context.restParam = some rest) (r : Request) :
    (subRouter.layer : Layer A).thread answer inside c r = inside c (r.withUrlPath rest) := by
  rw [subRouter, Layer.thread]
  dsimp only
  rw [h]
  exact bind_pure _

namespace Site

/-- A request that goes to mux `inner`. This mux is mounted on mux `root` and gets the context. The
pattern of its route is `body` with an asterisk at its end, and the outermost layer of `inner`
routes on the rest of the path. Mux `bare` is the same without this layer. -/
structure Mounting (s : Site A S) (root inner bare : MuxId) (body : String) (c : Context)
    (r : Request) (bound : Context) : Prop where
  layers : (s.mux inner).stack.layers = Layers.subRouter :: (s.mux bare).stack.layers
  twins : s.Twins inner bare
  dispatch : ∃ x p, (s.mux root).router.dispatch s.view c r = .route x bound
    ∧ x.endpoint = .mounted inner ∧ x.pattern = .placeholder p
    ∧ Placeholder.parse (body ++ "*") = .ok p

variable {s t : Site A S} {root inner bare : MuxId} {body : String} {c bound : Context}
  {r : Request} {app : (q : A.Ask) → Change A S (A.Answer q)}

/-- The parameters of the pattern are merged into the context, and the asterisk is bound to an end
of the path. -/
theorem Mounting.rest (h : s.Mounting root inner bare body c r bound) (hs : s.Sane []) :
    ∃ captured front rest, c.Merged captured bound ∧ bound.param? Context.restParam = some rest
      ∧ r.urlPath = front ++ rest
      ∧ (body.toList.getLast? = some '/' → rest.toList.head? = some '/') := by
  obtain ⟨x, p, hdispatch, -, hpattern, hparse⟩ := h.dispatch
  have hbound := Router.bound_of_dispatch (hs.current root) hdispatch
  rw [hpattern] at hbound
  obtain ⟨captured, hmatch, hmerged⟩ := hbound
  -- What the asterisk is bound to is an end of the path, and the bound context has it in any case.
  obtain ⟨front, rest, hpath, hrest, hslash⟩ := Placeholder.suffix_of_match? hparse hmatch
  refine ⟨captured, front, rest, hmerged, ?_, hpath, hslash⟩
  rw [hmerged.params, hrest, Option.some_or]

/-- Mux `root` hands the request to mux `inner`. -/
theorem Mounting.route_run (h : s.Mounting root inner bare body c r bound) (hs : s.Sane [])
    (ht : t.Sane []) (hsame : t.outline = s.outline) (depth : Nat) :
    (Site.route (Site.answer app (Site.serve app depth)) root c r).run t
      = (Site.serve app depth inner bound r).run ((Site.prepare root).run t).2 := by
  obtain ⟨x, p, hdispatch, hendpoint, -⟩ := h.dispatch
  rw [route_run_of_outline hs ht hsame, hdispatch, Dispatch.script, hendpoint]
  rfl

/-- What lies inside the outermost layer of mux `inner` gets the request with the rest of its
path. -/
theorem Mounting.threadAll_eq (h : s.Mounting root inner bare body c r bound) {M : Type → Type}
    [Monad M] [LawfulMonad M] (answer : (q : Question A) → M q.Answer) (inside : Server M)
    {rest : String} (hrest : bound.param? Context.restParam = some rest) :
    threadAll answer inside (s.mux inner).stack.layers bound r
      = threadAll answer inside (s.mux bare).stack.layers bound (r.withUrlPath rest) := by
  rw [h.layers]
  exact Layers.thread_subRouter answer _ hrest r

/-- Mux `inner` serves the request as mux `bare` serves the one with the rest of the path. The sites
on which they serve may keep different things for reuse. -/
theorem Mounting.serve_eq (h : s.Mounting root inner bare body c r bound) (hs : s.Sane [])
    (ht : t.Sane []) (hsame : t.outline = s.outline)
    (happ : ∀ q, (agreeing inner bare).rel (app q) (app q)) {rest : String}
    (hrest : bound.param? Context.restParam = some rest) (depth : Nat) :
    ((Site.serve app depth inner bound r).run t).1
      = ((Site.serve app depth bare bound (r.withUrlPath rest)).run s).1 := by
  cases depth with
  | zero => rfl
  | succ depth =>
    have hagree : Agree inner bare t s := ⟨ht, hs, hsame, h.twins.congr hsame.symm⟩
    have hanswer := agreeing_answer happ (agreeing_serve happ depth)
    refine (hagree.serve ?_).1
    -- Behind its outermost layer, `inner` has the layers of `bare`, and their routers are twins.
    dsimp only
    rw [layers_eq_of_outline hsame, h.threadAll_eq _ _ hrest]
    exact (agreeing_route (fun _ htwins => htwins.router) hanswer).threadAll (fun q _ => hanswer q)
      (fun m _ => m.layer.asksOnly_true) bound _

/-- What the router of mux `root` gives is what mux `bare` gives for the rest of the path. -/
theorem Mounting.route_eq (h : s.Mounting root inner bare body c r bound) (hs : s.Sane [])
    (ht : t.Sane []) (hsame : t.outline = s.outline)
    (happ : ∀ q, (agreeing inner bare).rel (app q) (app q)) {rest : String}
    (hrest : bound.param? Context.restParam = some rest) (depth : Nat) :
    ((Site.route (Site.answer app (Site.serve app depth)) root c r).run t).1
      = ((Site.serve app depth bare bound (r.withUrlPath rest)).run s).1 := by
  rw [h.route_run hs ht hsame depth]
  exact h.serve_eq hs (ht.prepare root) ((outline_prepare t root).trans hsame) happ hrest depth

/-- Take a request that goes to a mux behind a pattern with an asterisk at its end, after any
history. The asterisk is bound to an end of the path, which begins with the slash in front of the
asterisk if there is one. All that lies inside the outermost layer of the mux gets the context with
the parameters of the pattern, and the request with this end as its path and with everything else as
it was. The outcome and the final context are those of the mux without this layer, when it serves
that request with that context. If mux `root` has no layers, then they are those of mux `root`. -/
theorem mounted_served_as_bare (happ : ∀ q, (agreeing inner bare).rel (app q) (app q))
    (capacities : List Nat) (idBase elapsed : String) (view : A.View) (state : S)
    (history : List (Action A)) :
    let site := ((World.start capacities idBase elapsed view state).run app history).site
    site.Mounting root inner bare body c r bound →
      ∃ captured front rest, c.Merged captured bound ∧ bound.param? Context.restParam = some rest
        ∧ r.urlPath = front ++ rest
        ∧ (body.toList.getLast? = some '/' → rest.toList.head? = some '/')
        ∧ let sub := r.withUrlPath rest
          sub = { r with target := sub.target } ∧ sub.urlPath = rest ∧ sub.query? = r.query?
          ∧ (∀ (M : Type → Type) [Monad M] [LawfulMonad M] (answer : (q : Question A) → M q.Answer)
              (inside : Server M),
              let ch := ((Site.alloc inner).run site).1
              ch.serve answer inside bound r = (fun served => (served, ch))
                <$> threadAll answer inside (site.mux bare).stack.layers bound sub)
          ∧ ∀ depth,
              let direct := ((Site.serve app depth bare bound sub).run site).1
              ((Site.route (Site.answer app (Site.serve app depth)) root c r).run site).1 = direct
                ∧ ((site.mux root).stack.layers = [] →
                    ((Site.serve app (depth + 1) root c r).run site).1 = direct) := by
  intro site h
  have hsane : site.Sane [] :=
    sane_run (fun q => (happ q).1) capacities idBase elapsed view state history
  obtain ⟨captured, front, rest, hmerged, hrest, hpath, hslash⟩ := h.rest hsane
  -- A path has no question mark, so the rest of one keeps the query where it is.
  have hmark : '?' ∉ rest.toList := by
    intro hmem
    refine r.mark_not_mem_urlPath ?_
    rw [hpath, String.toList_append]
    exact List.mem_append_right _ hmem
  refine ⟨captured, front, rest, hmerged, hrest, hpath, hslash, rfl,
    Request.urlPath_withUrlPath hmark, Request.query?_withUrlPath hmark, ?_, fun depth => ⟨?_, ?_⟩⟩
  · intro M _ _ answer inside ch
    have hidle := hsane.idle_taken inner
    have hinner : ch.inner = inner := hsane.inner_taken inner
    rw [Chain.serve_of_slot_empty answer hidle.homed.slot, hidle.layers hinner,
      h.threadAll_eq answer inside hrest]
  · exact h.route_eq hsane hsane rfl happ hrest depth
  · intro hnone
    have htaken : ((Site.alloc root).run site).2.Sane [] := hsane.taken root
    rw [(serve_threaded hsane app depth root c r).1, hnone]
    exact h.route_eq hsane htaken (outline_alloc site root) happ hrest depth

/-- An application that counts what it is asked for. -/
def counting : App := ⟨Unit, fun _ => Nat, Unit⟩

/-- The application counts. -/
def count (_ : counting.Ask) : Change counting Nat Nat :=
  modifyGet fun s => (s.state, { s with state := s.state + 1 })

/-- Counting is the same on sites that agree. -/
theorem agreeing_count (a b : MuxId) (q : counting.Ask) :
    (agreeing a b).rel (count q) (count q) := by
  refine ⟨fun _ _ _ h => h.congr rfl, fun _ _ _ h => h.congr rfl, fun s s' h => ?_⟩
  -- The count is part of the outline, so it is the same on both sites.
  have hstate : s.outline.state = s'.outline.state := by rw [h.same]
  have hsame : { s.outline with state := s.outline.state + 1 }
      = { s'.outline with state := s'.outline.state + 1 } := by rw [h.same]
  exact ⟨hstate, hsame, ⟨h.twins.routes, h.twins.notFound⟩⟩

/-- A route whose handler counts and sends back the path that it has seen. -/
def countingRoute : Mux.Setup counting :=
  .handle (.text "/files/:file") (MethodSet.of .get)
    (.plain fun r => .ask (.app ()) fun _ =>
      .done (.response ((Response.new .ok).withText r.urlPath)))

/-- A request with a path of three parts and a query. -/
def threePart : Request := ⟨.get, "/ann/files/x?v=1", .http11, ⟨[]⟩, [], none⟩

/-- Mux 1 routes on the rest of the path and is mounted on mux 0. Mux 2 is the same without the
layer. -/
def mountedHistory : List (Action counting) :=
  [.setup 0 (.handle (.text "/:user/*") (MethodSet.of .get) (.mounted 1)),
    .setup 1 (.use Layers.subRouter), .setup 1 countingRoute, .setup 2 countingRoute,
    .traffic (.compile 0), .traffic (.alloc 1)]

/-- The pattern behind which mux 1 is mounted. -/
def userPattern : Placeholder := ⟨"/:user/*", [⟨"/", "user", Placeholder.slash⟩], "/", true⟩

/-- The route of mux 0. -/
def mountedRoute : Route counting := ⟨.placeholder userPattern, MethodSet.of .get, .mounted 1⟩

/-- The context with the user and the rest of the path. -/
def threePartBound : Context := ⟨⟨[("*", "/files/x"), ("user", "ann")]⟩, Dict.empty⟩

/-- The site behind this history. -/
def mountedSite : Site counting Nat :=
  ((World.start [1, 1, 1] "" "" () 0).run count mountedHistory).site

/-- Mux 0 has the one route. -/
theorem routes_mountedSite : (mountedSite.mux 0).router.routes = [mountedRoute] := by
  with_unfolding_all rfl

/-- The request goes to this route, with its user and the rest of its path. -/
theorem dispatch_threePart : (mountedSite.mux 0).router.dispatch mountedSite.view Context.empty
    threePart = .route mountedRoute threePartBound := by
  have hsane : mountedSite.Sane [] := sane_run (fun q => (agreeing_count 1 2 q).1) _ _ _ _ _ _
  have hcurrent : (mountedSite.mux 0).router.Current := hsane.current 0
  -- The table is compiled already, so its compiled form is compared and not computed.
  have hready : (mountedSite.mux 0).router.ready = Machine.ofRoutes [mountedRoute] := by
    rw [hcurrent.ready_eq, Router.forgotten, routes_mountedSite]
    rfl
  have htake : mountedRoute.mayTake threePart = true := by decide
  rw [Router.dispatch_of_ready hready, List.filter_cons_of_pos htake, List.filter_nil]
  with_unfolding_all rfl

/-- Mux 1 is mounted on mux 0, and mux 2 is the same without the layer. -/
theorem mounting_mountedSite :
    mountedSite.Mounting 0 1 2 "/:user/" Context.empty threePart threePartBound := by
  refine ⟨by with_unfolding_all rfl, ⟨by with_unfolding_all rfl, by with_unfolding_all rfl⟩, ?_⟩
  exact ⟨mountedRoute, userPattern, dispatch_threePart, rfl, rfl, by decide +kernel⟩

/-- The request with the rest of its path is served by mux 2 as the request is by mux 0. -/
theorem threePart_served_as_bare :
    (∀ q, (agreeing 1 2).rel (count q) (count q))
      ∧ mountedSite.Mounting 0 1 2 "/:user/" Context.empty threePart threePartBound
      ∧ ((Site.serve count 2 0 Context.empty threePart).run mountedSite).1
          = ((Site.serve count 1 2 threePartBound { threePart with target := "/files/x?v=1" }).run
              mountedSite).1 := by
  refine ⟨agreeing_count 1 2, mounting_mountedSite, ?_⟩
  obtain ⟨-, -, rest, -, hrest, -, -, -, -, -, -, hserve⟩ :=
    mounted_served_as_bare (agreeing_count 1 2) [1, 1, 1] "" "" () 0 mountedHistory
      mounting_mountedSite
  obtain rfl : rest = "/files/x" := (Option.some.inj hrest).symm
  exact (hserve 1).2 (by with_unfolding_all rfl)

end Site

end HttpMux
