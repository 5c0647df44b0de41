import HttpMux.Proofs.Chain.Transparency
import HttpMux.Proofs.Route.Table
import Mathlib.Data.String.Basic

/-!
# `HttpMux.Proofs.Route.ValidMethods`: the methods that would have been accepted

When no route takes a request, the router leaves the methods that would have been accepted for the
handler for the rest. They are collected in one search for one method, on the compiled table, while
what they stand for is a search for each method. The two agree for patterns that look only at the
path.

* `Router.Step`: one change of a router, and `Router.ordered_ofSteps`: every router that changes
  lead to tries its routes in the order of their registration.
* `Router.Ordered.serves_iff`: with which methods a request is sent to a route, said without tables.
* `MethodSet.pairwise_names`: the names of the members ascend strictly.
* `Router.validMethods_of_no_route`: the stored methods are exactly those with which the request
  would have been sent to a route, and nothing else of the context changes.

Nothing is asked of the texts that patterns name. A route whose text the path does not begin with is
never tried, and that does not depend on the method.
-/

set_option autoImplicit false

namespace HttpMux

variable {A : App}

/-! ### Names of methods -/

namespace MethodSet

/-- The names of the members ascend strictly, so none of them occurs twice. -/
theorem pairwise_names (s : MethodSet) : s.names.Pairwise (· < ·) := by
  have hall : (Method.all.map Method.name).Pairwise (· < ·) := by decide
  exact hall.sublist (List.filter_sublist.map Method.name)

/-- A name is listed if a member has it. -/
theorem mem_names {s : MethodSet} {name : String} :
    name ∈ s.names ↔ ∃ m, s.contains m = true ∧ m.name = name := by
  simp [names]

end MethodSet

/-- Methods with the same name are the same. -/
theorem Method.name_injective {m m' : Method} (h : m.name = m'.name) : m = m' := by
  have hname := Method.ofName?_name m
  rw [h, Method.ofName?_name] at hname
  exact (Option.some.inj hname).symm

/-! ### Patterns that look only at the path -/

/-- Whether the pattern accepts a request depends on the path of the request alone. -/
def Pattern.PathOnly {View : Type} (p : Pattern View) : Prop :=
  ∀ (v v' : View) (r r' : Request) (c c' : Context),
    r.urlPath = r'.urlPath → p.accepts v r c = p.accepts v' r' c'

/-- A placeholder pattern looks only at the path. -/
theorem Pattern.pathOnly_placeholder {View : Type} (p : Placeholder) :
    (Pattern.placeholder p : Pattern View).PathOnly :=
  fun _ _ _ _ _ _ h => congrArg p.accepts h

/-- A regular expression looks only at the path. -/
theorem Pattern.pathOnly_regular {View : Type} (p : Regular) :
    (Pattern.regular p : Pattern View).PathOnly :=
  fun _ _ _ _ _ _ h => congrArg p.accepts h

namespace Route

/-- A route competes for the request, whatever the method, and accepts it. -/
def matched (v : A.View) (r : Request) (c : Context) (x : Route A) : Bool :=
  x.mayTake r && x.pattern.accepts v r c

variable {routes : List (Route A)} {v : A.View} {r : Request} {c : Context}

/-- A route whose pattern looks only at the path is matched by a request with any other method,
too. -/
theorem matched_withMethod {x : Route A} (hx : x.pattern.PathOnly) (m : Method) :
    x.matched v { r with method := m } c = x.matched v r c := by
  have haccepts : x.pattern.accepts v { r with method := m } c = x.pattern.accepts v r c :=
    hx v v _ _ c c rfl
  rw [matched, haccepts]
  rfl

/-- The methods that are collected are those of the routes that are matched. -/
theorem contains_acceptedMethods {m : Method} :
    (acceptedMethods v r c (routes.filter (·.mayTake r))).contains m = true
      ↔ ∃ x ∈ routes, x.matched v r c ∧ x.methods.contains m := by
  simp only [acceptedMethods, List.any_filter, List.any_eq_true, matched, Bool.and_eq_true,
    and_assoc]

/-- Some considered route takes the request if and only if some route is matched by it and has its
method. -/
theorem isSome_find?_takes :
    ((routes.filter (·.mayTake r)).find? (·.takes v r c)).isSome = true
      ↔ ∃ x ∈ routes, x.matched v r c ∧ x.methods.contains r.method := by
  simp only [List.find?_isSome, List.mem_filter, takes, matched, Bool.and_eq_true, and_assoc]

end Route

/-! ### Routers -/

namespace Router

/-- One change of a router: a route is added, the handler for the rest is replaced, or the table is
compiled, anew or only if its compiled form is not known. -/
inductive Step (A : App)
  | add (x : Route A)
  | notFound (e : Endpoint A)
  | compile
  | prepare

namespace Step

/-- The router after the change. -/
def perform : Step A → Router A → Router A
  | add x, rt => rt.add x
  | notFound e, rt => rt.withNotFound e
  | compile, rt => rt.compiled
  | prepare, rt => rt.prepared

/-- The route that the change adds. -/
def route? : Step A → Option (Route A)
  | add x => some x
  | notFound _ => none
  | compile => none
  | prepare => none

end Step

/-- The router that a list of changes leads to. -/
def ofSteps (steps : List (Step A)) : Router A := steps.foldl (fun rt x => x.perform rt) new

/-- The routes that a list of changes adds, in order. -/
def registered (steps : List (Step A)) : List (Route A) := steps.filterMap Step.route?

variable {rt : Router A} {routes : List (Route A)}

/-- A change adds its route, if any, at the end of those that an ordered router has registered. -/
theorem Ordered.perform (h : rt.Ordered routes) (x : Step A) :
    (x.perform rt).Ordered (routes ++ x.route?.toList) := by
  -- Only one kind of step adds a route. The others leave the list as it is.
  cases x with
  | add x => exact h.add x
  | notFound e =>
    show (rt.withNotFound e).Ordered (routes ++ [])
    rw [List.append_nil]
    exact h.withNotFound e
  | compile =>
    show rt.compiled.Ordered (routes ++ [])
    rw [List.append_nil]
    exact h.compiled
  | prepare =>
    show rt.prepared.Ordered (routes ++ [])
    rw [List.append_nil, prepared]
    split
    · exact h
    · exact h.compiled

/-- Every router that changes lead to tries the routes for each request in the order of their
registration. -/
theorem ordered_ofSteps (steps : List (Step A)) : (ofSteps steps).Ordered (registered steps) := by
  -- The changes may begin at any ordered router, which is what the induction needs.
  have hfold : ∀ (rt : Router A) (routes : List (Route A)), rt.Ordered routes →
      (steps.foldl (fun rt x => x.perform rt) rt).Ordered (routes ++ registered steps) := by
    induction steps with
    | nil =>
      intro rt routes h
      simpa [registered] using h
    | cons x steps ih =>
      intro rt routes h
      have hsteps := ih _ _ (h.perform x)
      rw [List.append_assoc] at hsteps
      have hcons : x.route?.toList ++ registered steps = registered (x :: steps) := by
        cases hx : x.route? <;> simp [registered, hx]
      rwa [hcons] at hsteps
  exact hfold new [] ordered_new

/-- An ordered router sends each request where the routes of the list that may take it send it. -/
theorem Ordered.dispatch_eq (h : rt.Ordered routes) (v : A.View) (c : Context) (r : Request) :
    rt.dispatch v c r = Dispatch.ofRoutes v r c (routes.filter (·.mayTake r)) := by
  rw [dispatch_of_ready h.ready_eq, h.order]

/-- A route that a request is sent to is one of the list and takes it, and its pattern has bound the
parameters. -/
theorem Ordered.route_of_dispatch (h : rt.Ordered routes) {v : A.View} {c bound : Context}
    {r : Request} {x : Route A} (hdispatch : rt.dispatch v c r = .route x bound) :
    x ∈ routes ∧ x.takes v r c ∧ bound = x.pattern.bind r c := by
  rw [h.dispatch_eq, Dispatch.ofRoutes] at hdispatch
  split at hdispatch
  · rename_i y hfind
    cases hdispatch
    exact ⟨List.mem_of_mem_filter (List.mem_of_find?_eq_some hfind), List.find?_some hfind, rfl⟩
  · cases hdispatch

/-! ### With which methods a request is sent to a route -/

/-- The request would be sent to a route if it had the given method. -/
def Serves (rt : Router A) (v : A.View) (c : Context) (r : Request) (m : Method) : Prop :=
  ∃ x bound, rt.dispatch v c { r with method := m } = .route x bound

variable {v : A.View} {c : Context} {r : Request}

/-- The request would be sent to a route if some route is matched by its path and has the method. -/
theorem Ordered.serves_iff (h : rt.Ordered routes) (hpath : ∀ x ∈ routes, x.pattern.PathOnly)
    (m : Method) : rt.Serves v c r m ↔ ∃ x ∈ routes, x.matched v r c ∧ x.methods.contains m := by
  -- The method of the request does not matter for which routes are matched.
  have hmatched : (∃ x ∈ routes, x.matched v r c ∧ x.methods.contains m)
      ↔ ∃ x ∈ routes, x.matched v { r with method := m } c ∧ x.methods.contains m := by
    refine exists_congr fun x => and_congr_right fun hx => and_congr_left fun _ => ?_
    rw [Route.matched_withMethod (r := r) (hpath x hx) m]
  have hfirst : (∃ x ∈ routes, x.matched v { r with method := m } c ∧ x.methods.contains m)
      ↔ ((routes.filter (·.mayTake { r with method := m })).find?
          (·.takes v { r with method := m } c)).isSome = true :=
    Route.isSome_find?_takes.symm
  rw [hmatched, hfirst, Serves, h.dispatch_eq, Dispatch.ofRoutes]
  cases (routes.filter (·.mayTake { r with method := m })).find?
      (·.takes v { r with method := m } c) with
  | some x => exact ⟨fun _ => rfl, fun _ => ⟨x, _, rfl⟩⟩
  | none =>
    constructor
    · rintro ⟨x, bound, hdispatch⟩
      cases hdispatch
    · intro hnone
      cases hnone

/-- What the router leaves for a request that no route takes. -/
theorem Ordered.dispatch_of_not_serves (h : rt.Ordered routes)
    (hpath : ∀ x ∈ routes, x.pattern.PathOnly) (hnone : ¬ rt.Serves v c r r.method) :
    rt.dispatch v c r
      = .rest (withValidMethods c (Route.acceptedMethods v r c (routes.filter (·.mayTake r)))) := by
  have hfind : (routes.filter (·.mayTake r)).find? (·.takes v r c) = none := by
    rw [h.serves_iff hpath, ← Route.isSome_find?_takes] at hnone
    simpa using hnone
  rw [h.dispatch_eq, Dispatch.ofRoutes, hfind]

/-! ### What is stored -/

/-- Storing methods leaves the parameters and every other value as they were. -/
theorem withValidMethods_frame (c : Context) (ms : MethodSet) :
    (withValidMethods c ms).params = c.params
      ∧ ∀ key, key ≠ Context.validMethodsKey →
          (withValidMethods c ms).value? key = c.value? key := by
  rw [withValidMethods]
  split
  · exact ⟨rfl, fun _ _ => rfl⟩
  · refine ⟨rfl, fun key hkey => ?_⟩
    rw [Context.value?, Context.withValue, Dict.get?_insert, if_neg hkey]
    rfl

/-- The names of the methods are stored, if there is a method. -/
theorem value?_withValidMethods {ms : MethodSet} (h : ∃ m, ms.contains m) (c : Context) :
    (withValidMethods c ms).value? Context.validMethodsKey
      = some (.array (ms.names.map .string)) := by
  obtain ⟨m, hm⟩ := h
  have hne : ¬ ms.isEmpty = true := by
    intro hempty
    rw [MethodSet.isEmpty_iff.mp hempty m] at hm
    cases hm
  rw [withValidMethods, if_neg hne, Context.value?, Context.withValue, Dict.get?_insert, if_pos rfl]

/-- Without a method nothing is stored. -/
theorem withValidMethods_of_none {ms : MethodSet} (h : ¬ ∃ m, ms.contains m) (c : Context) :
    withValidMethods c ms = c := by
  have hempty : ms.isEmpty = true :=
    MethodSet.isEmpty_iff.mpr fun m => Bool.eq_false_iff.mpr fun hm => h ⟨m, hm⟩
  rw [withValidMethods, if_pos hempty]

/-- Take a router whose patterns look only at the path, after any changes, and a request that no
route takes. The handler for the rest is called. If the request would have been sent to a route with
some other methods, then it finds the names of exactly those methods, in strictly ascending order,
and the method of the request is not among them. If there is no such method, its context is the
unchanged one. In both cases the parameters and all other values are as they were. Which methods
these are does not depend on the order in which the routes were registered. -/
theorem validMethods_of_no_route (steps : List (Step A))
    (hpath : ∀ x ∈ registered steps, x.pattern.PathOnly) (v : A.View) (c : Context) (r : Request)
    (hnone : ¬ (ofSteps steps).Serves v c r r.method) :
    let rt := ofSteps steps
    let valid : Method → Prop := rt.Serves v c r
    ∃ informed,
      rt.dispatch v c r = .rest informed
        ∧ rt.script v c r = rt.notFound.script informed r
        ∧ informed.params = c.params
        ∧ (∀ key, key ≠ Context.validMethodsKey → informed.value? key = c.value? key)
        ∧ ((∃ m, valid m) → ∃ names : List String,
            informed.value? Context.validMethodsKey = some (.array (names.map .string))
              ∧ names.Pairwise (· < ·)
              ∧ (∀ name, name ∈ names ↔ ∃ m, valid m ∧ m.name = name)
              ∧ r.method.name ∉ names)
        ∧ ((¬ ∃ m, valid m) → informed = c)
        ∧ ∀ steps' : List (Step A), (registered steps').Perm (registered steps) →
            ∀ m, (ofSteps steps').Serves v c r m ↔ valid m := by
  intro rt valid
  have hordered : rt.Ordered (registered steps) := ordered_ofSteps steps
  let methods := Route.acceptedMethods v r c ((registered steps).filter (·.mayTake r))
  -- What one search has collected is what a search for each method would have found.
  have hvalid : ∀ m, methods.contains m = true ↔ valid m := fun m =>
    Route.contains_acceptedMethods.trans (hordered.serves_iff hpath m).symm
  have hsome : (∃ m, valid m) ↔ ∃ m, methods.contains m :=
    exists_congr fun m => (hvalid m).symm
  have hdispatch : rt.dispatch v c r = .rest (withValidMethods c methods) :=
    hordered.dispatch_of_not_serves hpath hnone
  obtain ⟨hparams, hvalues⟩ := withValidMethods_frame c methods
  refine ⟨withValidMethods c methods, hdispatch, ?_, hparams, hvalues, fun h => ?_, fun h => ?_,
    fun steps' hperm m => ?_⟩
  · rw [script, hdispatch]
  · refine ⟨methods.names, value?_withValidMethods (hsome.mp h) c, methods.pairwise_names,
      fun name => ?_, fun hown => ?_⟩
    · rw [MethodSet.mem_names]
      exact exists_congr fun m => and_congr_left fun _ => hvalid m
    · -- The own method would have to be valid, but then a route would have taken the request.
      obtain ⟨m, hm, hname⟩ := MethodSet.mem_names.mp hown
      rw [Method.name_injective hname] at hm
      exact hnone ((hvalid _).mp hm)
  · exact withValidMethods_of_none (fun hmethods => h (hsome.mpr hmethods)) c
  · -- Whether some route has a method does not depend on the order of the routes.
    have hpath' : ∀ x ∈ registered steps', x.pattern.PathOnly :=
      fun x hx => hpath x (hperm.subset hx)
    have hmem : (∃ x ∈ registered steps', x.matched v r c ∧ x.methods.contains m)
        ↔ ∃ x ∈ registered steps, x.matched v r c ∧ x.methods.contains m :=
      exists_congr fun x => and_congr_left fun _ => hperm.mem_iff
    exact ((ordered_ofSteps steps').serves_iff hpath' m).trans
      (hmem.trans (hordered.serves_iff hpath m).symm)

/-- A route for POST requests of one path. -/
def postOnly : Route Chain.silent :=
  ⟨.placeholder ⟨"/a", [], "/a", false⟩, MethodSet.of .post, Endpoint.notFound⟩

/-- A GET request of that path is taken by no route, and is told of POST. -/
theorem validMethods_postOnly :
    let steps : List (Step Chain.silent) := [.add postOnly]
    let r : Request := ⟨.get, "/a?x", .http11, ⟨[]⟩, [], none⟩
    (∀ x ∈ registered steps, x.pattern.PathOnly)
      ∧ ¬ (ofSteps steps).Serves () Context.empty r r.method
      ∧ ∃ informed, ∃ names : List String,
          (ofSteps steps).dispatch () Context.empty r = .rest informed
            ∧ informed.value? Context.validMethodsKey = some (.array (names.map .string))
            ∧ "POST" ∈ names ∧ "GET" ∉ names := by
  intro steps r
  have hpath : ∀ x ∈ registered steps, x.pattern.PathOnly := by
    intro x hx
    rw [List.mem_singleton.mp hx]
    exact Pattern.pathOnly_placeholder _
  have hserves := fun m => (ordered_ofSteps steps).serves_iff hpath (v := ()) (c := Context.empty)
    (r := r) m
  have hget : ¬ (ofSteps steps).Serves () Context.empty r r.method := by
    rw [hserves]
    rintro ⟨x, hx, -, hcontains⟩
    rw [List.mem_singleton.mp hx] at hcontains
    cases hcontains
  have hpost : (ofSteps steps).Serves () Context.empty r .post := by
    rw [hserves]
    exact ⟨postOnly, List.mem_singleton.mpr rfl, by decide, rfl⟩
  obtain ⟨informed, hdispatch, -, -, -, hsome, -⟩ :=
    validMethods_of_no_route steps hpath () Context.empty r hget
  obtain ⟨names, hvalue, -, hmem, hown⟩ := hsome ⟨.post, hpost⟩
  exact ⟨hpath, hget, informed, names, hdispatch, hvalue, (hmem "POST").mpr ⟨.post, hpost, rfl⟩,
    hown⟩

end Router

end HttpMux
