import HttpMux.Proofs.Route.Program

/-!
# `HttpMux.Proofs.Route.Refinement`: a compiled table against the walk over the table

The routes of a table may stand in any order, and their texts may overlap in any way.

* `Machine.search_ofRoutes`: the compiled table finds, tries and collects what the plain walk does.
* `Router.dispatch_of_ready`: a request goes where the considered routes send it in order.
* `Machine.search_refines_scan`: both together, with the routes that are tried.
-/

set_option autoImplicit false

namespace HttpMux

variable {A : App}

/-- The compiled table finds, tries and collects what the plain walk does. -/
theorem Machine.search_ofRoutes (routes : List (Route A)) (v : A.View) (r : Request)
    (c : Context) : (ofRoutes routes).search v r c = scan routes v r c := by
  rw [search, ofRoutes, Program.run_ofTexts]
  rfl

/-- The first considered route that takes a request, once with its number and once without. -/
theorem Route.find?_filter_mayTake (routes : List (Route A)) (v : A.View) (r : Request)
    (c : Context) :
    (routes.filter (·.mayTake r)).find? (·.takes v r c)
      = ((considered r routes).find? (·.1.takes v r c)).map Prod.fst := by
  rw [← map_fst_considered, List.find?_map]
  rfl

/-- With a compiled table, a request goes where the considered routes send it in order. -/
theorem Router.dispatch_of_ready {rt : Router A} {routes : List (Route A)}
    (h : rt.ready = Machine.ofRoutes routes) (v : A.View) (c : Context) (r : Request) :
    rt.dispatch v c r = Dispatch.ofRoutes v r c (routes.filter (·.mayTake r)) := by
  have hfound := Machine.scan_found routes v r c
  have hmethods := Machine.scan_methods routes v r c
  rw [dispatch, h, Machine.search_ofRoutes, Dispatch.ofRoutes, Route.find?_filter_mayTake]
  cases hfirst : (Route.considered r routes).find? (·.1.takes v r c) with
  | some x =>
    rw [hfirst, Option.map_some] at hfound
    -- The number that the search has found is that of the route in the table.
    have hroute : (Machine.ofRoutes routes).routes[x.2]? = some x.1 :=
      Route.getElem?_of_mem_considered (List.mem_of_find?_eq_some hfirst)
    simp only [hfound, Option.bind_some, hroute, Option.map_some]
  | none =>
    rw [hfirst, Option.map_none] at hfound
    simp only [hfound, hmethods hfound, Option.bind_none, Option.map_none]

/-- For every list of routes, running its compiled form is walking over the list. The routes that
are tried are those whose text the path begins with, in the order of the list, up to and including
the first one that takes the request. That one is found. If there is none, the methods are those
of all tried routes that accept the request with another method. A router with this compiled form
sends the request where the considered routes send it in order. -/
theorem Machine.search_refines_scan (routes : List (Route A)) (rt : Router A) (v : A.View)
    (r : Request) (c : Context) :
    let considered := Route.considered r routes
    let search := (ofRoutes routes).search v r c
    search = scan routes v r c
      ∧ search.tried = (Program.upToFirst (·.1.takes v r c) considered).map Prod.snd
      ∧ search.found = (considered.find? (·.1.takes v r c)).map Prod.snd
      ∧ (search.found = none
          → search.methods = Route.acceptedMethods v r c (considered.map Prod.fst))
      ∧ ({ rt with machine := some (ofRoutes routes) } : Router A).dispatch v c r
          = Dispatch.ofRoutes v r c (considered.map Prod.fst) := by
  intro considered search
  have hfst : considered.map Prod.fst = routes.filter (·.mayTake r) :=
    Route.map_fst_considered r routes
  have hscan : search = scan routes v r c := search_ofRoutes routes v r c
  rw [hscan, hfst]
  -- From here on it is enough to know what the walk over the table does.
  refine ⟨rfl, scan_tried routes v r c, scan_found routes v r c, scan_methods routes v r c, ?_⟩
  exact Router.dispatch_of_ready rfl v c r

end HttpMux
