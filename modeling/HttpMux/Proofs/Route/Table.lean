import HttpMux.Proofs.Pattern.LiteralStart
import HttpMux.Proofs.Route.Refinement
import Mathlib.Data.List.TakeDrop
import Mathlib.Data.List.TakeWhile

/-!
# `HttpMux.Proofs.Route.Table`: the order of a table against the order of registration

A new route moves ahead of others in its table. Among the routes that may take one request it never
does.

* `Route.not_mayTake_of_not_staysAhead`: a route that the new one passes never competes with it.
* `Route.filter_insert`: for each request, the new route comes last among those that may take it.
* `Router.Ordered`: a router that tries the routes for each request in the order of a list.
* `Router.dispatch_of_ordered`: such a router sends requests where the list sends them, if all
  patterns of the list are sound.
-/

set_option autoImplicit false

namespace HttpMux

variable {A : App}

/-! ### Inserting a route -/

namespace Route

/-- A new route passes only routes that it shares no path with. -/
theorem not_mayTake_of_not_staysAhead {x y : Route A} (h : y.staysAhead x.start = false)
    {r : Request} (hx : x.mayTake r) : y.mayTake r = false := by
  rw [staysAhead, Bool.or_eq_false_iff, decide_eq_false_iff_not] at h
  obtain ⟨hle, hnot⟩ := h
  rw [Bool.eq_false_iff]
  intro hy
  -- Of two texts that one path begins with, one begins with the other.
  rcases List.prefix_or_prefix_of_prefix (List.isPrefixOf_iff_prefix.mp hx)
    (List.isPrefixOf_iff_prefix.mp hy) with hxy | hyx
  · rw [List.isPrefixOf_iff_prefix.mpr hxy] at hnot
    cases hnot
  · exact hle hyx.le

/-- The table behind a new route is what it passes, and the table ahead of it is the rest, which
ends with a route that it does not pass. -/
theorem insert_split (x : Route A) (table : List (Route A)) :
    ∃ ahead behind, table = ahead ++ behind ∧ x.insert table = ahead ++ x :: behind
      ∧ (∀ y ∈ behind, y.staysAhead x.start = false)
      ∧ ∀ y ∈ ahead.getLast?, y.staysAhead x.start = true := by
  refine ⟨(table.reverse.dropWhile fun y => !y.staysAhead x.start).reverse,
    (table.reverse.takeWhile fun y => !y.staysAhead x.start).reverse, ?_, ?_, ?_, ?_⟩
  · rw [← List.reverse_append, List.takeWhile_append_dropWhile, List.reverse_reverse]
  · rw [insert, List.span_eq_takeWhile_dropWhile]
  · -- Nothing behind the new route stops it, and the last route ahead of it does.
    intro y hy
    have := List.mem_takeWhile_imp (List.mem_reverse.mp hy)
    rwa [Bool.not_eq_true'] at this
  · intro y hy
    have hstop := List.head?_dropWhile_not (fun y => !y.staysAhead x.start) table.reverse
    rw [List.getLast?_reverse, Option.mem_def] at hy
    rw [hy] at hstop
    simpa using hstop

/-- For each request, a new route comes last among those that may take it. -/
theorem filter_insert (x : Route A) (table : List (Route A)) (r : Request) :
    (x.insert table).filter (·.mayTake r)
      = table.filter (·.mayTake r) ++ [x].filter (·.mayTake r) := by
  obtain ⟨ahead, behind, htable, hinsert, hpassed, -⟩ := insert_split x table
  rw [hinsert, htable, List.filter_append, List.filter_append, List.append_assoc]
  congr 1
  cases hx : x.mayTake r with
  | false =>
    rw [List.filter_cons_of_neg (by simp [hx]), List.filter_cons_of_neg (by simp [hx]),
      List.filter_nil, List.append_nil]
  | true =>
    -- The new route competes with none of those that it passes.
    have hbehind : behind.filter (·.mayTake r) = [] := by
      rw [List.filter_eq_nil_iff]
      intro y hy
      simp [not_mayTake_of_not_staysAhead (hpassed y hy) hx]
    rw [List.filter_cons_of_pos hx, hbehind, List.filter_cons_of_pos hx, List.filter_nil,
      List.nil_append]

end Route

/-! ### Routes that cannot take a request -/

namespace Route

/-- A route with a sound pattern may take every request that it accepts. -/
theorem mayTake_of_accepts {x : Route A} (hx : x.pattern.Sound) {v : A.View} {r : Request}
    {c : Context} (h : x.pattern.accepts v r c) : x.mayTake r :=
  hx v r c h

/-- Leaving out the routes that cannot take a request does not change the first that takes it. -/
theorem find?_filter_of_sound {routes : List (Route A)} (hs : ∀ x ∈ routes, x.pattern.Sound)
    (v : A.View) (r : Request) (c : Context) :
    (routes.filter (·.mayTake r)).find? (·.takes v r c) = routes.find? (·.takes v r c) := by
  rw [List.find?_filter]
  refine List.find?_congr fun x hx => ?_
  cases haccepts : x.pattern.accepts v r c with
  | false => simp [takes, haccepts]
  | true => simp [takes, haccepts, mayTake_of_accepts (hs x hx) haccepts]

/-- Leaving out the routes that cannot take a request does not change the methods of those that
accept it. -/
theorem acceptedMethods_filter_of_sound {routes : List (Route A)}
    (hs : ∀ x ∈ routes, x.pattern.Sound) (v : A.View) (r : Request) (c : Context) :
    acceptedMethods v r c (routes.filter (·.mayTake r)) = acceptedMethods v r c routes := by
  ext m
  show List.any _ _ = List.any _ _
  rw [List.any_filter, Bool.eq_iff_iff, List.any_eq_true, List.any_eq_true]
  refine exists_congr fun x => and_congr_right fun hx => ?_
  cases haccepts : x.pattern.accepts v r c with
  | false => simp
  | true => simp [mayTake_of_accepts (hs x hx) haccepts]

end Route

/-- A request goes where it went with the routes left out that cannot take it. -/
theorem Dispatch.ofRoutes_filter_of_sound {routes : List (Route A)}
    (hs : ∀ x ∈ routes, x.pattern.Sound) (v : A.View) (r : Request) (c : Context) :
    ofRoutes v r c (routes.filter (·.mayTake r)) = ofRoutes v r c routes := by
  rw [ofRoutes, Route.find?_filter_of_sound hs, Route.acceptedMethods_filter_of_sound hs, ofRoutes]

/-! ### Routers -/

namespace Router

/-- A router that tries the routes for each request in the order of the list. If it has a compiled
form of its table, then it is that of its present table. -/
structure Ordered (registered : List (Route A)) (rt : Router A) : Prop where
  order : ∀ r : Request, rt.routes.filter (·.mayTake r) = registered.filter (·.mayTake r)
  current : ∀ m, rt.machine = some m → m = Machine.ofRoutes rt.routes

variable {registered : List (Route A)} {rt : Router A}

/-- A new router has no routes. -/
theorem ordered_new : (Router.new : Router A).Ordered [] :=
  ⟨fun _ => rfl, fun _ h => nomatch h⟩

/-- Adding a route puts it last for each request. -/
theorem Ordered.add (h : rt.Ordered registered) (x : Route A) :
    (rt.add x).Ordered (registered ++ [x]) where
  order r := by rw [Router.add, Route.filter_insert, h.order, List.filter_append]
  current _ hm := nomatch hm

/-- The endpoint for unmatched requests is not part of the table. -/
theorem Ordered.withNotFound (h : rt.Ordered registered) (e : Endpoint A) :
    (rt.withNotFound e).Ordered registered :=
  ⟨h.order, h.current⟩

/-- Compiling a router leaves its routes alone. -/
theorem Ordered.compiled (h : rt.Ordered registered) : rt.compiled.Ordered registered where
  order := h.order
  current m hm := by cases hm; rfl

/-- The compiled form that dispatch uses is that of the present table, whether it is kept or made
now. -/
theorem Ordered.ready_eq (h : rt.Ordered registered) :
    rt.ready = Machine.ofRoutes rt.routes := by
  rw [ready]
  cases hm : rt.machine with
  | none => rfl
  | some m => exact h.current m hm

/-- An ordered router sends each request where the list sends it, if the list has only sound
patterns. -/
theorem dispatch_of_ordered (h : rt.Ordered registered)
    (hs : ∀ x ∈ registered, x.pattern.Sound) (v : A.View) (c : Context) (r : Request) :
    rt.dispatch v c r = Dispatch.ofRoutes v r c registered := by
  rw [dispatch_of_ready h.ready_eq, h.order, Dispatch.ofRoutes_filter_of_sound hs]

end Router

end HttpMux
