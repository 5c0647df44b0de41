import HttpMux.Route.Router
import Mathlib.Data.List.Find

/-!
# `HttpMux.Proofs.Route.Scan`: trying the routes of a list one after the other

The plain walk over a table is the reference for the compiled one.

* `Program.scanFrom_found`, `scanFrom_tried` and `contains_methods_scanFrom`: what a walk finds,
  which routes it tries, and which methods it collects.
* `Dispatch.ofRoutes`: where a request goes when the routes of a list are tried in order.
* `Machine.scan_found`, `scan_tried` and `scan_methods`: the same for the walk over a table of
  routes.
-/

set_option autoImplicit false

namespace HttpMux

namespace Program

variable {method : Method} {test : Nat → Option MethodSet}

/-! ### Walking over numbers of routes -/

/-- Whether a route accepts the request with its method. -/
def takes (method : Method) (test : Nat → Option MethodSet) (i : Nat) : Bool :=
  (test i).any (·.contains method)

/-- The members of a list up to and including the first one that satisfies `p`. -/
def upToFirst {α : Type} (p : α → Bool) (xs : List α) : List α :=
  xs.takeWhile (!p ·) ++ (xs.find? p).toList

/-- A list up to its first hit is its first member, and goes on if that is no hit. -/
theorem upToFirst_cons {α : Type} (p : α → Bool) (x : α) (xs : List α) :
    upToFirst p (x :: xs) = x :: if p x then [] else upToFirst p xs := by
  cases h : p x <;> simp [upToFirst, h]

/-- A list up to its first hit is a part of the list. -/
theorem upToFirst_sublist {α : Type} (p : α → Bool) (xs : List α) :
    (upToFirst p xs).Sublist xs := by
  induction xs with
  | nil => exact .refl _
  | cons x xs ih =>
    rw [upToFirst_cons]
    split
    · exact (List.nil_sublist xs).cons_cons x
    · exact ih.cons_cons x

/-- Trying a route finds it if it takes the request. -/
theorem attempt_found {s : Search} (hs : s.found = none) (i : Nat) :
    (s.attempt method test i).found = if takes method test i then some i else none := by
  unfold Search.attempt takes
  cases test i with
  | none => simpa using hs
  | some ms => simp

/-- Trying a route lists it as tried, whether it accepts the request or not. -/
@[simp]
theorem attempt_tried (s : Search) (i : Nat) :
    (s.attempt method test i).tried = s.tried ++ [i] := by
  unfold Search.attempt
  cases test i <;> rfl

/-- Trying a route collects its methods if it accepts the request. -/
theorem contains_methods_attempt (s : Search) (i : Nat) (m : Method) :
    (s.attempt method test i).methods.contains m
      = (s.methods.contains m || (test i).any (·.contains m)) := by
  unfold Search.attempt
  cases test i <;> simp [MethodSet.union]

/-- A walk over no routes finds nothing new. -/
@[simp]
theorem scanFrom_nil (s : Search) : scanFrom method test s [] = s := rfl

/-- A walk tries the first route, and goes on if that was not found. -/
theorem scanFrom_cons (s : Search) (i : Nat) (is : List Nat) :
    scanFrom method test s (i :: is)
      = if (s.attempt method test i).found.isSome then s.attempt method test i
        else scanFrom method test (s.attempt method test i) is := rfl

/-- A walk over two lists goes on with the second one if nothing is found in the first one. -/
theorem scanFrom_append {s : Search} (hs : s.found = none) (is js : List Nat) :
    scanFrom method test s (is ++ js)
      = if (scanFrom method test s is).found.isSome then scanFrom method test s is
        else scanFrom method test (scanFrom method test s is) js := by
  -- The search grows along the first list, so the statement is about every search that has found
  -- nothing.
  induction is generalizing s with
  | nil => simp [hs]
  | cons i is ih =>
    rw [List.cons_append, scanFrom_cons, scanFrom_cons]
    cases h : (s.attempt method test i).found with
    -- Found in the first list: neither side looks at the second one.
    | some j => simp [h]
    | none => simpa [h] using ih h

/-- A walk finds the first route that takes the request. -/
theorem scanFrom_found {s : Search} (hs : s.found = none) (is : List Nat) :
    (scanFrom method test s is).found = is.find? (takes method test) := by
  induction is generalizing s with
  | nil => exact hs
  | cons i is ih =>
    have h : (s.attempt method test i).found = if takes method test i then some i else none :=
      attempt_found hs i
    rw [scanFrom_cons, List.find?_cons]
    cases ht : takes method test i with
    | true => rw [ht] at h; simp [h]
    | false => rw [ht] at h; simpa [h] using ih (by simpa using h)

/-- A walk tries the routes in order, and the one it finds is the last. -/
theorem scanFrom_tried {s : Search} (hs : s.found = none) (is : List Nat) :
    (scanFrom method test s is).tried = s.tried ++ upToFirst (takes method test) is := by
  induction is generalizing s with
  | nil => simp [upToFirst]
  | cons i is ih =>
    have h : (s.attempt method test i).found = if takes method test i then some i else none :=
      attempt_found hs i
    rw [scanFrom_cons, upToFirst_cons]
    -- Either the walk ends with this route, or it goes on from a search that has tried it.
    cases ht : takes method test i with
    | true => rw [ht] at h; simp [h]
    | false =>
      rw [ht] at h
      simpa [h, List.append_assoc] using ih (s := s.attempt method test i) (by simpa using h)

/-- A walk that finds nothing collects the methods of all routes that accept the request. -/
theorem contains_methods_scanFrom {s : Search} (hs : s.found = none) {is : List Nat}
    (his : is.find? (takes method test) = none) (m : Method) :
    (scanFrom method test s is).methods.contains m
      = (s.methods.contains m || is.any fun i => (test i).any (·.contains m)) := by
  induction is generalizing s with
  | nil => simp
  | cons i is ih =>
    have h : (s.attempt method test i).found = if takes method test i then some i else none :=
      attempt_found hs i
    rw [List.find?_cons] at his
    cases ht : takes method test i with
    | true => simp [ht] at his
    | false =>
      rw [ht] at h his
      rw [scanFrom_cons, List.any_cons, ← Bool.or_assoc, ← contains_methods_attempt]
      simpa [h] using ih (s := s.attempt method test i) (by simpa using h) his

end Program

/-! ### Walking over routes -/

variable {A : App}

namespace Route

/-- Whether the path of a request begins with the text of the route. -/
def mayTake (r : Request) (x : Route A) : Bool := x.start.isPrefixOf (Bytes.ofText r.urlPath)

/-- Whether the route accepts a request with its method. -/
def takes (v : A.View) (r : Request) (c : Context) (x : Route A) : Bool :=
  x.pattern.accepts v r c && x.methods.contains r.method

/-- The methods of the routes that accept a request with any method. -/
def acceptedMethods (v : A.View) (r : Request) (c : Context) (routes : List (Route A)) :
    MethodSet :=
  ⟨fun m => routes.any fun x => x.pattern.accepts v r c && x.methods.contains m⟩

/-- The routes that a walk over a table considers, with their numbers. -/
def considered (r : Request) (routes : List (Route A)) : List (Route A × Nat) :=
  routes.zipIdx.filter fun x => x.1.mayTake r

/-- A considered route stands in the table at its number. -/
theorem getElem?_of_mem_considered {r : Request} {routes : List (Route A)} {x : Route A × Nat}
    (h : x ∈ considered r routes) : routes[x.2]? = some x.1 :=
  List.mem_zipIdx_iff_getElem?.mp (List.mem_filter.mp h).1

/-- The considered routes are those whose text the path begins with. -/
theorem map_fst_considered (r : Request) (routes : List (Route A)) :
    (considered r routes).map Prod.fst = routes.filter (·.mayTake r) := by
  have h : (fun x : Route A × Nat => x.1.mayTake r) = (·.mayTake r) ∘ Prod.fst := rfl
  rw [considered, h, ← List.filter_map, List.zipIdx_map_fst]

/-- The numbers of the considered routes are those that the walk over the texts considers. -/
theorem map_snd_considered (r : Request) (routes : List (Route A)) :
    (considered r routes).map Prod.snd
      = Program.considered (Bytes.ofText r.urlPath) (routes.map Route.start) := by
  rw [Program.considered, List.zipIdx_map, List.filter_map, List.map_map]
  rfl

end Route

/-- Where a request goes when the routes of a list are tried one after the other. -/
def Dispatch.ofRoutes (v : A.View) (r : Request) (c : Context) (routes : List (Route A)) :
    Dispatch A :=
  match routes.find? (·.takes v r c) with
  | some x => .route x (x.pattern.bind r c)
  | none => .rest (Router.withValidMethods c (Route.acceptedMethods v r c routes))

namespace Machine

variable (routes : List (Route A)) (v : A.View) (r : Request) (c : Context)

/-- What the plain walk over the table finds for a request. -/
def scan : Search :=
  Program.scan (Bytes.ofText r.urlPath) r.method ((ofRoutes routes).test v r c)
    (routes.map Route.start)

variable {routes v r c}

/-- The test of a number asks the route of this number whether it accepts the request. -/
theorem test_of_getElem? {x : Route A} {i : Nat} (h : routes[i]? = some x) :
    (ofRoutes routes).test v r c i
      = if x.pattern.accepts v r c then some x.methods else none := by
  simp only [test, ofRoutes, h]

/-- A number tells the methods of its route, if the route accepts the request. -/
theorem any_test_of_getElem? {x : Route A} {i : Nat} (h : routes[i]? = some x) (m : Method) :
    ((ofRoutes routes).test v r c i).any (·.contains m)
      = (x.pattern.accepts v r c && x.methods.contains m) := by
  rw [test_of_getElem? h]
  cases x.pattern.accepts v r c <;> rfl

/-- A considered route takes a request by its number if it does so by itself. -/
theorem takes_of_mem_considered {x : Route A × Nat} (h : x ∈ Route.considered r routes) :
    Program.takes r.method ((ofRoutes routes).test v r c) x.2 = x.1.takes v r c :=
  any_test_of_getElem? (Route.getElem?_of_mem_considered h) r.method

variable (routes v r c)

/-- The plain walk finds the first considered route that takes the request. -/
theorem scan_found :
    (scan routes v r c).found
      = ((Route.considered r routes).find? (·.1.takes v r c)).map Prod.snd := by
  rw [scan, Program.scan, Program.scanFrom_found rfl, ← Route.map_snd_considered, List.find?_map]
  congr 1
  exact List.find?_congr fun x hx => takes_of_mem_considered hx

/-- The plain walk tries the considered routes in order, and the one it finds is the last. -/
theorem scan_tried :
    (scan routes v r c).tried
      = (Program.upToFirst (·.1.takes v r c) (Route.considered r routes)).map Prod.snd := by
  rw [scan, Program.scan, Program.scanFrom_tried rfl, ← Route.map_snd_considered]
  -- By its number and by itself, a considered route is taken alike.
  have htakes := fun x (hx : x ∈ Route.considered r routes) =>
    takes_of_mem_considered (v := v) (c := c) hx
  generalize Route.considered r routes = xs at htakes
  show [] ++ _ = _
  rw [List.nil_append]
  induction xs with
  | nil => rfl
  | cons x xs ih =>
    rw [List.map_cons, Program.upToFirst_cons, Program.upToFirst_cons, htakes x (by simp),
      List.map_cons, ih fun y hy => htakes y (List.mem_cons_of_mem x hy)]
    cases x.1.takes v r c <;> rfl

/-- The plain walk collects the methods of the considered routes that accept the request, if none
of them takes it. -/
theorem scan_methods (h : (scan routes v r c).found = none) :
    (scan routes v r c).methods
      = Route.acceptedMethods v r c (routes.filter (·.mayTake r)) := by
  rw [scan, Program.scan, Program.scanFrom_found rfl] at h
  rw [scan, Program.scan]
  ext m
  -- The walk collects by number; from here on the routes stand for their numbers.
  rw [Program.contains_methods_scanFrom rfl h, ← Route.map_snd_considered, List.any_map]
  show (_ || _) = List.any _ _
  rw [← Route.map_fst_considered, List.any_map]
  show (false || _) = _
  rw [Bool.false_or]
  rw [Bool.eq_iff_iff, List.any_eq_true, List.any_eq_true]
  refine exists_congr fun x => and_congr_right fun hx => ?_
  exact iff_of_eq (congrArg (· = true)
    (any_test_of_getElem? (Route.getElem?_of_mem_considered hx) m))

end Machine

end HttpMux
