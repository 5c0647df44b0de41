import HttpMux.Proofs.Site.Settled
import Mathlib.Data.List.Basic

/-!
# `HttpMux.Proofs.Route.Arrangement`: where registered routes stand in their table

A table is not in the order of registration, and it is sorted only as far as that does no harm. To
say what it is, its routes are numbered in the order of their registration. A route may have been
registered twice, so that only the numbers tell which entry is which.

* `Route.Rivals`: two routes that one path might belong to, going by their texts alone.
* `Route.Arranged`: what holds of the numbered entries of a table. None is lost, rivals stand in the
  order of their numbers, and the table is sorted if no two texts of rivals differ.
* `Route.Arranged.insert`: one more route keeps that, and `Site.Arranged.performAll`: so do all.
* `Site.table_arranged`: every table is arranged, however its mux has been set up.

Whether one text begins with another is not a transitive relation, so a new route may have rivals on
both sides of a route that is none. It stops behind the last of its rivals.
-/

set_option autoImplicit false

namespace HttpMux

variable {A : App} {S : Type}

/-! ### Numbered tables -/

namespace Route

/-- The text of one of the routes begins with that of the other, so a path may begin with both. -/
def Rivals (x y : Route A) : Prop := x.start <+: y.start ∨ y.start <+: x.start

/-- The routes have the same text, or no path begins with both texts. -/
def SameOrApart (x y : Route A) : Prop := x.start = y.start ∨ ¬ x.Rivals y

/-- The entry comes first if sorted by text, and by number where the texts are the same. -/
def Sorts (a b : Route A × Nat) : Prop :=
  a.1.start < b.1.start ∨ a.1.start = b.1.start ∧ a.2 < b.2

/-- The entries of a table with the numbers that the routes have in the order of registration. -/
structure Arranged (registered table : List (Route A)) (numbered : List (Route A × Nat)) :
    Prop where
  entries : numbered.map Prod.fst = table
  numbers : numbered.Perm registered.zipIdx
  rivals : numbered.Pairwise fun a b => a.1.Rivals b.1 → a.2 < b.2
  sorted : registered.Pairwise SameOrApart → numbered.Pairwise Sorts

variable {registered table : List (Route A)} {numbered : List (Route A × Nat)} {x y : Route A}

/-- A table without routes is arranged. -/
theorem arranged_nil : Arranged (A := A) [] [] [] :=
  ⟨rfl, .refl _, .nil, fun _ => .nil⟩

/-- A table has each registered route as often as it was registered. -/
theorem Arranged.perm (h : Arranged registered table numbered) : table.Perm registered := by
  have hentries := h.numbers.map Prod.fst
  rwa [h.entries, List.zipIdx_map_fst] at hentries

/-! ### One more route -/

/-- Routes that a new one passes have greater texts. -/
theorem start_lt_of_not_staysAhead (h : y.staysAhead x.start = false) : x.start < y.start := by
  rw [staysAhead, Bool.or_eq_false_iff, decide_eq_false_iff_not] at h
  exact List.not_le.mp h.1

/-- A new route passes none of its rivals. -/
theorem not_rivals_of_not_staysAhead (h : y.staysAhead x.start = false) : ¬ x.Rivals y := by
  rw [staysAhead, Bool.or_eq_false_iff, decide_eq_false_iff_not] at h
  rintro (hxy | hyx)
  · rw [List.isPrefixOf_iff_prefix.mpr hxy] at h
    cases h.2
  · exact h.1 hyx.le

/-- Where a new route stops, the text is not greater, unless the texts are those of rivals and
differ. -/
theorem start_le_of_staysAhead (h : y.staysAhead x.start = true) (hxy : y.SameOrApart x) :
    y.start ≤ x.start := by
  rw [staysAhead, Bool.or_eq_true, decide_eq_true_eq, List.isPrefixOf_iff_prefix] at h
  rcases h with hle | hprefix
  · exact hle
  · rcases hxy with heq | hnot
    · exact heq ▸ List.le_refl _
    · exact absurd (Or.inr hprefix) hnot

/-- An entry that comes first does not have the greater text. -/
theorem Sorts.start_le {a b : Route A × Nat} (h : Sorts a b) : a.1.start ≤ b.1.start := by
  rcases h with hlt | ⟨heq, -⟩
  · exact List.le_of_lt hlt
  · exact heq ▸ List.le_refl _

/-- In a sorted table no text is greater than the last one. -/
theorem start_le_last {front : List (Route A × Nat)} {last : Route A × Nat}
    (h : (front ++ [last]).Pairwise Sorts) {a : Route A × Nat} (ha : a ∈ front ++ [last]) :
    a.1.start ≤ last.1.start := by
  rcases List.mem_append.mp ha with ha | ha
  · exact ((List.pairwise_append.mp h).2.2 a ha last List.mem_cons_self).start_le
  · rw [List.mem_singleton.mp ha]
    exact List.le_refl _

/-- All numbers are those of registered routes, so the next one is greater. -/
theorem Arranged.number_lt (h : Arranged registered table numbered) {a : Route A × Nat}
    (ha : a ∈ numbered) : a.1 ∈ registered ∧ a.2 < registered.length := by
  have hmem := h.numbers.subset ha
  exact ⟨List.fst_mem_of_mem_zipIdx hmem, by simpa using List.snd_lt_of_mem_zipIdx hmem⟩

/-- Behind a sorted table with the routes that stay ahead, a new route is not out of order. -/
theorem sorts_of_staysAhead {ahead : List (Route A × Nat)} {n : Nat}
    (hsorted : ahead.Pairwise Sorts) (hapart : ∀ a ∈ ahead, a.1.SameOrApart x)
    (hlast : ∀ y ∈ (ahead.map Prod.fst).getLast?, y.staysAhead x.start = true)
    (hnumber : ∀ a ∈ ahead, a.2 < n) {a : Route A × Nat} (ha : a ∈ ahead) : Sorts a (x, n) := by
  -- It is enough to look at the last route ahead, which has the greatest text of them.
  rcases List.eq_nil_or_concat ahead with rfl | ⟨front, last, rfl⟩
  · cases ha
  · rw [List.concat_eq_append] at *
    have hstay : last.1.staysAhead x.start = true := hlast last.1 (by simp)
    have hle : last.1.start ≤ x.start :=
      start_le_of_staysAhead hstay (hapart last (by simp))
    rcases List.le_iff_lt_or_eq.mp (List.le_trans (start_le_last hsorted ha) hle) with hlt | heq
    · exact .inl hlt
    · exact .inr ⟨heq, hnumber a ha⟩

/-- One more registered route leaves the table arranged. -/
theorem Arranged.insert (h : Arranged registered table numbered) (x : Route A) :
    ∃ numbered, Arranged (registered ++ [x]) (x.insert table) numbered := by
  obtain ⟨_, _, rfl, hinsert, hpassed, hlast⟩ := insert_split x table
  obtain ⟨ahead, behind, rfl, rfl, rfl⟩ := List.map_eq_append_iff.mp h.entries
  have hahead : ∀ a ∈ ahead, a.1 ∈ registered ∧ a.2 < registered.length :=
    fun a ha => h.number_lt (List.mem_append_left _ ha)
  have hbehind : ∀ b ∈ behind, b.1.staysAhead x.start = false :=
    fun b hb => hpassed b.1 (List.mem_map_of_mem hb)
  refine ⟨ahead ++ (x, registered.length) :: behind, ?_, ?_, ?_, fun happart => ?_⟩
  · rw [hinsert, List.map_append, List.map_cons]
  · -- The number of the new route is that of its registration, the last one.
    rw [List.zipIdx_append, Nat.zero_add]
    exact List.perm_middle.trans
      ((List.perm_append_singleton _ _).symm.trans (h.numbers.append_right _))
  · -- The new route has the greatest number, and what it passes are no rivals.
    obtain ⟨hfront, hback, hacross⟩ := List.pairwise_append.mp h.rivals
    refine List.pairwise_append.mpr ⟨hfront, List.pairwise_cons.mpr ⟨fun b hb hrivals => ?_, hback⟩,
      fun a ha b hb hrivals => ?_⟩
    · exact absurd hrivals (not_rivals_of_not_staysAhead (hbehind b hb))
    · rcases List.mem_cons.mp hb with rfl | hb
      · exact (hahead a ha).2
      · exact hacross a ha b hb hrivals
  · -- It stops where the texts are not greater any more.
    obtain ⟨hold, -, hnew⟩ := List.pairwise_append.mp happart
    obtain ⟨hfront, hback, hacross⟩ := List.pairwise_append.mp (h.sorted hold)
    refine List.pairwise_append.mpr ⟨hfront, List.pairwise_cons.mpr ⟨fun b hb => ?_, hback⟩,
      fun a ha b hb => ?_⟩
    · exact .inl (start_lt_of_not_staysAhead (hbehind b hb))
    · rcases List.mem_cons.mp hb with rfl | hb
      · exact sorts_of_staysAhead hfront
          (fun a ha => hnew a.1 (hahead a ha).1 x List.mem_cons_self) hlast
          (fun a ha => (hahead a ha).2) ha
      · exact hacross a ha b hb

end Route

/-! ### Tables of muxes -/

namespace Site

/-- A mux whose table holds the registered routes and is arranged. -/
structure Arranged (s : Site A S) (id : MuxId) (registered : List (Route A)) : Prop where
  bound : id < s.muxes.length
  table : ∃ numbered, Route.Arranged registered (s.mux id).router.routes numbered

variable {s : Site A S} {id : MuxId} {registered : List (Route A)}

/-- Only the table of the mux counts. -/
theorem Arranged.congr (h : s.Arranged id registered) {s' : Site A S}
    (hcount : s'.muxes.length = s.muxes.length)
    (hroutes : (s'.mux id).router.routes = (s.mux id).router.routes) :
    s'.Arranged id registered :=
  ⟨hcount ▸ h.bound, hroutes ▸ h.table⟩

/-- Another mux in its place has the same table. -/
theorem Arranged.setMux (h : s.Arranged id registered) {m : Mux A}
    (hroutes : m.router.routes = (s.mux id).router.routes) :
    (s.setMux id m).Arranged id registered := by
  refine h.congr (List.length_set ..) ?_
  rw [mux_setMux h.bound, hroutes]

/-- Adding a route to the mux registers it last. -/
theorem Arranged.addRoute (h : s.Arranged id registered) (x : Route A) :
    ((addRoute id x).run s).2.Arranged id (registered ++ [x]) := by
  obtain ⟨numbered, htable⟩ := h.table
  show ((s.logged x.addedLine).setMux id ((s.mux id).add x)).Arranged id _
  refine ⟨(List.length_set ..).symm ▸ h.bound, ?_⟩
  rw [mux_setMux (s := s.logged x.addedLine) h.bound]
  exact htable.insert x

/-- A change of the layers leaves the table as it is. -/
theorem Arranged.tryStack (h : s.Arranged id registered)
    (f : Stack A → Except UnknownLayer (Stack A)) :
    ((tryStack id f).run s).2.Arranged id registered := by
  cases hf : f (s.mux id).stack with
  | ok stack =>
    rw [tryStack_ok hf]
    exact (h.setMux (m := { s.mux id with stack := stack }) rfl).congr rfl rfl
  | error e =>
    rw [tryStack_error hf]
    exact h

/-- A step of the configuration adds its route to the table if it registers one. -/
theorem Arranged.perform {plan : Mux.Plan A} (h : s.Arranged id plan.registered) (x : Mux.Setup A) :
    ((x.perform id).run s).2.Arranged id (plan.after x).registered := by
  cases x with
  | handle source methods e =>
    -- A pattern that is refused registers nothing.
    show ((Site.handle id source methods e).run s).2.Arranged id _
    rw [handle_run, Mux.Plan.after]
    cases source.resolve with
    | ok pattern => exact h.addRoute ⟨pattern, methods, e⟩
    | error err => exact h.congr rfl rfl
  | notFound e => exact h.setMux rfl
  | use m =>
    have hpush : (s.setMux id { s.mux id with stack := (s.mux id).stack.push m }).Arranged id
        plan.registered := h.setMux rfl
    exact hpush.congr rfl rfl
  | insert m before => exact h.tryStack fun stack => stack.insert m before
  | abandon name => exact h.tryStack fun stack => stack.abandon name

/-- All steps together leave the table arranged. -/
theorem Arranged.performAll {plan : Mux.Plan A} (h : s.Arranged id plan.registered)
    (xs : List (Mux.Setup A)) :
    ((xs.forM fun x => x.perform id).run s).2.Arranged id
      (xs.foldl Mux.Plan.after plan).registered := by
  induction xs generalizing s plan with
  | nil => exact h
  | cons x xs ih => exact ih (h.perform x)

/-- Adds a mux, configures it and returns its number. -/
def configured (capacity : Nat) (xs : List (Mux.Setup A)) : Change A S MuxId := do
  let id ← addMux capacity
  xs.forM fun x => x.perform id
  return id

/-- However a mux has been configured, its table holds every registered route as often as it was
registered. Routes stand in the order of registration where the text of one begins with that of the
other. If no such texts differ, then the table is sorted by text, and routes with the same text are
in the order of registration. -/
theorem table_arranged (s : Site A S) (capacity : Nat) (xs : List (Mux.Setup A)) :
    let configured := (configured capacity xs).run s
    let table := (configured.2.mux configured.1).router.routes
    let registered := (xs.foldl Mux.Plan.after Mux.Plan.new).registered
    table.Perm registered ∧ ∃ numbered, Route.Arranged registered table numbered := by
  intro configured table registered
  have hnew : ((addMux capacity).run s).2.Arranged ((addMux capacity).run s).1
      (Mux.Plan.new : Mux.Plan A).registered := by
    refine ⟨lt_length_addMux s capacity, [], ?_⟩
    show Route.Arranged [] (((addMux capacity).run s).2.mux s.muxes.length).router.routes []
    rw [mux_addMux]
    exact Route.arranged_nil
  obtain ⟨numbered, h⟩ := (hnew.performAll xs).table
  exact ⟨h.perm, numbered, h⟩

end Site

end HttpMux
