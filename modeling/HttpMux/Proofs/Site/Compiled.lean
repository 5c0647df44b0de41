import HttpMux.Proofs.Site.Coherent
import Mathlib.Data.List.Perm.Subperm

/-!
# `HttpMux.Proofs.Site.Compiled`: compiled tables do not show

The compiled form of a table is made when it is first needed, and is kept until the table changes.
What is kept never shows: it is always the form of the present table.

Two sites are alike if they differ in nothing but which tables are compiled and in their logs.
`alike` relates two changes that do the same on alike sites, leave them alike, and take no route out
of a table. `Site.serveAnew` serves requests with a table that is compiled on the spot every time.

* `alike_compile`, `alike_prepare` and `alike_program`: compiling does nothing that shows.
* `alike_serve`: serving with tables that are kept does what serving anew does, for requests that
  handlers put on other muxes too.
* `alike_performAll`: so do all calls of a history, with compiling left out.
* `subperm_registered`: nothing that was registered is missing in a table.
* `compiled_table_current`: all this together, for every history.

Handlers may configure muxes while a request is served. They may not look at the log, which tells
when tables are compiled.
-/

set_option autoImplicit false

namespace HttpMux

variable {A : App} {S : Type}

/-! ### Forgetting compiled tables -/

namespace Router

/-- The router without the compiled form of its table. -/
def forgotten (rt : Router A) : Router A := { rt with machine := none }

/-- The compiled form of the table, if it is known, is that of the present table. -/
def Current (rt : Router A) : Prop := ∀ m, rt.machine = some m → m = Machine.ofRoutes rt.routes

variable {rt : Router A}

/-- A current router answers with the machine that it would compile now, whether or not one is
kept. -/
theorem Current.ready_eq (h : rt.Current) : rt.ready = rt.forgotten.ready := by
  rw [ready, ready]
  cases hm : rt.machine with
  | none => rfl
  | some m => exact h m hm

/-- A current router chooses the same handler, in the same context, as one that keeps no compiled
table. -/
theorem Current.script_eq (h : rt.Current) (v : A.View) (c : Context) (r : Request) :
    rt.script v c r = rt.forgotten.script v c r := by
  rw [script, script, dispatch, dispatch, h.ready_eq]
  rfl

/-- A router tries its routes in the order of its own table. -/
theorem Current.ordered (h : rt.Current) : rt.Ordered rt.routes := ⟨fun _ => rfl, h⟩

/-- Where nothing is compiled, nothing can be out of date. -/
theorem current_of_none (h : rt.machine = none) : rt.Current := by
  intro m hm
  rw [h] at hm
  cases hm

/-- A table that has just been compiled is that of the present routes. -/
theorem current_compiled (rt : Router A) : rt.compiled.Current :=
  fun _ hm => (Option.some.inj hm).symm

end Router

/-- The mux without the compiled form of its table. -/
def Mux.forgotten (m : Mux A) : Mux A := { m with router := m.router.forgotten }

/-- A new route is added to the table, and nothing else happens to it. -/
theorem Route.perm_insert (x : Route A) (table : List (Route A)) :
    (x.insert table).Perm (table ++ [x]) := by
  obtain ⟨ahead, behind, rfl, hinsert, -⟩ := insert_split x table
  rw [hinsert]
  exact List.perm_middle.trans (List.perm_append_singleton x (ahead ++ behind)).symm

namespace Site

/-- The site with less of every mux, and without its log. -/
def reduced (f : Mux A → Mux A) (s : Site A S) : Site A S :=
  { s with muxes := s.muxes.map f, log := [] }

/-- A new mux has nothing that could be left out. -/
theorem mux_reduced {f : Mux A → Mux A}
    (hf : ∀ id, f (Mux.new id defaultCapacity) = Mux.new id defaultCapacity) (s : Site A S)
    (id : MuxId) : (s.reduced f).mux id = f (s.mux id) := by
  rw [mux, mux, reduced, List.getElem?_map]
  cases s.muxes[id]? with
  | some m => rfl
  | none => exact (hf id).symm

/-- Replacing a mux and leaving something out of every mux can be done in either order. -/
theorem reduced_setMux (f : Mux A → Mux A) (s : Site A S) (id : MuxId) (m : Mux A) :
    (s.setMux id m).reduced f = (s.reduced f).setMux id (f m) := by
  rw [reduced, setMux, List.map_set]
  rfl

section

variable {f : Mux A → Mux A} {s s' : Site A S}

/-- What handlers see of the site is the same where no more than muxes and logs differ. -/
theorem view_eq_of_reduced (h : s.reduced f = s'.reduced f) : s.view = s'.view := by
  show (s.reduced f).view = (s'.reduced f).view
  rw [h]

/-- The time that log lines give is the same where no more than muxes and logs differ. -/
theorem elapsed_eq_of_reduced (h : s.reduced f = s'.reduced f) : s.elapsed = s'.elapsed := by
  show (s.reduced f).elapsed = (s'.reduced f).elapsed
  rw [h]

/-- Request IDs are issued alike where no more than muxes and logs differ. -/
theorem freshId_of_reduced (h : s.reduced f = s'.reduced f)
    (app : (q : A.Ask) → Change A S (A.Answer q)) (serve serve' : MuxId → Server (Change A S)) :
    let issued := (Site.answer app serve .freshId).run s
    let issued' := (Site.answer app serve' .freshId).run s'
    issued.1 = issued'.1 ∧ issued.2.reduced f = issued'.2.reduced f := by
  -- The base and the count are fields that reducing keeps, so both can be read off the reduced
  -- sites.
  have hid : idText (s.reduced f).idBase ((s.reduced f).issued + 1)
      = idText (s'.reduced f).idBase ((s'.reduced f).issued + 1) := by rw [h]
  have hsame : { s.reduced f with issued := (s.reduced f).issued + 1 }
      = { s'.reduced f with issued := (s'.reduced f).issued + 1 } := by rw [h]
  exact ⟨hid, hsame⟩

end

/-- The site without its compiled tables and its log. -/
def forgotten (s : Site A S) : Site A S := s.reduced Mux.forgotten

/-- A mux of the site without compiled tables is that mux without its compiled table. -/
theorem mux_forgotten (s : Site A S) (id : MuxId) : s.forgotten.mux id = (s.mux id).forgotten :=
  mux_reduced (fun _ => rfl) s id

/-- Replacing a mux and forgetting what is compiled can be done in either order. -/
theorem forgotten_setMux (s : Site A S) (id : MuxId) (m : Mux A) :
    (s.setMux id m).forgotten = s.forgotten.setMux id m.forgotten :=
  reduced_setMux Mux.forgotten s id m

/-! ### Sites that are alike -/

/-- No route of a table of the one site is missing in the other one. -/
structure Grows (s s' : Site A S) : Prop where
  count : s.muxes.length ≤ s'.muxes.length
  routes : ∀ id, List.Subperm (s.mux id).router.routes (s'.mux id).router.routes

/-- The sites differ in nothing but which tables are compiled and in their logs, and what is
compiled is the present table. -/
structure Alike (s s' : Site A S) : Prop where
  current : ∀ id, (s.mux id).router.Current
  current' : ∀ id, (s'.mux id).router.Current
  same : s.forgotten = s'.forgotten

variable {s s' s'' : Site A S} {id : MuxId}

/-- A site has all the routes that it has. -/
theorem Grows.refl (s : Site A S) : s.Grows s := ⟨Nat.le_refl _, fun _ => .refl _⟩

/-- What stays in the tables over two changes in a row stays in them over both. -/
theorem Grows.trans (h : s.Grows s') (h' : s'.Grows s'') : s.Grows s'' :=
  ⟨h.count.trans h'.count, fun id => (h.routes id).trans (h'.routes id)⟩

/-- A mux may be replaced by one that has its routes, and no route of the site goes missing. -/
theorem grows_setMux {m : Mux A} (h : List.Subperm (s.mux id).router.routes m.router.routes) :
    s.Grows (s.setMux id m) := by
  refine ⟨(List.length_set ..).ge, fun j => ?_⟩
  -- Only the mux that was replaced can have other routes than before.
  rw [mux_setMux_eq]
  split
  · rename_i hj
    exact hj.1 ▸ h
  · exact .refl _

namespace Alike

/-- A site is like itself if what it keeps compiled is current. -/
theorem refl (h : ∀ id, (s.mux id).router.Current) : s.Alike s := ⟨h, h, rfl⟩

/-- Alike sites have the same muxes, up to the compiled tables. -/
theorem mux (h : s.Alike s') (id : MuxId) : (s.mux id).forgotten = (s'.mux id).forgotten := by
  rw [← mux_forgotten, ← mux_forgotten, h.same]

/-- Alike sites have the same stacks of layers: nothing of a stack is forgotten. -/
theorem stack (h : s.Alike s') (id : MuxId) : (s.mux id).stack = (s'.mux id).stack := by
  show (s.mux id).forgotten.stack = (s'.mux id).forgotten.stack
  rw [h.mux]

/-- Alike sites have the same routers, up to the compiled tables. -/
theorem router (h : s.Alike s') (id : MuxId) :
    (s.mux id).router.forgotten = (s'.mux id).router.forgotten := by
  show (s.mux id).forgotten.router = (s'.mux id).forgotten.router
  rw [h.mux]

/-- Alike sites stay alike whatever is written into their logs, also if the lines are different
ones. -/
theorem logged (h : s.Alike s') (line line' : LogLine) : (s.logged line).Alike (s'.logged line') :=
  ⟨h.current, h.current', h.same⟩

/-- Alike sites stay alike if a mux is replaced in both, by muxes that are current and the same up
to their compiled tables. -/
theorem setMux (h : s.Alike s') {m m' : Mux A} (hm : m.router.Current) (hm' : m'.router.Current)
    (hsame : m.forgotten = m'.forgotten) : (s.setMux id m).Alike (s'.setMux id m') := by
  -- The first two goals say that either site is current, each time at the replaced mux and
  -- elsewhere.
  refine ⟨fun j => ?_, fun j => ?_, ?_⟩
  · rw [mux_setMux_eq]
    split
    · exact hm
    · exact h.current j
  · rw [mux_setMux_eq]
    split
    · exact hm'
    · exact h.current' j
  · rw [forgotten_setMux, forgotten_setMux, hsame, h.same]

end Alike

/-- The two changes give the same results on alike sites and leave them alike. No route is taken out
of a table. -/
def alike : Correspondence (Change A S) (Change A S) where
  rel m n := ∀ s s', s.Alike s' →
    (m.run s).1 = (n.run s').1 ∧ (m.run s).2.Alike (n.run s').2 ∧ s.Grows (m.run s).2
  pure _ _ _ h := ⟨rfl, h, .refl _⟩
  bind {_ _ m n _ g} hm hf s s' h := by
    -- The first results agree, so both sides go on with the same second change, on sites that are
    -- alike.
    obtain ⟨hresult, hafter, hgrows⟩ := hm s s' h
    obtain ⟨hresult', hafter', hgrows'⟩ := hf (m.run s).1 _ _ hafter
    show _ = ((g (n.run s').1).run (n.run s').2).1
      ∧ Alike _ ((g (n.run s').1).run (n.run s').2).2 ∧ _
    rw [← hresult]
    exact ⟨hresult', hafter', hgrows.trans hgrows'⟩

/-! ### Changes that do the same on alike sites -/

/-- Changes that look at the site do the same if what they go on with does, for any two sites that
are alike. -/
theorem alike_get {α : Type} {f g : Site A S → Change A S α}
    (h : ∀ s s' : Site A S, s.Alike s' → alike.rel (f s) (g s')) :
    alike.rel (get >>= f) (get >>= g) :=
  fun s s' hs => h s s' hs s s' hs

/-- What does nothing that shows can be done first. -/
theorem alike_quiet {α : Type} {m : Change A S Unit} {f : Unit → Change A S α} {n : Change A S α}
    (hm : alike.rel m (pure ())) (hf : alike.rel (f ()) n) : alike.rel (m >>= f) n :=
  alike.bind (g := fun _ => n) hm fun _ => hf

/-- A change that does what another one does, whether its site is compiled or not, looks at no
compiled table itself. -/
theorem alike_self {α : Type} {m n : Change A S α} (h : alike.rel m n) : alike.rel m m := by
  intro s s' hs
  obtain ⟨hresult, hafter, hgrows⟩ := h s s' hs
  obtain ⟨hresult', hafter', -⟩ := h s' s' (.refl hs.current')
  exact ⟨hresult.trans hresult'.symm,
    ⟨hafter.current, hafter'.current, hafter.same.trans hafter'.same.symm⟩, hgrows⟩

/-- Two reports do the same, even of different lines, as alike sites may differ in their logs. -/
theorem alike_report (line line' : LogLine) :
    alike.rel (report line : Change A S Unit) (report line') :=
  fun _ _ h => ⟨rfl, h.logged line line', ⟨Nat.le_refl _, fun _ => .refl _⟩⟩

/-- A change of the stack of a mux does the same on alike sites, which have the same stacks. -/
theorem alike_modifyStack (id : MuxId) (f : Stack A → Stack A) :
    alike.rel (modifyStack id f : Change A S Unit) (modifyStack id f) := by
  intro s s' h
  refine ⟨rfl, h.setMux (h.current id) (h.current' id) ?_, grows_setMux (.refl _)⟩
  rw [Mux.forgotten, Mux.forgotten]
  dsimp only
  rw [h.router, h.stack]

/-- A change of the router that does not look at the compiled form of the table. -/
theorem alike_modifyRouter (id : MuxId) {f : Router A → Router A}
    (hcurrent : ∀ rt, rt.Current → (f rt).Current)
    (hforgotten : ∀ rt, (f rt).forgotten = f rt.forgotten)
    (hroutes : ∀ rt, List.Subperm rt.routes (f rt).routes) :
    alike.rel (modifyRouter id f : Change A S Unit) (modifyRouter id f) := by
  intro s s' h
  -- What is left is that the new routers are the same up to their compiled tables.
  refine ⟨rfl, h.setMux (hcurrent _ (h.current id)) (hcurrent _ (h.current' id)) ?_,
    grows_setMux (hroutes _)⟩
  rw [Mux.forgotten, Mux.forgotten]
  dsimp only
  rw [hforgotten, hforgotten, h.router, h.stack]

/-- Compiling a table does nothing that shows. -/
theorem alike_compile (id : MuxId) : alike.rel (compile id : Change A S Unit) (pure ()) := by
  intro s s' h
  let compiled := s.setMux id { s.mux id with router := (s.mux id).router.compiled }
  have hset : compiled.Alike (s'.setMux id (s'.mux id)) :=
    h.setMux (Router.current_compiled _) (h.current' id) (h.mux id)
  have hgrows : s.Grows compiled := grows_setMux (.refl _)
  -- On the other side the mux is replaced by itself, which is to do nothing.
  rw [setMux_mux] at hset
  exact ⟨rfl, ⟨hset.current, hset.current', hset.same⟩, ⟨hgrows.count, hgrows.routes⟩⟩

/-- Compiling a table only where it is not compiled yet does nothing that shows. -/
theorem alike_prepare (id : MuxId) : alike.rel (prepare id : Change A S Unit) (pure ()) := by
  refine alike_get (g := fun _ => pure ()) fun s s' _ => ?_
  -- Either the table has to be compiled now, or there is nothing to do at all.
  split
  · exact alike_compile id
  · exact alike.pure ()

/-- The compiled form of the present table. -/
def programAnew (id : MuxId) : Change A S Program := do
  return (Machine.ofRoutes ((← get).mux id).router.routes).program

/-- The compiled form that a mux gives out is that of its present table. -/
theorem alike_program (id : MuxId) :
    alike.rel (program id : Change A S Program) (programAnew id) := by
  refine alike_quiet (alike_prepare id) (alike_get fun s s' h => ?_)
  -- The site on the left may keep a compiled form. It is current, so it makes no difference.
  have hready : (s.mux id).router.ready = Machine.ofRoutes (s'.mux id).router.routes := by
    rw [(h.current id).ready_eq, h.router id]
    rfl
  rw [hready]
  exact alike.pure _

/-! ### The configuration -/

/-- Adding a route does the same on alike sites. The compiled form is dropped, and the table keeps
all the routes that were in it. -/
theorem alike_addRoute (id : MuxId) (x : Route A) :
    alike.rel (addRoute id x : Change A S Unit) (addRoute id x) := by
  refine alike.bind (alike_report _ _) fun _ => alike_modifyRouter id ?_ ?_ ?_
  · exact fun _ _ => Router.current_of_none rfl
  · exact fun _ => rfl
  · -- The new table is the old one with the route put in somewhere.
    intro rt
    exact (List.sublist_append_left _ _).subperm.trans (x.perm_insert rt.routes).symm.subperm

/-- A change of the stack that may fail fails on both of two alike sites or on neither. -/
theorem alike_tryStack (id : MuxId) (f : Stack A → Except UnknownLayer (Stack A)) :
    alike.rel (tryStack id f : Change A S _) (tryStack id f) := by
  refine alike_get fun s s' h => ?_
  -- Whether it fails depends on the stack alone, and there is one case for each way.
  rw [h.stack]
  cases f (s'.mux id).stack with
  | error e => exact alike.pure _
  | ok stack =>
    exact alike.bind (alike_modifyStack id _) fun _ =>
      alike.bind (alike_report _ _) fun _ => alike.pure _

/-- A step of the configuration takes no compiled table into account. -/
theorem alike_setup (id : MuxId) (x : Mux.Setup A) :
    alike.rel (x.perform id : Change A S Unit) (x.perform id) := by
  -- The routes are the one part of a mux whose change drops a compiled table. All the other steps
  -- leave the table alone or change the stack.
  cases x with
  | handle source methods e =>
    refine alike.bind (alike.bind ?_ fun result => ?_) fun _ => alike.pure _
    · rw [tryHandle]
      cases source.resolve with
      | error err => exact alike.pure _
      | ok pattern => exact alike.bind (alike_addRoute id _) fun _ => alike.pure _
    · cases result with
      | ok _ => exact alike.pure _
      | error err => exact alike.bind (alike_report _ _) fun _ => alike.pure _
  | notFound e => exact alike_modifyRouter id (fun _ h => h) (fun _ => rfl) fun _ => .refl _
  | use m =>
    exact alike.bind (alike_modifyStack id _) fun _ => alike_get fun _ _ _ => alike_report _ _
  | insert m before => exact alike.bind (alike_tryStack id _) fun _ => alike.pure _
  | abandon name => exact alike.bind (alike_tryStack id _) fun _ => alike.pure _

/-! ### Serving -/

/-- Alike sites give out the same chains. -/
theorem alike_alloc (id : MuxId) : alike.rel (alloc id : Change A S (Chain A)) (alloc id) := by
  refine alike_get fun s s' h => ?_
  rw [h.stack]
  exact alike.bind (alike_modifyStack id _) fun _ => alike.pure _

/-- A chain is given back to alike sites with the same effect: either both keep it, or both drop
it. -/
theorem alike_release (id : MuxId) (ch : Chain A) :
    alike.rel (release id ch : Change A S Unit) (release id ch) := by
  refine alike_get fun s s' h => ?_
  rw [h.stack]
  dsimp only
  split
  · exact alike_modifyStack id _
  · exact alike_report _ _

/-- Runs the handler that the table of a mux chooses, with the table compiled on the spot. -/
def routeAnew (answer : (q : Question A) → Change A S q.Answer) (id : MuxId) :
    Server (Change A S) :=
  fun c r => do
    let s ← get
    ((s.mux id).router.forgotten.script s.view c r).run (fun i => i.elim) answer

/-- Serves a request on a mux, with at most `depth` muxes inside each other. No compiled table is
kept. -/
def serveAnew (app : (q : A.Ask) → Change A S (A.Answer q)) : Nat → MuxId → Server (Change A S)
  | 0, _ => fun c _ => return ⟨c, .failure .tooDeep⟩
  | depth + 1, id => fun c r => do
    let answer := Site.answer app (serveAnew app depth)
    let chain ← alloc id
    let (served, chain) ← chain.serve answer (routeAnew answer chain.inner) c r
    match served.outcome with
    | .response _ => release id chain
    | .failure _ => pure ()
    return served

/-- A request is routed alike, whether the table is kept compiled or is compiled on the spot. -/
theorem alike_route {answer answer' : (q : Question A) → Change A S q.Answer}
    (h : ∀ q, alike.rel (answer q) (answer' q)) (id : MuxId) :
    alike.Servers (route answer id) (routeAnew answer' id) := by
  intro c r
  refine alike_quiet (alike_prepare id) (alike_get fun s s' hs => ?_)
  -- The kept table is current, the routers are the same up to it, and the handlers see the same of
  -- the site: so one and the same script is run on both sides.
  have hscript : (s.mux id).router.script s.view c r
      = (s'.mux id).router.forgotten.script s'.view c r := by
    rw [(hs.current id).script_eq, hs.router, view_eq_of_reduced hs.same]
  rw [hscript]
  exact alike.run (fun i => i.elim) (fun q _ => h q) (Script.asksOnly_true _)

variable {app : (q : A.Ask) → Change A S (A.Answer q)}

/-- The questions of handlers are answered alike, if the application does the same on alike sites
and the requests that are put on other muxes are served alike. -/
theorem alike_answer (happ : ∀ q, alike.rel (app q) (app q))
    {serve serve' : MuxId → Server (Change A S)}
    (h : ∀ id, alike.Servers (serve id) (serve' id)) (q : Question A) :
    alike.rel (answer app serve q) (answer app serve' q) := by
  cases q with
  | log line => exact alike_report _ _
  | freshId =>
    intro s s' h
    obtain ⟨hid, hsame⟩ := freshId_of_reduced h.same app serve serve'
    exact ⟨hid, ⟨h.current, h.current', hsame⟩, ⟨Nat.le_refl _, fun _ => .refl _⟩⟩
  | elapsed =>
    refine alike_get fun s s' h => ?_
    rw [elapsed_eq_of_reduced h.same]
    exact alike.pure _
  | serve id c r => exact h id c r
  | app q => exact happ q

/-- Serving with tables that are kept does what serving with tables compiled on the spot does. -/
theorem alike_serve (happ : ∀ q, alike.rel (app q) (app q)) (depth : Nat) (id : MuxId) :
    alike.Servers (serve app depth id) (serveAnew app depth id) := by
  -- Handlers may put requests on other muxes, which are served with less depth: that is what the
  -- induction is on.
  induction depth generalizing id with
  | zero => exact fun c r => alike.pure _
  | succ depth ih =>
    intro c r
    have hanswer := alike_answer happ ih
    refine alike.bind (alike_alloc id) fun chain => alike.bind
      ((alike_route hanswer chain.inner).chainServe (fun q _ => hanswer q)
        (fun m _ => m.layer.asksOnly_true) c r) fun ⟨⟨context, outcome⟩, chain⟩ => ?_
    -- Only a chain that has served to the end is given back.
    cases outcome with
    | response _ => exact alike.bind (alike_release id chain) fun _ => alike.pure _
    | failure _ => exact alike.pure _

/-! ### Histories -/

/-- What can be called on the muxes of a site: a step of the configuration, compiling a table, its
compiled form, and serving a request. -/
inductive Call (A : App)
  | setup (id : MuxId) (x : Mux.Setup A)
  | compile (id : MuxId)
  | program (id : MuxId)
  | serve (depth : Nat) (id : MuxId) (c : Context) (r : Request)

/-- What comes back from a call. -/
inductive Reply
  | done
  | program (p : Program)
  | served (served : Served)

namespace Call

/-- The call only compiles a table, or returns its compiled form. -/
def IsCompiling : Call A → Prop
  | compile _ => True
  | program _ => True
  | setup .. => False
  | serve .. => False

/-- The route that the call registers on a mux, if its pattern has no flaw. -/
def route? (id : MuxId) : Call A → Option (Route A)
  | setup j (.handle source methods e) =>
    if j = id then
      match source.resolve with
      | .ok pattern => some ⟨pattern, methods, e⟩
      | .error _ => none
    else none
  | _ => none

/-- The call performed on a site. -/
def perform (app : (q : A.Ask) → Change A S (A.Answer q)) : Call A → Change A S Reply
  | setup id x => do
    x.perform id
    return .done
  | compile id => do
    Site.compile id
    return .done
  | program id => return .program (← Site.program id)
  | serve depth id c r => return .served (← Site.serve app depth id c r)

/-- The call performed on a site that keeps no compiled tables. -/
def performAnew (app : (q : A.Ask) → Change A S (A.Answer q)) : Call A → Change A S Reply
  | setup id x => do
    x.perform id
    return .done
  | compile _ => return .done
  | program id => return .program (← programAnew id)
  | serve depth id c r => return .served (← serveAnew app depth id c r)

end Call

/-- What the calls of a history do, one after the other. -/
def performAll (perform : Call A → Change A S Reply) : List (Call A) → Change A S (List Reply)
  | [] => return []
  | x :: calls => do
    let reply ← perform x
    let replies ← performAll perform calls
    return reply :: replies

/-- The routes that the calls register on a mux. -/
def registered (id : MuxId) (calls : List (Call A)) : List (Route A) :=
  calls.filterMap (Call.route? id)

/-- Every call does the same if no compiled table is kept. -/
theorem alike_perform (happ : ∀ q, alike.rel (app q) (app q)) (x : Call A) :
    alike.rel (x.perform app) (x.performAnew app) := by
  cases x with
  | setup id x => exact alike.bind (alike_setup id x) fun _ => alike.pure _
  | compile id => exact alike_quiet (alike_compile id) (alike.pure _)
  | program id => exact alike.bind (alike_program id) fun _ => alike.pure _
  | serve depth id c r => exact alike.bind (alike_serve happ depth id c r) fun _ => alike.pure _

/-- A whole history does the same if no compiled table is kept. -/
theorem alike_performAll (happ : ∀ q, alike.rel (app q) (app q)) (calls : List (Call A)) :
    alike.rel (performAll (Call.perform app) calls) (performAll (Call.performAnew app) calls) := by
  induction calls with
  | nil => exact alike.pure _
  | cons x calls ih =>
    exact alike.bind (alike_perform happ x) fun _ => alike.bind ih fun _ => alike.pure _

/-- Calls that only compile do nothing that shows. -/
theorem alike_compiling (happ : ∀ q, alike.rel (app q) (app q)) {calls : List (Call A)}
    (h : ∀ x ∈ calls, x.IsCompiling) {s s' : Site A S} (hs : s.Alike s') :
    ((performAll (Call.perform app) calls).run s).2.Alike s' := by
  induction calls generalizing s with
  | nil => exact hs
  | cons x calls ih =>
    -- Anew, a call that only compiles does nothing at all, so the other site stays as it is.
    have hx : ((x.perform app).run s).2.Alike s' := by
      have hcalls := h x List.mem_cons_self
      have halike := (alike_perform happ x s s' hs).2.1
      cases x with
      | setup id x => exact hcalls.elim
      | compile id => exact halike
      | program id => exact halike
      | serve depth id c r => exact hcalls.elim
    exact ih (fun y hy => h y (List.mem_cons_of_mem x hy)) hx

/-! ### What was registered is in the table -/

/-- A call that registers a route is a call for handling a pattern without a flaw, and the route has
the methods and the handler that the call gives. -/
theorem Call.route?_eq_some {x : Call A} {added : Route A} (h : x.route? id = some added) :
    ∃ source, x = .setup id (.handle source added.methods added.endpoint)
      ∧ source.resolve = .ok added.pattern := by
  rw [Call.route?.eq_def] at h
  split at h
  · rename_i j source methods e
    rw [Option.ite_none_right_eq_some] at h
    obtain ⟨rfl, h⟩ := h
    split at h
    · rename_i pattern hresolve
      cases h
      exact ⟨source, rfl, hresolve⟩
    · cases h
  · cases h

/-- One call adds the route that it registers and takes none out. -/
theorem subperm_perform (happ : ∀ q, alike.rel (app q) (app q)) {s : Site A S} (hs : s.Alike s)
    (hid : id < s.muxes.length) (x : Call A) :
    List.Subperm ((x.route? id).toList ++ (s.mux id).router.routes)
      (((x.perform app).run s).2.mux id).router.routes := by
  -- A call that registers nothing still may run handlers that do; it is enough that none is lost
  -- then.
  cases hroute : x.route? id with
  | none => exact (alike_perform happ x s s hs).2.2.routes id
  | some added =>
    obtain ⟨source, rfl, hresolve⟩ := Call.route?_eq_some hroute
    let call : Call A := .setup id (.handle source added.methods added.endpoint)
    -- A registering call runs no handler, so what it does can be computed.
    have hrun : ((call.perform app).run s).2 = ((addRoute id added).run s).2 := by
      show ((Site.handle id source added.methods added.endpoint).run s).2 = _
      rw [handle_run, hresolve]
    have hmux : (((addRoute id added).run s).2.mux id).router.routes
        = added.insert (s.mux id).router.routes := by
      show (((s.logged added.addedLine).setMux id
        ((s.mux id).add added)).mux id).router.routes = _
      rw [mux_setMux_eq, if_pos ⟨rfl, hid⟩]
      rfl
    rw [hrun, hmux]
    exact (List.perm_append_comm.trans (added.perm_insert _).symm).subperm

/-- Nothing that was registered is missing in a table. -/
theorem subperm_registered (happ : ∀ q, alike.rel (app q) (app q)) {s : Site A S}
    (hs : s.Alike s) (hid : id < s.muxes.length) (calls : List (Call A)) :
    List.Subperm (registered id calls ++ (s.mux id).router.routes)
      (((performAll (Call.perform app) calls).run s).2.mux id).router.routes := by
  induction calls generalizing s with
  | nil => exact .refl _
  | cons x calls ih =>
    -- The call may have run handlers that add routes too, so the table is not just one longer.
    obtain ⟨-, halike, hgrows⟩ := alike_perform happ x s s hs
    have hnext : ((x.perform app).run s).2.Alike ((x.perform app).run s).2 :=
      .refl halike.current
    have hrest := ih hnext (hid.trans_le hgrows.count)
    have hsplit : registered id (x :: calls) = (x.route? id).toList ++ registered id calls := by
      rw [registered, List.filterMap_cons]
      cases x.route? id <;> rfl
    have hadded : List.Subperm (registered id calls ++ ((x.route? id).toList ++ _)) _ :=
      (List.subperm_append_left _).mpr (subperm_perform happ hs hid x)
    rw [hsplit, List.append_assoc]
    exact (List.perm_append_comm_assoc ..).subperm.trans (hadded.trans hrest)

/-- A new site is like itself, as it has compiled nothing yet. -/
theorem alike_start (capacities : List Nat) (idBase elapsed : String) (view : A.View) (state : S) :
    let site := (World.start capacities idBase elapsed view state).site
    site.Alike site :=
  .refl fun id => Router.current_of_none (by rw [mux_start]; rfl)

/-- After every history of registrations, other changes of the configuration, compiling and
requests, every compiled table is that of the present routes, and none of the routes that were
registered is missing. All later calls do what they do if every request is matched against the
present table, compiled on the spot. Compiling in between, any number of times, changes none of
their results. -/
theorem compiled_table_current (happ : ∀ q, alike.rel (app q) (app q)) (capacities : List Nat)
    (idBase elapsed : String) (view : A.View) (state : S) (before compiling later : List (Call A))
    (hcompiling : ∀ x ∈ compiling, x.IsCompiling) :
    let perform := performAll (Call.perform app)
    let site := ((perform before).run (World.start capacities idBase elapsed view state).site).2
    (∀ id m, (site.mux id).router.machine = some m →
        m.routes = (site.mux id).router.routes
          ∧ m.program = Program.ofTexts ((site.mux id).router.routes.map Route.start))
      ∧ (∀ id < capacities.length,
          List.Subperm (registered id before) (site.mux id).router.routes)
      ∧ ((perform later).run site).1 = ((performAll (Call.performAnew app) later).run site).1
      ∧ ((perform later).run ((perform compiling).run site).2).1
          = ((perform later).run site).1 := by
  intro perform site
  have hstart := alike_start capacities idBase elapsed view state
  have hsite : site.Alike site := .refl (alike_performAll happ before _ _ hstart).2.1.current
  have hcompiled : ((perform compiling).run site).2.Alike site :=
    alike_compiling happ hcompiling hsite
  -- With and without the compiling in between, the later calls do what they do anew.
  have hlater := (alike_performAll happ later _ _ hsite).1
  have hlater' := (alike_performAll happ later _ _ hcompiled).1
  refine ⟨fun id m hm => ?_, fun id hid => ?_, hlater, hlater'.trans hlater.symm⟩
  · rw [hsite.current id m hm]
    exact ⟨rfl, rfl⟩
  · -- The table of a new mux is empty, so what was registered is all there is to find.
    have hcount : id < (World.start capacities idBase elapsed view state).site.muxes.length := by
      show id < (capacities.mapIdx Mux.new).length
      rwa [List.length_mapIdx]
    have hregistered := subperm_registered happ hstart hcount before
    rw [mux_start] at hregistered
    exact (List.sublist_append_left _ _).subperm.trans hregistered

/-- An application whose handlers can have a route added while they serve a request. -/
def extending : App := ⟨Unit, fun _ => Program, Unit⟩

/-- The application adds a route to mux 0, compiles its table and returns the compiled form. -/
def extend (_ : extending.Ask) : Change extending Unit Program := do
  (Mux.Setup.handle (.text "/b") (MethodSet.of .get) (.constant (Response.new .ok))).perform 0
  compile 0
  program 0

/-- The handler has a route added. -/
def extendingHandler : Endpoint extending :=
  .plain fun _ => .ask (.app ()) fun _ => .done (.response (Response.new .noContent))

/-- A GET request for a path. -/
def getPath (path : String) : Request := ⟨.get, path, .http11, ⟨[]⟩, [], none⟩

/-- A request adds a second route to the table by which it was served. -/
def extended : List (Call extending) :=
  [.setup 0 (.handle (.text "/a") (MethodSet.of .get) extendingHandler),
    .serve 1 0 Context.empty (getPath "/a")]

/-- The table is compiled twice more. -/
def twiceCompiled : List (Call extending) := [.compile 0, .program 0]

/-- A request for the second route. -/
def servedLater : List (Call extending) := [.serve 1 0 Context.empty (getPath "/b"), .program 0]

/-- Two routes are in the compiled table, and compiling it again does not show. -/
theorem compiled_table_extended :
    (∀ q, alike.rel (extend q) (extend q)) ∧ (∀ x ∈ twiceCompiled, x.IsCompiling)
      ∧ let perform := performAll (Call.perform extend)
        let site := ((perform extended).run (World.start [1] "" "" () ()).site).2
        (site.mux 0).router.machine.map (·.routes.length) = some 2
          ∧ ((perform servedLater).run ((perform twiceCompiled).run site).2).1
              = ((perform servedLater).run site).1 := by
  have happ : ∀ q, alike.rel (extend q) (extend q) := fun _ =>
    alike.bind (alike_setup 0 _) fun _ =>
      alike.bind (alike_self (alike_compile 0)) fun _ => alike_self (alike_program 0)
  have hcompiling : ∀ x ∈ twiceCompiled, x.IsCompiling := by
    intro x hx
    rcases List.mem_pair.mp hx with rfl | rfl <;> trivial
  have hcurrent := compiled_table_current happ [1] "" "" () () extended twiceCompiled servedLater
    hcompiling
  exact ⟨happ, hcompiling, by with_unfolding_all rfl, hcurrent.2.2.2⟩

end Site

end HttpMux
