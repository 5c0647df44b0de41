import HttpMux.Proofs.Site.Compiled

/-!
# `HttpMux.Proofs.Site.Outline`: two sites with the same outline

The outline of a site is all of it but what it keeps for reuse and its log. Idle chains differ from
site to site, for instance because a chain is out on the one and not on the other. That never shows
in a response or a context.

Two muxes are twins if they have the same routes and the same handler for the rest. They may have
different layers.

* `Site.outline`: what is left without idle chains, compiled tables and the log.
* `agreeing`: two changes that do the same on coherent sites with the same outline, and keep two
  given muxes twins.
* `agreeing_route`: the routers of twins do the same.
* `route_run_of_outline`: what a router does depends on the outline of its site.
* `Agree.serve` and `agreeing_serve`: so do muxes on which requests are served.

Handlers may configure muxes while a request is served, as long as the twins stay twins.
-/

set_option autoImplicit false

namespace HttpMux

variable {A : App} {S : Type}

/-! ### Outlines -/

/-- The stack without its idle chains, and without the number of chains that it has built. -/
def Stack.outline (s : Stack A) : Stack A := { s with idle := [], built := 0 }

/-- The mux without what it keeps for reuse. -/
def Mux.outline (m : Mux A) : Mux A := ⟨m.stack.outline, m.router.forgotten⟩

namespace Site

/-- The site without what it keeps for reuse, and without its log. -/
def outline (s : Site A S) : Site A S := s.reduced Mux.outline

variable {s s' t t' : Site A S} {id : MuxId}

/-- A mux of the outline is the outline of the mux. -/
theorem mux_outline (s : Site A S) (id : MuxId) : s.outline.mux id = (s.mux id).outline :=
  mux_reduced (fun _ => rfl) s id

/-- Another mux with the same outline leaves the outline of the site as it is. -/
theorem outline_setMux {m : Mux A} (h : m.outline = (s.mux id).outline) :
    (s.setMux id m).outline = s.outline := by
  rw [outline, reduced_setMux, h, ← mux_outline, ← outline, setMux_mux]

/-- Taking a chain leaves the outline, as it touches idle chains only. -/
theorem outline_alloc (s : Site A S) (id : MuxId) :
    ((Site.alloc id).run s).2.outline = s.outline := by
  refine outline_setMux ?_
  show (⟨(s.mux id).stack.alloc.2.outline, _⟩ : Mux A) = _
  have hstack : (s.mux id).stack.alloc.2.outline = (s.mux id).stack.outline := by
    rw [Stack.alloc]
    split <;> rfl
  rw [hstack]
  rfl

/-- Giving a chain back leaves the outline. -/
theorem outline_release (s : Site A S) (id : MuxId) (ch : Chain A) :
    ((Site.release id ch).run s).2.outline = s.outline := by
  rw [release_run]
  split
  · have hstack : ((s.mux id).stack.release ch).outline = (s.mux id).stack.outline := by
      rw [Stack.release]
      split <;> rfl
    refine outline_setMux ?_
    rw [Mux.outline, hstack]
    rfl
  · rfl

/-- Compiling a table leaves the outline. -/
theorem outline_prepare (s : Site A S) (id : MuxId) :
    ((Site.prepare id).run s).2.outline = s.outline := by
  rw [prepare_run]
  split
  · exact outline_setMux rfl
  · rfl

/-- With the same outline, muxes have the same layers. -/
theorem layers_eq_of_outline (h : s.outline = s'.outline) (id : MuxId) :
    (s.mux id).stack.layers = (s'.mux id).stack.layers := by
  show (s.mux id).outline.stack.layers = (s'.mux id).outline.stack.layers
  rw [← mux_outline, ← mux_outline, h]

/-- With the same outline, muxes have the same router, up to the compiled form of its table. -/
theorem router_eq_of_outline (h : s.outline = s'.outline) (id : MuxId) :
    (s.mux id).router.forgotten = (s'.mux id).router.forgotten := by
  show (s.mux id).outline.router = (s'.mux id).outline.router
  rw [← mux_outline, ← mux_outline, h]

/-! ### Sites that agree -/

/-- The two muxes have the same routes and the same handler for the rest. -/
structure Twins (s : Site A S) (a b : MuxId) : Prop where
  routes : (s.mux a).router.routes = (s.mux b).router.routes
  notFound : (s.mux a).router.notFound = (s.mux b).router.notFound

/-- The routers of twins are the same up to their compiled tables. -/
theorem Twins.router {a b : MuxId} (h : s.Twins a b) :
    (s.mux a).router.forgotten = (s.mux b).router.forgotten := by
  rw [Router.forgotten, h.routes, h.notFound]
  rfl

/-- Twins are twins in the outline. -/
theorem Twins.congr {a b : MuxId} (h : s.Twins a b) (hsame : s.outline = s'.outline) :
    s'.Twins a b := by
  have hrouter : (s'.mux a).router.forgotten = (s'.mux b).router.forgotten := by
    rw [← router_eq_of_outline hsame, ← router_eq_of_outline hsame, h.router]
  obtain ⟨hroutes, -, hnotFound⟩ := Router.mk.inj hrouter
  exact ⟨hroutes, hnotFound⟩

/-- What a site keeps for reuse is as it should be, while the given chains are out: compiled tables
are those of the present routes, and idle chains have the present layers of their own mux. -/
abbrev Sane (s : Site A S) (out : List (Chain A)) : Prop := s.Coherent (fun _ _ => False) out

/-- Sites are sane after every history. Chains come back to their own muxes there. -/
theorem sane_run {app : (q : A.Ask) → Change A S (A.Answer q)} (happ : ∀ q, Keeps (app q))
    (capacities : List Nat) (idBase elapsed : String) (view : A.View) (state : S)
    (history : List (Action A)) :
    ((World.start capacities idBase elapsed view state).run app history).site.Sane [] := by
  let start := World.start (A := A) capacities idBase elapsed view state
  have hstart : start.site.Coherent (fun _ _ => False) start.out :=
    coherent_start _ capacities idBase elapsed view state
  exact (hstart.run happ history).mono (fun _ _ hgiven => hgiven) nofun

/-- A site from which a chain has been taken is sane as long as nobody looks at the chain. -/
theorem Coherent.taken (h : s.Sane []) (id : MuxId) : ((Site.alloc id).run s).2.Sane [] :=
  (h.alloc id).mono (fun _ _ hgiven => hgiven) nofun

/-- A sane mux gives out chains of its own. -/
theorem Coherent.inner_taken (h : s.Sane []) (id : MuxId) : ((Site.alloc id).run s).1.inner = id :=
  (h.idle_taken id).origin.resolve_right fun hgiven => hgiven

/-- A sane mux tries its routes in the order of its table. -/
theorem Coherent.ordered (h : s.Sane []) (id : MuxId) :
    (s.mux id).router.Ordered (s.mux id).router.routes :=
  Router.Current.ordered (h.current id)

variable {a b : MuxId}

/-- Two sites with the same outline, on each of which the two muxes are twins. -/
structure Agree (a b : MuxId) (s s' : Site A S) : Prop where
  sane : s.Sane []
  sane' : s'.Sane []
  same : s.outline = s'.outline
  twins : s.Twins a b

/-- Changes that leave the outlines as they are do not matter. -/
theorem Agree.congr (h : Agree a b s s') (ht : t.Sane []) (hs : t.outline = s.outline)
    (ht' : t'.Sane []) (hs' : t'.outline = s'.outline) : Agree a b t t' :=
  ⟨ht, ht', hs.trans (h.same.trans hs'.symm), h.twins.congr hs.symm⟩

/-- The two changes give the same results on sites that agree, and the sites agree afterwards. -/
def agreeing (a b : MuxId) : Correspondence (Change A S) (Change A S) where
  rel m n := Keeps m ∧ Keeps n ∧ ∀ s s', Agree a b s s' →
    (m.run s).1 = (n.run s').1 ∧ (m.run s).2.outline = (n.run s').2.outline
      ∧ (m.run s).2.Twins a b
  pure _ := ⟨fun _ _ _ h => h, fun _ _ _ h => h, fun _ _ h => ⟨rfl, h.same, h.twins⟩⟩
  bind {_ _ m n f g} hm hf := by
    obtain ⟨hkeeps, hkeeps', hm⟩ := hm
    refine ⟨fun _ _ _ h => (hf _).1 _ _ _ (hkeeps _ _ _ h),
      fun _ _ _ h => (hf _).2.1 _ _ _ (hkeeps' _ _ _ h), fun s s' h => ?_⟩
    -- The first changes return the same, so both sides go on with what follows from the same
    -- result.
    obtain ⟨hresult, hsame, htwins⟩ := hm s s' h
    have hafter : Agree a b (m.run s).2 (n.run s').2 :=
      ⟨hkeeps _ _ _ h.sane, hkeeps' _ _ _ h.sane', hsame, htwins⟩
    obtain ⟨hresult', hsame', htwins'⟩ := (hf (m.run s).1).2.2 _ _ hafter
    show _ = ((g (n.run s').1).run (n.run s').2).1
      ∧ _ = ((g (n.run s').1).run (n.run s').2).2.outline ∧ _
    rw [← hresult]
    exact ⟨hresult', hsame', htwins'⟩

/-! ### Routers -/

variable {answer answer' : (q : Question A) → Change A S q.Answer}

/-- The routers of two muxes do the same, if they are one mux or twins. -/
theorem agreeing_route {id' : MuxId} (hids : ∀ s : Site A S, s.Twins a b →
      (s.mux id).router.forgotten = (s.mux id').router.forgotten)
    (hanswer : ∀ q, (agreeing a b).rel (answer q) (answer' q)) :
    (agreeing a b).Servers (route answer id) (route answer' id') := by
  intro c r
  have hkeeps := keeps_route (fun q => (hanswer q).1) id c r
  have hkeeps' := keeps_route (fun q => (hanswer q).2.1) id' c r
  refine ⟨hkeeps, hkeeps', fun s s' h => ?_⟩
  let ready := ((Site.prepare id).run s).2
  let ready' := ((Site.prepare id').run s').2
  -- Whether a table had to be compiled does not show in the outline.
  have hready : Agree a b ready ready' := h.congr (h.sane.prepare id) (outline_prepare s id)
    (h.sane'.prepare id') (outline_prepare s' id')
  have hscript : (ready.mux id).router.script ready.view c r
      = (ready'.mux id').router.script ready'.view c r := by
    rw [Router.Current.script_eq (hready.sane.current id),
      Router.Current.script_eq (hready.sane'.current id'), hids ready hready.twins,
      router_eq_of_outline hready.same, view_eq_of_reduced hready.same]
  -- The tables are ready now, and the script is all that is left.
  have hrun : (agreeing a b).rel
      (((ready.mux id).router.script ready.view c r).run (fun i => i.elim) answer)
      (((ready'.mux id').router.script ready'.view c r).run (fun i => i.elim) answer') := by
    rw [hscript]
    exact (agreeing a b).run (fun i => i.elim) (fun q _ => hanswer q) (Script.asksOnly_true _)
  exact hrun.2.2 ready ready' hready

/-- On a site with the same outline, the router of a mux runs the handler that it chooses here. -/
theorem route_run_of_outline (hs : s.Sane []) (ht : t.Sane []) (hsame : t.outline = s.outline)
    (answer : (q : Question A) → Change A S q.Answer) (id : MuxId) (c : Context) (r : Request) :
    let rt := (s.mux id).router
    (Site.route answer id c r).run t
      = (((rt.dispatch s.view c r).script rt.notFound r).run (fun i => i.elim) answer).run
          ((Site.prepare id).run t).2 := by
  intro rt
  let ready := ((Site.prepare id).run t).2
  have hready : ready.outline = s.outline := (outline_prepare t id).trans hsame
  have hscript : (ready.mux id).router.script ready.view c r = rt.script s.view c r := by
    rw [Router.Current.script_eq ((ht.prepare id).current id), router_eq_of_outline hready,
      view_eq_of_reduced hready, ← Router.Current.script_eq (hs.current id)]
  show (((ready.mux id).router.script ready.view c r).run (fun i => i.elim) answer).run ready = _
  rw [hscript, Router.script_eq]

/-! ### Serving -/

variable {app : (q : A.Ask) → Change A S (A.Answer q)}

/-- The questions of handlers are answered alike on sites that agree. -/
theorem agreeing_answer (happ : ∀ q, (agreeing a b).rel (app q) (app q))
    {serve : MuxId → Server (Change A S)}
    (hserve : ∀ id, (agreeing a b).Servers (serve id) (serve id)) (q : Question A) :
    (agreeing a b).rel (Site.answer app serve q) (Site.answer app serve q) := by
  have hkeeps : ∀ q, Keeps (Site.answer app serve q) :=
    keeps_answer (fun q => (happ q).1) fun id c r => (hserve id c r).1
  -- Neither log lines nor request IDs touch a mux, so the twins stay twins.
  cases q with
  | log line =>
    refine ⟨hkeeps _, hkeeps _, fun s s' h => ⟨rfl, h.same, ?_⟩⟩
    exact ⟨h.twins.routes, h.twins.notFound⟩
  | freshId =>
    refine ⟨hkeeps _, hkeeps _, fun s s' h => ?_⟩
    obtain ⟨hid, hsame⟩ := freshId_of_reduced h.same app serve serve
    exact ⟨hid, hsame, ⟨h.twins.routes, h.twins.notFound⟩⟩
  | elapsed =>
    exact ⟨hkeeps _, hkeeps _, fun s s' h => ⟨elapsed_eq_of_reduced h.same, h.same, h.twins⟩⟩
  | serve id c r => exact hserve id c r
  | app q => exact happ q

/-- A mux with sane chains serves by its present layers, and what it keeps for reuse is all that
changes besides. -/
theorem serve_threaded (h : s.Sane []) (app : (q : A.Ask) → Change A S (A.Answer q)) (depth : Nat)
    (id : MuxId) (c : Context) (r : Request) :
    let answer := Site.answer app (Site.serve app depth)
    let served := (Site.serve app (depth + 1) id c r).run s
    let threaded := (threadAll answer (Site.route answer id) (s.mux id).stack.layers c r).run
      ((Site.alloc id).run s).2
    served.1 = threaded.1 ∧ served.2.outline = threaded.2.outline := by
  intro answer served threaded
  have hidle := h.idle_taken id
  have hserved : served = _ :=
    hidle.serve_eq (h.inner_taken id) app depth c r
  rw [hserved]
  refine ⟨rfl, ?_⟩
  dsimp only
  -- The chain is given back or not; the outline is the same in both cases.
  split
  · exact outline_release _ id _
  · rfl

/-- On sites that agree, two muxes serve alike if the layers around their routers do the same. -/
theorem Agree.serve (h : Agree a b s s') {depth : Nat} {id id' : MuxId} {c c' : Context}
    {r r' : Request}
    (hthreaded :
      let answer := Site.answer app (Site.serve app depth)
      (agreeing a b).rel (threadAll answer (Site.route answer id) (s.mux id).stack.layers c r)
        (threadAll answer (Site.route answer id') (s'.mux id').stack.layers c' r')) :
    let served := (Site.serve app (depth + 1) id c r).run s
    let served' := (Site.serve app (depth + 1) id' c' r').run s'
    served.1 = served'.1 ∧ served.2.outline = served'.2.outline ∧ served.2.Twins a b := by
  intro served served'
  obtain ⟨hresult, hsame⟩ := serve_threaded h.sane app depth id c r
  obtain ⟨hresult', hsame'⟩ := serve_threaded h.sane' app depth id' c' r'
  -- While the requests are served, a chain is out on each site, which does not show.
  have htaken : Agree a b ((Site.alloc id).run s).2 ((Site.alloc id').run s').2 :=
    h.congr (h.sane.taken id) (outline_alloc s id) (h.sane'.taken id') (outline_alloc s' id')
  obtain ⟨hthread, houtline, htwins⟩ := hthreaded.2.2 _ _ htaken
  exact ⟨hresult.trans (hthread.trans hresult'.symm), hsame.trans (houtline.trans hsame'.symm),
    htwins.congr hsame.symm⟩

/-- On sites that agree, every mux serves every request alike. -/
theorem agreeing_serve (happ : ∀ q, (agreeing a b).rel (app q) (app q)) (depth : Nat) (id : MuxId) :
    (agreeing a b).Servers (serve app depth id) (serve app depth id) := by
  -- Requests that handlers put on other muxes are served with less depth.
  induction depth generalizing id with
  | zero => exact fun c r => (agreeing a b).pure _
  | succ depth ih =>
    intro c r
    have hanswer := agreeing_answer happ ih
    have hkeeps := keeps_serve (fun q => (happ q).1) (depth + 1) id c r
    refine ⟨hkeeps, hkeeps, fun s s' h => h.serve ?_⟩
    rw [layers_eq_of_outline h.same id]
    exact (agreeing_route (fun _ _ => rfl) hanswer).threadAll (fun q _ => hanswer q)
      (fun m _ => m.layer.asksOnly_true) c r

end Site

end HttpMux
