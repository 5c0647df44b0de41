import HttpMux.Proofs.Site.Independence

/-!
# `HttpMux.Proofs.Site.Coherent`: what a site keeps for reuse

A site keeps two kinds of things for reuse, compiled tables and idle chains. It is coherent if every
compiled table is that of the present routes, and every idle chain is one of its mux and has the
present layers. Some chains may come from elsewhere: `given` says which idle chains a mux may have
got although they are chains of another one.

A chain is homed if the mux whose router it surrounds could have given it out. Chains stay homed
wherever they are, so the muxes to which they come back can rely on it.

* `Keeps`: a change that leaves every coherent site coherent. Nothing is asked of handlers but that
  what the application does for them is such a change, so they may configure muxes while they serve.
* `Coherent.setup`, `Coherent.alloc`, `Coherent.release` and `keeps_serve`: what can happen to a
  site.
* `Idle.serve_eq`: with a chain of its own, a mux serves by its present layers.
* `Coherent.after`: one action of a history, and `Coherent.run`: all of them.
* `reconfigure`: an application that configures a mux while another one serves a request.
-/

set_option autoImplicit false

namespace HttpMux.Site

variable {A : App} {S : Type}

/-- Serving on a mux is taking a chain, serving on it, and giving it back if there is a response. -/
theorem serve_run (app : (q : A.Ask) → Change A S (A.Answer q)) (depth : Nat) (id : MuxId)
    (c : Context) (r : Request) (s : Site A S) :
    let taken := (Site.alloc id).run s
    let served := (Site.serveOn (Site.answer app (Site.serve app depth)) taken.1 c r).run taken.2
    (Site.serve app (depth + 1) id c r).run s
      = (served.1.1, match served.1.1.outcome with
        | .response _ => ((Site.release id served.1.2).run served.2).2
        | .failure _ => served.2) := by
  intro taken served
  show ((do
    match served.1.1.outcome with
    | .response _ => Site.release id served.1.2
    | .failure _ => pure ()
    return served.1.1 : Change A S Served).run served.2) = _
  cases served.1.1.outcome <;> rfl

/-! ### The invariant -/

/-- A chain that its mux could have given out: it has the present layers if it is of the present
generation. -/
def Homed (s : Site A S) (ch : Chain A) : Prop :=
  Stack.World.Lent (s.mux ch.inner).stack ⟨ch, ch.layers, ch.generation⟩

/-- A chain that a mux may keep: one of its own, or one that it may have got from elsewhere. -/
structure Idle (given : MuxId → Chain A → Prop) (s : Site A S) (id : MuxId) (ch : Chain A) :
    Prop where
  homed : s.Homed ch
  generation : ch.generation = (s.mux id).stack.generation
  origin : ch.inner = id ∨ given id ch

/-- What holds of the things that a site keeps, and of the chains that are out. -/
structure Coherent (given : MuxId → Chain A → Prop) (s : Site A S) (out : List (Chain A)) :
    Prop where
  inner : ∀ id, (s.mux id).stack.inner = id
  current : ∀ id m, (s.mux id).router.machine = some m →
    m = Machine.ofRoutes (s.mux id).router.routes
  idle : ∀ id, ∀ ch ∈ (s.mux id).stack.idle, Idle given s id ch
  out : ∀ ch ∈ out, s.Homed ch

variable {given : MuxId → Chain A → Prop} {s s' : Site A S} {out : List (Chain A)} {id : MuxId}

/-- An idle chain of the mux itself has the present layers. -/
theorem Idle.layers {ch : Chain A} (h : Idle given s id ch) (hinner : ch.inner = id) :
    ch.layers = (s.mux id).stack.layers := by
  have hhomed := h.homed
  rw [Homed, hinner] at hhomed
  exact hhomed.present h.generation

/-- Only the muxes of a site count. -/
theorem Coherent.congr (h : s.Coherent given out) (hmuxes : s'.muxes = s.muxes) :
    s'.Coherent given out := by
  have hmux : ∀ id, s'.mux id = s.mux id := fun id => by rw [Site.mux, Site.mux, hmuxes]
  have hhomed : ∀ ch, s.Homed ch → s'.Homed ch := fun ch hch => by rwa [Homed, hmux]
  refine ⟨fun id => ?_, fun id => ?_, fun id ch hch => ?_, fun ch hch => hhomed ch (h.out ch hch)⟩
  · rw [hmux]
    exact h.inner id
  · rw [hmux]
    exact h.current id
  · rw [hmux] at hch
    have hidle := h.idle id ch hch
    exact ⟨hhomed ch hidle.homed, by rw [hmux]; exact hidle.generation, hidle.origin⟩

/-- A line in the log does not matter. -/
theorem Coherent.logged (h : s.Coherent given out) (line : LogLine) :
    (s.logged line).Coherent given out :=
  h.congr rfl

/-- Fewer chains that are out may be looked at, and more may be allowed to come from elsewhere. -/
theorem Coherent.mono (h : s.Coherent given out) {given' : MuxId → Chain A → Prop}
    (hgiven : ∀ id ch, given id ch → given' id ch) {out' : List (Chain A)}
    (hout : ∀ ch ∈ out', ch ∈ out) : s.Coherent given' out' where
  inner := h.inner
  current := h.current
  idle id ch hch :=
    have hidle := h.idle id ch hch
    ⟨hidle.homed, hidle.generation, hidle.origin.imp_right (hgiven id ch)⟩
  out ch hch := h.out ch (hout ch hch)

/-- Another mux in place of one with the same number, where chains of the old one stay at home. -/
theorem Coherent.setMux (h : s.Coherent given out) {m : Mux A} (hinner : m.stack.inner = id)
    (hcurrent : ∀ x, m.router.machine = some x → x = Machine.ofRoutes m.router.routes)
    (hlent : ∀ loan, Stack.World.Lent (s.mux id).stack loan → Stack.World.Lent m.stack loan)
    (hidle : ∀ ch ∈ m.stack.idle,
      s.Homed ch ∧ ch.generation = m.stack.generation ∧ (ch.inner = id ∨ given id ch)) :
    (s.setMux id m).Coherent given out := by
  have hhomed : ∀ ch, s.Homed ch → (s.setMux id m).Homed ch := by
    intro ch hch
    rw [Homed, mux_setMux_eq]
    split
    · rename_i hid
      exact hlent _ (hid.1 ▸ hch)
    · exact hch
  -- Each part is looked at for the replaced mux and for the others, which are as they were.
  refine ⟨fun j => ?_, fun j => ?_, fun j ch hch => ?_, fun ch hch => hhomed ch (h.out ch hch)⟩
  · rw [mux_setMux_eq]
    split
    · rename_i hid
      exact hinner.trans hid.1
    · exact h.inner j
  · rw [mux_setMux_eq]
    split
    · exact hcurrent
    · exact h.current j
  · rw [mux_setMux_eq] at hch
    by_cases hid : id = j ∧ id < s.muxes.length
    · rw [if_pos hid] at hch
      obtain ⟨hch, hgeneration, horigin⟩ := hidle ch hch
      exact ⟨hhomed ch hch, by rw [mux_setMux_eq, if_pos hid]; exact hgeneration, hid.1 ▸ horigin⟩
    · rw [if_neg hid] at hch
      have hold := h.idle j ch hch
      exact ⟨hhomed ch hold.homed, by rw [mux_setMux_eq, if_neg hid]; exact hold.generation,
        hold.origin⟩

/-! ### Tables and layers -/

/-- A change of the router that leaves no compiled form of an older table. -/
theorem Coherent.modifyRouter (h : s.Coherent given out) {f : Router A → Router A}
    (hcurrent : ∀ x, (f (s.mux id).router).machine = some x →
      x = Machine.ofRoutes (f (s.mux id).router).routes) :
    ((Site.modifyRouter id f).run s).2.Coherent given out := by
  refine h.setMux (h.inner id) hcurrent (fun _ hloan => hloan) fun ch hch => ?_
  have hidle := h.idle id ch hch
  exact ⟨hidle.homed, hidle.generation, hidle.origin⟩

/-- A compiled table is that of the present routes, since it has just been compiled. -/
theorem Coherent.compile (h : s.Coherent given out) (id : MuxId) :
    ((Site.compile id).run s).2.Coherent given out := by
  have hrouter : ((Site.modifyRouter id Router.compiled).run s).2.Coherent given out :=
    h.modifyRouter fun _ hx => (Option.some.inj hx).symm
  exact hrouter.logged _

/-- Compiling a table only where that is needed leaves the site coherent: what was kept is
current. -/
theorem Coherent.prepare (h : s.Coherent given out) (id : MuxId) :
    ((Site.prepare id).run s).2.Coherent given out := by
  rw [prepare_run]
  split
  · exact h.compile id
  · exact h

/-- Other layers leave no chain idle, and those that are out are of the past. -/
theorem Coherent.publish (h : s.Coherent given out) (id : MuxId) (layers : List (Middleware A)) :
    (s.setMux id { s.mux id with stack := (s.mux id).stack.publish layers }).Coherent given out :=
  h.setMux (h.inner id) (h.current id) (fun _ hloan => hloan.publish layers) nofun

/-- A change of the layers that may fail starts a new generation if it does not. -/
theorem Coherent.tryStack (h : s.Coherent given out) {f : Stack A → Except UnknownLayer (Stack A)}
    (hf : ∀ stack, f (s.mux id).stack = .ok stack →
      ∃ layers, stack = (s.mux id).stack.publish layers) :
    ((Site.tryStack id f).run s).2.Coherent given out := by
  cases hresult : f (s.mux id).stack with
  | ok stack =>
    obtain ⟨layers, rfl⟩ := hf stack hresult
    rw [tryStack_ok hresult]
    exact (h.publish id layers).logged _
  | error e =>
    rw [tryStack_error hresult]
    exact h

/-- A step of the configuration. -/
theorem Coherent.setup (h : s.Coherent given out) (id : MuxId) (x : Mux.Setup A) :
    ((x.perform id).run s).2.Coherent given out := by
  -- A registration drops the compiled table, a change of the layers drops the idle chains.
  cases x with
  | handle source methods e =>
    show ((Site.handle id source methods e).run s).2.Coherent given out
    rw [handle_run]
    cases source.resolve with
    | ok pattern =>
      exact (h.logged _).modifyRouter (f := (·.add ⟨pattern, methods, e⟩)) fun _ hx => nomatch hx
    | error err => exact h.logged _
  | notFound e => exact h.modifyRouter (h.current id)
  | use m => exact (h.publish id ((s.mux id).stack.layers ++ [m])).logged _
  | insert m before =>
    refine h.tryStack (f := fun stack => stack.insert m before) fun stack hstack => ?_
    rw [Stack.insert_eq] at hstack
    split at hstack
    · exact ⟨_, (Except.ok.inj hstack).symm⟩
    · cases hstack
  | abandon name =>
    refine h.tryStack (f := fun stack => stack.abandon name) fun stack hstack => ?_
    rw [Stack.abandon_eq] at hstack
    split at hstack
    · exact ⟨_, (Except.ok.inj hstack).symm⟩
    · cases hstack

/-! ### Chains -/

/-- The chain that is taken could have been kept, whether it was or is built. -/
theorem Coherent.idle_taken (h : s.Coherent given out) (id : MuxId) :
    Idle given s id ((Site.alloc id).run s).1 := by
  show Idle given s id (s.mux id).stack.alloc.1
  rw [Stack.alloc]
  -- The first idle chain is taken, or there is none and one is built of the present layers.
  split
  · rename_i ch idle hidle
    exact h.idle id ch (hidle ▸ List.mem_cons_self)
  · have hinner : (s.mux id).stack.build.1.inner = id := h.inner id
    refine ⟨?_, rfl, .inl hinner⟩
    rw [Homed, hinner]
    exact ⟨rfl, rfl, rfl, rfl, Nat.le_refl _, fun _ => rfl⟩

/-- Taking a chain leaves a site coherent, with this chain out as well. -/
theorem Coherent.alloc (h : s.Coherent given out) (id : MuxId) :
    ((Site.alloc id).run s).2.Coherent given (((Site.alloc id).run s).1 :: out) := by
  obtain ⟨hlayers, hgeneration, hinner, -⟩ := Stack.World.alloc_snd (s.mux id).stack
  have hout : s.Coherent given (((Site.alloc id).run s).1 :: out) := by
    refine ⟨h.inner, h.current, h.idle, fun ch hch => ?_⟩
    rcases List.mem_cons.mp hch with rfl | hch
    · exact (h.idle_taken id).homed
    · exact h.out ch hch
  refine hout.setMux (hinner.trans (h.inner id)) (h.current id)
    (fun loan hloan => hloan.congr hlayers hgeneration hinner) fun ch hch => ?_
  have hidle := h.idle id ch ((Stack.World.idle_alloc (s.mux id).stack).subset hch)
  exact ⟨hidle.homed, hidle.generation.trans hgeneration.symm, hidle.origin⟩

/-- A chain that is out comes to a mux that may keep it. -/
theorem Coherent.release {ch : Chain A} (h : s.Coherent given (ch :: out))
    (horigin : ch.generation = (s.mux id).stack.generation → ch.inner = id ∨ given id ch) :
    ((Site.release id ch).run s).2.Coherent given out := by
  have hhomed : s.Homed ch := h.out ch List.mem_cons_self
  have hrest : s.Coherent given out :=
    h.mono (fun _ _ hgiven => hgiven) fun _ hch => List.mem_cons_of_mem ch hch
  -- Its slot is emptied when a chain is kept, which changes nothing about a homed chain.
  have hslot : { ch with slot := Context.empty } = ch := by rw [← hhomed.slot]
  rw [release_run]
  split
  · rcases Stack.World.release_cases (s.mux id).stack ch with ⟨hcurrent, -, hrelease⟩ | hrelease
    · rw [hrelease, hslot]
      refine hrest.setMux (h.inner id) (h.current id) (fun loan hloan => hloan.congr rfl rfl rfl)
        fun ch' hch' => ?_
      rcases List.mem_cons.mp hch' with rfl | hch'
      · exact ⟨hhomed, hcurrent, horigin hcurrent⟩
      · have hidle := h.idle id ch' hch'
        exact ⟨hidle.homed, hidle.generation, hidle.origin⟩
    · rw [hrelease]
      refine hrest.setMux (h.inner id) (h.current id) (fun _ hloan => hloan) fun ch' hch' => ?_
      have hidle := h.idle id ch' hch'
      exact ⟨hidle.homed, hidle.generation, hidle.origin⟩
  · exact hrest.logged _

/-! ### Serving -/

/-- The change leaves a coherent site coherent, whatever chains are out. -/
def Keeps {α : Type} (m : Change A S α) : Prop :=
  ∀ (given : MuxId → Chain A → Prop) (out : List (Chain A)) (s : Site A S),
    s.Coherent given out → (m.run s).2.Coherent given out

/-- Changes that leave coherent sites coherent can be made one after the other. -/
def keeping : Correspondence (Change A S) (Change A S) where
  rel m _ := Keeps m
  pure _ _ _ _ h := h
  bind hm hf _ _ _ h := hf _ _ _ _ (hm _ _ _ h)

variable {app : (q : A.Ask) → Change A S (A.Answer q)}

/-- Answering a question of a handler leaves a site coherent, if the application and the muxes
do. -/
theorem keeps_answer (happ : ∀ q, Keeps (app q)) {serve : MuxId → Server (Change A S)}
    (hserve : ∀ id c r, Keeps (serve id c r)) (q : Question A) :
    Keeps (Site.answer app serve q) := by
  cases q with
  | log line => exact fun _ _ _ h => h.logged line
  | freshId => exact fun _ _ _ h => h.congr rfl
  | elapsed => exact fun _ _ _ h => h
  | serve id c r => exact hserve id c r
  | app q => exact happ q

/-- Routing a request keeps a site coherent, if answering questions does. -/
theorem keeps_route {answer : (q : Question A) → Change A S q.Answer}
    (h : ∀ q, Keeps (answer q)) (id : MuxId) (c : Context) (r : Request) :
    Keeps (Site.route answer id c r) := by
  intro given out s hs
  have hrun : ∀ script : Script A Empty Empty Served,
      keeping.rel (script.run (fun i => i.elim) answer) (script.run (fun i => i.elim) answer) :=
    fun script => keeping.run (fun i => i.elim) (fun q _ => h q) script.asksOnly_true
  exact hrun _ _ _ _ (hs.prepare id)

/-- Serving on a chain with an empty slot leaves the chain as it is. -/
theorem keeps_serveOn {answer : (q : Question A) → Change A S q.Answer}
    (h : ∀ q, Keeps (answer q)) {ch : Chain A} (hslot : ch.slot = Context.empty) (c : Context)
    (r : Request) (s : Site A S) :
    ((Site.serveOn answer ch c r).run s).1.2 = ch ∧ Keeps (Site.serveOn answer ch c r) := by
  have hroute : keeping.Servers (Site.route answer ch.inner) (Site.route answer ch.inner) :=
    keeps_route h ch.inner
  have hlayers : keeping.Servers (threadAll answer (Site.route answer ch.inner) ch.layers)
      (threadAll answer (Site.route answer ch.inner) ch.layers) :=
    hroute.threadAll (fun q _ => h q) fun m _ => m.layer.asksOnly_true
  rw [Site.serveOn, Chain.serve_of_slot_empty answer hslot]
  exact ⟨rfl, hlayers c r⟩

/-- A mux that gives out a chain of its own serves requests with its present layers around its
router. -/
theorem Idle.serve_eq (hidle : Idle given s id ((Site.alloc id).run s).1)
    (hinner : ((Site.alloc id).run s).1.inner = id) (app : (q : A.Ask) → Change A S (A.Answer q))
    (depth : Nat) (c : Context) (r : Request) :
    let answer := Site.answer app (Site.serve app depth)
    let taken := (Site.alloc id).run s
    let served := (threadAll answer (Site.route answer id) (s.mux id).stack.layers c r).run taken.2
    (Site.serve app (depth + 1) id c r).run s
      = (served.1, match served.1.outcome with
        | .response _ => ((Site.release id taken.1).run served.2).2
        | .failure _ => served.2) := by
  intro answer taken served
  rw [serve_run, Site.serveOn, Chain.serve_of_slot_empty _ hidle.homed.slot, hinner,
    hidle.layers hinner]
  rfl

/-- Serving a request keeps a site coherent, whatever handlers do to the configuration meanwhile.
A change of generation while the chain is out only has the effect that the chain is dropped. -/
theorem keeps_serve (happ : ∀ q, Keeps (app q)) (depth : Nat) (id : MuxId) (c : Context)
    (r : Request) : Keeps (Site.serve app depth id c r) := by
  -- A handler may put the request on another mux, where there is less depth left.
  induction depth generalizing id c r with
  | zero => exact fun _ _ _ h => h
  | succ depth ih =>
    intro given out s h
    have hidle := h.idle_taken id
    obtain ⟨hsame, hkeeps⟩ := keeps_serveOn (keeps_answer happ ih) hidle.homed.slot c r
      ((Site.alloc id).run s).2
    -- While the request is served, its chain is out.
    have hserved := hkeeps _ _ _ (h.alloc id)
    rw [serve_run, hsame]
    dsimp only
    split
    · exact hserved.release fun _ => hidle.origin
    · exact hserved.mono (fun _ _ hgiven => hgiven) fun _ hch => List.mem_cons_of_mem _ hch

/-! ### Histories -/

/-- New muxes keep nothing. -/
theorem coherent_start (given : MuxId → Chain A → Prop) (capacities : List Nat)
    (idBase elapsed : String) (view : A.View) (state : S) :
    (World.start capacities idBase elapsed view state).site.Coherent given [] := by
  have hmux := mux_start (A := A) capacities idBase elapsed view state
  refine ⟨fun id => ?_, fun id m hm => ?_, fun id ch hch => ?_, nofun⟩
  · rw [hmux]
    rfl
  · rw [hmux] at hm
    cases hm
  · rw [hmux] at hch
    cases hch

/-- One action leaves a site coherent. A chain that is out comes back to its own mux. -/
theorem Coherent.after {w : World A S} (h : w.site.Coherent given w.out)
    (happ : ∀ q, Keeps (app q)) (a : Action A) :
    (w.after app a).site.Coherent given (w.after app a).out := by
  -- A chain that is out is named by its place, so most cases ask first whether there is one.
  cases a with
  | setup id x => exact h.setup id x
  | traffic t =>
    cases t with
    | compile id => exact h.compile id
    | serve depth id c r => exact keeps_serve happ depth id c r _ _ _ h
    | alloc id => exact h.alloc id
    | serveOn depth i c r =>
      rw [World.after, World.afterTraffic]
      split
      · rename_i ch hi
        have hmem := List.mem_of_getElem? hi
        obtain ⟨hsame, hkeeps⟩ := keeps_serveOn (keeps_answer happ (keeps_serve happ depth))
          (h.out ch hmem).slot c r w.site
        refine (hkeeps _ _ _ h).mono (fun _ _ hgiven => hgiven) fun ch' hch' => ?_
        -- The chain that comes back is the one that was there.
        rcases List.mem_or_eq_of_mem_set hch' with hch' | heq
        · exact hch'
        · rw [heq, hsame]
          exact hmem
      · exact h
    | release i =>
      rw [World.after, World.afterTraffic]
      split
      · rename_i ch hi
        refine Coherent.release (h.mono (fun _ _ hgiven => hgiven) fun ch' hch' => ?_)
          fun _ => .inl rfl
        rcases List.mem_cons.mp hch' with rfl | hch'
        · exact List.mem_of_getElem? hi
        · exact List.mem_of_mem_eraseIdx hch'
      · exact h

/-- All actions of a history leave a site coherent. -/
theorem Coherent.run {w : World A S} (h : w.site.Coherent given w.out)
    (happ : ∀ q, Keeps (app q)) (history : List (Action A)) :
    (w.run app history).site.Coherent given (w.run app history).out := by
  induction history generalizing w with
  | nil => exact h
  | cons a history ih => exact ih (h.after happ a)

/-! ### An application that configures while it serves -/

/-- A layer that passes everything on. -/
def noop : Middleware A := ⟨"noop", .context fun c r => .call (c, r)⟩

/-- An application whose handlers can ask it for one thing. -/
def asking : App := ⟨Unit, fun _ => Unit, Unit⟩

/-- It adds a layer to mux 1, also while a request is served. -/
def reconfigure (_ : asking.Ask) : Change asking Unit Unit := Site.use 1 noop

/-- A handler that puts its question to the application and then fails. -/
def askingHandler : Endpoint asking :=
  .plain fun _ => .ask (.app ()) fun _ => .done (.failure .silent)

/-- Adding a layer is a step of the configuration, whenever it is done. -/
theorem keeps_reconfigure (q : asking.Ask) : Keeps (reconfigure q) :=
  fun _ _ _ h => h.setup 1 (.use noop)

end HttpMux.Site
