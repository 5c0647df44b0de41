import HttpMux.Proofs.Site.Recorded
import HttpMux.Proofs.Site.Settled

/-!
# `HttpMux.Proofs.Site.Reference`: serving requests by the plan alone

A settled site serves requests as its plan says. `Plan.serve` needs no more than the plan: it tries
the routes in the order of their registration, hands the context along the layers without a slot,
and keeps no chains. It writes down the same events as `Recorded.serve`.

* `Plan.serve`: serving a request by the plan.
* `Plan.follows`: what a settled site does is what the plan says, and leaves it settled.
* `Plan.follows_serveOn` and `Plan.follows_serve`: chains that are out and muxes do so.
-/

set_option autoImplicit false

namespace HttpMux

variable {A : App} {S : Type}

/-- Computations that do nothing but write events down. -/
abbrev Traced (A : App) := StateM (List (Event A))

namespace Site

/-- The application gives every question its answer, whatever has happened before, and leaves the
muxes alone. -/
structure Replies (app : (q : A.Ask) → Change A S (A.Answer q)) (reply : (q : A.Ask) → A.Answer q) :
    Prop where
  reply : ∀ q s, ((app q).run s).1 = reply q
  muxes : ∀ q s, ((app q).run s).2.muxes = s.muxes
  view : ∀ q s, ((app q).run s).2.view = s.view
  elapsed : ∀ q s, ((app q).run s).2.elapsed = s.elapsed

/-- Only its muxes and what scripts and patterns can see of it settle a site. -/
theorem Settled.congr {s s' : Site A S} {p : Plan A} {out : List (Chain A)} (h : s.Settled p out)
    (hmuxes : s'.muxes = s.muxes) (hview : s'.view = s.view) (helapsed : s'.elapsed = s.elapsed) :
    s'.Settled p out := by
  have hmux : ∀ id, s'.mux id = s.mux id := fun id => by rw [Site.mux, Site.mux, hmuxes]
  refine ⟨hview.trans h.view, helapsed.trans h.elapsed, hmuxes ▸ h.count, fun id => ?_,
    fun ch hch => ⟨?_, (h.out ch hch).stateless⟩⟩
  · rw [hmux]
    exact h.mux id
  · rw [hmux]
    exact (h.out ch hch).lent

namespace Plan

/-! ### The reference -/

/-- The answers to questions. Nothing stateless asks for a request ID. -/
def reply (p : Plan A) (reply : (q : A.Ask) → A.Answer q) (serve : MuxId → Server (Traced A)) :
    (q : Question A) → Traced A q.Answer
  | .log _ => return ()
  | .freshId => return ""
  | .elapsed => return p.elapsed
  | .serve id c r => serve id c r
  | .app q => return reply q

/-- The answers to questions, which are written down. -/
def answer (p : Plan A) (reply : (q : A.Ask) → A.Answer q) (serve : MuxId → Server (Traced A))
    (q : Question A) : Traced A q.Answer := do
  note (.asked q)
  p.reply reply serve q

/-- Runs the handler that the plan of a mux chooses. -/
def route (p : Plan A) (answer : (q : Question A) → Traced A q.Answer) (id : MuxId) :
    Server (Traced A) :=
  fun c r =>
    (Dispatch.ofRoutes p.view r c ((p.mux id).registered.filter (·.mayTake r))).call
      (p.mux id).fallback id r answer

/-- Serves a request on a mux as its plan says, with at most `depth` muxes inside each other. -/
def serve (p : Plan A) (reply : (q : A.Ask) → A.Answer q) : Nat → MuxId → Server (Traced A)
  | 0, _ => fun c _ => return ⟨c, .failure .tooDeep⟩
  | depth + 1, id =>
    let answer := p.answer reply (p.serve reply depth)
    threadAll answer (p.route answer id) (p.mux id).layers

/-! ### Settled sites follow it -/

/-- On every settled site, a recorded change gives what the plan gives and writes down the same
events, and it leaves the site settled. -/
def follows (p : Plan A) : Correspondence (Recorded A S) (Traced A) where
  rel m n := ∀ (out : List (Chain A)) (s : Site A S) (t : List (Event A)), s.Settled p out →
    ∃ s', (m.run t).run s = (n.run t, s') ∧ s'.Settled p out
  pure a out s t h := ⟨s, rfl, h⟩
  bind {α β m n f g} hm hf out s t h := by
    obtain ⟨s₁, hrun, h₁⟩ := hm out s t h
    obtain ⟨s₂, hrun', h₂⟩ := hf (n.run t).1 out s₁ (n.run t).2 h₁
    refine ⟨s₂, ?_, h₂⟩
    show (((f ((m.run t).run s).1.1).run ((m.run t).run s).1.2).run ((m.run t).run s).2) = _
    rw [hrun]
    exact hrun'

variable {p : Plan A}

/-- Writing the same event down first changes nothing. -/
theorem follows_note {α : Type} {m : Recorded A S α} {n : Traced A α} (h : p.follows.rel m n)
    (e : Event A) : p.follows.rel (do note e; m) (do note e; n) :=
  p.follows.bind (fun _ s _ hs => ⟨s, rfl, hs⟩) fun _ => h

/-- A change that gives a known result and leaves the site settled does as if it was that result. -/
theorem follows_quiet {α : Type} {m : Change A S α} {a : α}
    (h : ∀ (out : List (Chain A)) (s : Site A S), s.Settled p out →
      (m.run s).1 = a ∧ (m.run s).2.Settled p out) :
    p.follows.rel (Recorded.quiet m) (pure a) := by
  intro out s t hs
  obtain ⟨hresult, hsettled⟩ := h out s hs
  refine ⟨(m.run s).2, ?_, hsettled⟩
  rw [← hresult]
  rfl

variable {app : (q : A.Ask) → Change A S (A.Answer q)} {reply : (q : A.Ask) → A.Answer q}

/-- Questions that keep nothing get the answers of the plan, and leave the site settled. -/
theorem follows_answer (happ : Replies app reply) {serve : MuxId → Server (Recorded A S)}
    {serve' : MuxId → Server (Traced A)} (h : ∀ id, p.follows.Servers (serve id) (serve' id))
    (q : Question A) (hq : q.Stateless) :
    p.follows.rel (Recorded.answer app serve q) (p.answer reply serve' q) := by
  refine follows_note ?_ _
  -- Each kind of question does one thing to a site, and none of them unsettles it.
  cases q with
  | log line =>
    refine follows_quiet fun out s hs => ?_
    exact ⟨rfl, hs.logged line⟩
  | freshId => exact hq.elim
  | elapsed =>
    refine follows_quiet fun out s hs => ?_
    exact ⟨hs.elapsed, hs⟩
  | serve id c r => exact h id c r
  | app q =>
    refine follows_quiet fun out s hs => ?_
    exact ⟨happ.reply q s, hs.congr (happ.muxes q s) (happ.view q s) (happ.elapsed q s)⟩

/-- The script that a dispatch leads to keeps nothing between requests. -/
theorem stateless_script {plan : Mux.Plan A} (hp : plan.Stateless) (v : A.View) (c : Context)
    (r : Request) :
    ((Dispatch.ofRoutes v r c (plan.registered.filter (·.mayTake r))).script plan.fallback
      r).AsksOnly Question.Stateless := by
  rw [Dispatch.ofRoutes]
  split
  · rename_i x hfind
    have hx := List.mem_filter.mp (List.mem_of_find?_eq_some hfind)
    exact (hp.registered x hx.1).script _ r
  · exact hp.fallback.script _ r

/-- Running the handler that a dispatch leads to follows the plan. -/
theorem follows_call {answer : (q : Question A) → Recorded A S q.Answer}
    {answer' : (q : Question A) → Traced A q.Answer}
    (h : ∀ q, q.Stateless → p.follows.rel (answer q) (answer' q)) {d : Dispatch A}
    {fallback : Endpoint A} {r : Request} (hd : (d.script fallback r).AsksOnly Question.Stateless)
    (id : MuxId) : p.follows.rel (d.call fallback id r answer) (d.call fallback id r answer') :=
  follows_note (p.follows.run (fun i => i.elim) h hd) _

/-- A settled mux runs the handler that its plan chooses. -/
theorem follows_route (hp : p.Stateless) {answer : (q : Question A) → Recorded A S q.Answer}
    {answer' : (q : Question A) → Traced A q.Answer}
    (h : ∀ q, q.Stateless → p.follows.rel (answer q) (answer' q)) (id : MuxId) :
    p.follows.Servers (Recorded.route answer id) (p.route answer' id) := by
  intro c r out s t hs
  have hready := hs.prepare id
  let ready := ((Site.prepare id).run s).2
  have hdispatch : (ready.mux id).router.dispatch ready.view c r
      = Dispatch.ofRoutes p.view r c ((p.mux id).registered.filter (·.mayTake r)) := by
    rw [(hready.mux id).order.dispatch_eq, hready.view]
  -- The table is ready now, and calling the handler is all that is left.
  show ∃ s', ((((ready.mux id).router.dispatch ready.view c r).call (ready.mux id).router.notFound
    id r answer).run t).run ready = _ ∧ _
  rw [hdispatch, (hready.mux id).fallback]
  exact follows_call h (stateless_script (hp id) p.view c r) id out ready t hready

/-- A chain with an empty slot serves as if the context was handed along its layers. -/
theorem follows_serveOn (hp : p.Stateless) {answer : (q : Question A) → Recorded A S q.Answer}
    {answer' : (q : Question A) → Traced A q.Answer}
    (h : ∀ q, q.Stateless → p.follows.rel (answer q) (answer' q)) {ch : Chain A}
    (hslot : ch.slot = Context.empty)
    (hlayers : ∀ m ∈ ch.layers, m.layer.AsksOnly Question.Stateless) (c : Context) (r : Request) :
    p.follows.rel (Recorded.serveOn answer ch c r)
      ((fun served => (served, ch))
        <$> threadAll answer' (p.route answer' ch.inner) ch.layers c r) := by
  rw [Recorded.serveOn, Chain.serve_of_slot_empty answer hslot, map_eq_pure_bind, map_eq_pure_bind]
  exact p.follows.bind ((follows_route hp h ch.inner).threadAll h hlayers c r) fun served =>
    p.follows.pure (served, ch)

/-- A settled site serves every request as its plan says. -/
theorem follows_serve (happ : Replies app reply) (hp : p.Stateless) (depth : Nat) (id : MuxId) :
    p.follows.Servers (Recorded.serve app depth id) (p.serve reply depth id) := by
  -- The induction is on the depth, as a handler may serve another mux inside.
  induction depth generalizing id with
  | zero => exact fun c r => p.follows.pure _
  | succ depth ih =>
    intro c r out s t hs
    obtain ⟨ch, taken, halloc, hinner, hlayers, hslot, htaken⟩ := hs.alloc hp id
    -- While the request is served, its chain is out.
    obtain ⟨served, hrun, hserved⟩ := follows_serveOn hp (follows_answer happ ih) hslot
      (htaken.out ch List.mem_cons_self).stateless c r (ch :: out) taken t htaken
    rw [hinner, hlayers] at hrun
    rw [Recorded.serve, Recorded.serveWith_run, halloc]
    dsimp only
    rw [hrun, Recorded.giveBack_run]
    refine ⟨_, rfl, ?_⟩
    -- The chain goes back into its pool, or it is lost with a failure. The site is settled either
    -- way.
    split
    · exact hinner ▸ hserved.release
    · exact hserved.subset fun _ hch => List.mem_cons_of_mem ch hch

end Plan

end Site

end HttpMux
