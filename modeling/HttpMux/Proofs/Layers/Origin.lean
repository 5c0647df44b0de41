import HttpMux.Layers.Origin
import HttpMux.Proofs.Chain.Outermost
import HttpMux.Proofs.Dict
import HttpMux.Proofs.Site.Outline

/-!
# `HttpMux.Proofs.Layers.Origin`: several layers that believe the claimed address

A layer that believes the address in the proxy headers leaves the headers in place, so a second one
believes it again. For the request this makes no difference. For the environment it does: the second
layer finds the claimed address as the one from which the request arrived, and keeps that one in
place of the real one.

* `beyond`: the context and the request inside of a number of such layers.
* `threadAll_realIp`: what they do around whatever is inside.
* `beyond_add`: it does not matter how the layers are spread over muxes.
* `beyond_eq_iff`: when a second layer does no harm.
* `Site.realIp_layers`: all this after every history, on one mux, and on a mux and one that is
  mounted on it.
* `Site.origin_lost`: with two layers, the address of the connection is lost.
-/

set_option autoImplicit false

namespace HttpMux

variable {A : App} {S : Type}

namespace Layers

/-- The context in which the address is kept that a request arrived from. -/
def withOrigin (c : Context) (r : Request) : Context :=
  c.withValue originalAddressKey (.string (arrivalText r))

/-- The context and the request inside of a number of layers. One layer keeps the address that the
request arrived from, and any further one the address that is claimed. -/
def beyond (n : Nat) (c : Context) (r : Request) : Context × Request :=
  match claimedIp? r with
  | none => (c, r)
  | some ip =>
    match n with
    | 0 => (c, r)
    | 1 => (withOrigin c r, comingFrom r ip)
    | _ + 2 => (withOrigin c (comingFrom r ip), comingFrom r ip)

variable {c : Context} {r : Request} {ip : IpAddress}

/-- Without layers, what is inside is what comes. -/
theorem beyond_zero (c : Context) (r : Request) : beyond 0 c r = (c, r) := by
  rw [beyond]
  split <;> rfl

/-- If no address is claimed, the layers do nothing. -/
theorem beyond_of_none (h : claimedIp? r = none) (n : Nat) (c : Context) :
    beyond n c r = (c, r) := by
  rw [beyond, h]

/-- Inside of one layer, the address that the request arrived from is kept. -/
theorem beyond_one (h : claimedIp? r = some ip) (c : Context) :
    beyond 1 c r = (withOrigin c r, comingFrom r ip) := by
  rw [beyond, h]

/-- Inside of two layers or more, the claimed address is kept instead. -/
theorem beyond_more (h : claimedIp? r = some ip) (n : Nat) (c : Context) :
    beyond (n + 2) c r = (withOrigin c (comingFrom r ip), comingFrom r ip) := by
  rw [beyond, h]

/-- The headers stay, so the same address is claimed again. -/
theorem claimedIp?_comingFrom (r : Request) (ip : IpAddress) :
    claimedIp? (comingFrom r ip) = claimedIp? r := rfl

/-- The port stays, so the request comes from the same address again. -/
theorem comingFrom_comingFrom (r : Request) (ip : IpAddress) :
    comingFrom (comingFrom r ip) ip = comingFrom r ip := rfl

/-- Of two addresses that are kept, the second one stays. -/
theorem withOrigin_withOrigin (c : Context) (r r' : Request) :
    withOrigin (withOrigin c r) r' = withOrigin c r' :=
  c.withValue_withValue ..

/-- One more layer outside of others. -/
theorem beyond_succ (n : Nat) (c : Context) (r : Request) :
    beyond (n + 1) c r = beyond n (beyond 1 c r).1 (beyond 1 c r).2 := by
  cases h : claimedIp? r with
  | none => rw [beyond_of_none h, beyond_of_none h, beyond_of_none h]
  | some ip =>
    have hagain := (claimedIp?_comingFrom r ip).trans h
    rw [beyond_one h]
    -- One layer more makes a difference to none and to one, and none to two or more.
    match n with
    | 0 => rw [beyond_zero, beyond_one h]
    | 1 => rw [beyond_more h, beyond_one hagain, withOrigin_withOrigin, comingFrom_comingFrom]
    | n + 2 =>
      rw [beyond_more h, beyond_more hagain, withOrigin_withOrigin, comingFrom_comingFrom]

/-- Layers inside of others count together with them. -/
theorem beyond_add (m n : Nat) (c : Context) (r : Request) :
    beyond (m + n) c r = beyond n (beyond m c r).1 (beyond m c r).2 := by
  -- The outer layers are taken off one by one, from the outside.
  induction m generalizing c r with
  | zero => rw [Nat.zero_add, beyond_zero]
  | succ m ih => rw [Nat.succ_add, beyond_succ, ih, ← beyond_succ m c r]

/-- What is kept of two requests is the same if they arrived from the same address. -/
theorem withOrigin_inj {r' : Request} :
    withOrigin c r = withOrigin c r' ↔ arrivalText r = arrivalText r' := by
  constructor
  · intro h
    have hvalue := congrArg (fun c : Context => c.value? originalAddressKey) h
    simpa [withOrigin, Context.value?_withValue] using hvalue
  · intro h
    rw [withOrigin, h, withOrigin]

/-- What is inside of several layers is what is inside of one exactly if the claimed address is the
one that the request arrived from. -/
theorem beyond_eq_iff (h : claimedIp? r = some ip) (n : Nat) (c : Context) :
    beyond (n + 2) c r = beyond 1 c r ↔ arrivalText (comingFrom r ip) = arrivalText r := by
  rw [beyond_more h, beyond_one h, Prod.mk.injEq, withOrigin_inj, and_iff_left rfl]

/-- The request inside does not depend on the context. -/
theorem beyond_snd (n : Nat) (c c' : Context) (r : Request) :
    (beyond n c' r).2 = (beyond n c r).2 := by
  rw [beyond, beyond]
  cases claimedIp? r with
  | none => rfl
  | some ip =>
    dsimp only
    split <;> rfl

/-- What the layers put into the environment does not depend on the parameters. -/
theorem beyond_of_env {c' : Context} (h : c'.env = c.env) (n : Nat) (r : Request) :
    (beyond n c' r).1 = { c' with env := (beyond n c r).1.env } := by
  obtain ⟨params, env⟩ := c'
  obtain rfl : env = c.env := h
  rw [beyond, beyond]
  cases claimedIp? r with
  | none => rfl
  | some ip =>
    -- An entry of the environment is all that a layer writes.
    dsimp only
    split <;> rfl

/-- If nothing else in between changes the environment, then the layers of two muxes count
together. -/
theorem beyond_across {m : Nat} {bound : Context} (henv : bound.env = (beyond m c r).1.env)
    (n : Nat) :
    (beyond n bound (beyond m c r).2).1 = { bound with env := (beyond (m + n) c r).1.env } := by
  rw [beyond_add, beyond_of_env henv]

/-! ### Around what is inside -/

section

variable {M : Type → Type} [Monad M] [LawfulMonad M]

/-- One layer hands on what comes through it, and does nothing to what comes back. -/
theorem thread_realIp (answer : (q : Question A) → M q.Answer) (inside : Server M) (c : Context)
    (r : Request) :
    (realIp.layer : Layer A).thread answer inside c r
      = inside (beyond 1 c r).1 (beyond 1 c r).2 := by
  rw [realIp, Layer.thread]
  dsimp only
  cases h : claimedIp? r with
  | none =>
    rw [beyond_of_none h]
    exact bind_pure _
  | some ip =>
    rw [beyond_one h]
    exact bind_pure _

/-- What is inside of the layers gets the context and the request that come through them. -/
theorem threadAll_realIp (answer : (q : Question A) → M q.Answer) (inside : Server M)
    (layers : List (Middleware A)) (n : Nat) (c : Context) (r : Request) :
    threadAll answer inside (List.replicate n realIp ++ layers) c r
      = threadAll answer inside layers (beyond n c r).1 (beyond n c r).2 := by
  -- The layers are gone through from the outside, so the context and the request change on the way.
  induction n generalizing c r with
  | zero => rw [beyond_zero]; rfl
  | succ n ih =>
    rw [List.replicate_succ, List.cons_append]
    show (realIp.layer : Layer A).thread answer
      (threadAll answer inside (List.replicate n realIp ++ layers)) c r = _
    rw [thread_realIp, ih, ← beyond_succ]

end

end Layers

namespace Site

open Layers

variable {app : (q : A.Ask) → Change A S (A.Answer q)} {s : Site A S} {c bound : Context}
  {r : Request}

/-- A mux with the layers outside all others serves as its other layers do, with what comes through
the layers. -/
theorem serve_beyond (hs : s.Sane []) {id : MuxId} {n : Nat} {layers : List (Middleware A)}
    (hlayers : (s.mux id).stack.layers = List.replicate n realIp ++ layers) (depth : Nat)
    (c : Context) (r : Request) :
    let answer := Site.answer app (Site.serve app depth)
    ((Site.serve app (depth + 1) id c r).run s).1
      = ((threadAll answer (Site.route answer id) layers (beyond n c r).1 (beyond n c r).2).run
          ((Site.alloc id).run s).2).1 := by
  intro answer
  rw [(serve_threaded hs app depth id c r).1, hlayers, threadAll_realIp]

/-- Mux `root` has `m` of the layers and no other ones. It hands the request to mux `inner`, which
is mounted on it and has `n` of them outside all others. -/
structure Stacked (s : Site A S) (root inner : MuxId) (m n : Nat) (layers : List (Middleware A))
    (c : Context) (r : Request) (bound : Context) : Prop where
  outside : (s.mux root).stack.layers = List.replicate m realIp
  inside : (s.mux inner).stack.layers = List.replicate n realIp ++ layers
  dispatch : ∃ x, (s.mux root).router.dispatch s.view (beyond m c r).1 (beyond m c r).2
      = .route x bound
    ∧ x.endpoint = .mounted inner

/-- The other layers of mux `inner` get what comes through both lots of these layers. The site on
which they run differs in nothing but what is kept for reuse. -/
theorem Stacked.serve_eq {root inner : MuxId} {m n : Nat} {layers : List (Middleware A)}
    (h : s.Stacked root inner m n layers c r bound) (hs : s.Sane []) (depth : Nat) :
    let answer := Site.answer app (Site.serve app depth)
    let seen := beyond n bound (beyond m c r).2
    ∃ t : Site A S, t.outline = s.outline
      ∧ ((Site.serve app (depth + 2) root c r).run s).1
        = ((threadAll answer (Site.route answer inner) layers seen.1 seen.2).run t).1 := by
  intro answer seen
  obtain ⟨x, hdispatch, hendpoint⟩ := h.dispatch
  -- Mux `root` takes a chain and prepares its table before mux `inner` serves.
  let taken := ((Site.alloc root).run s).2
  let ready := ((Site.prepare root).run taken).2
  have htaken : taken.Sane [] := hs.taken root
  have houtline : ready.outline = s.outline :=
    (outline_prepare taken root).trans (outline_alloc s root)
  have hinner : (ready.mux inner).stack.layers = List.replicate n realIp ++ layers :=
    (layers_eq_of_outline houtline inner).trans h.inside
  have houtside : (s.mux root).stack.layers = List.replicate m realIp ++ [] :=
    h.outside.trans (List.append_nil _).symm
  refine ⟨((Site.alloc inner).run ready).2, (outline_alloc ready inner).trans houtline, ?_⟩
  rw [serve_beyond hs houtside (depth + 1)]
  show ((Site.route _ root (beyond m c r).1 (beyond m c r).2).run taken).1 = _
  rw [route_run_of_outline hs htaken (outline_alloc s root), hdispatch, Dispatch.script, hendpoint]
  exact serve_beyond (htaken.prepare root) hinner depth bound _

/-- After every history, take a mux with a number of these layers outside all others, or a mux whose
layers these are and one that is mounted on it and has more of them. All that is inside gets the
request with the claimed address and the port of the connection, if an address is claimed, however
many layers there are. For the context the number counts. One layer keeps the address that the
request arrived from, two or more the claimed one, so there is no difference exactly if these are
one, or none is claimed. -/
theorem realIp_layers (happ : ∀ q, Keeps (app q)) (capacities : List Nat) (idBase elapsed : String)
    (view : A.View) (state : S) (history : List (Action A)) (depth : Nat) (c : Context)
    (r : Request) :
    let site := ((World.start capacities idBase elapsed view state).run app history).site
    let answer := Site.answer app (Site.serve app depth)
    (∀ id n layers, (site.mux id).stack.layers = List.replicate n realIp ++ layers →
        ((Site.serve app (depth + 1) id c r).run site).1
          = ((threadAll answer (Site.route answer id) layers (beyond n c r).1 (beyond n c r).2).run
              ((Site.alloc id).run site).2).1)
      ∧ (∀ root inner m n layers bound, site.Stacked root inner m n layers c r bound →
        let seen := beyond n bound (beyond m c r).2
        (∃ t : Site A S, t.outline = site.outline
          ∧ ((Site.serve app (depth + 2) root c r).run site).1
            = ((threadAll answer (Site.route answer inner) layers seen.1 seen.2).run t).1)
          ∧ seen.2 = (beyond (m + n) c r).2
          ∧ (bound.env = (beyond m c r).1.env →
              seen.1 = { bound with env := (beyond (m + n) c r).1.env }))
      ∧ (claimedIp? r = none → ∀ n, beyond n c r = (c, r))
      ∧ ∀ ip, claimedIp? r = some ip →
          let claimed := comingFrom r ip
          beyond 1 c r = (c.withValue "originalRemoteAddr" (.string (arrivalText r)), claimed)
            ∧ ∀ n, beyond (n + 2) c r
                = (c.withValue "originalRemoteAddr" (.string (arrivalText claimed)), claimed)
              ∧ (beyond (n + 2) c r = beyond 1 c r ↔ arrivalText claimed = arrivalText r) := by
  intro site answer
  have hsane : site.Sane [] := sane_run happ capacities idBase elapsed view state history
  refine ⟨fun id n layers hlayers => serve_beyond hsane hlayers depth c r,
    fun root inner m n layers bound h => ⟨h.serve_eq hsane depth, ?_, fun henv => ?_⟩,
    fun hnone n => beyond_of_none hnone n c,
    fun ip hip => ⟨beyond_one hip c, fun n => ⟨beyond_more hip n c, ?_⟩⟩⟩
  · rw [beyond_add, beyond_snd]
  · exact beyond_across henv n
  · exact beyond_eq_iff hip n c

/-- A request from another address than the one that its headers claim. -/
def proxied : Request :=
  ⟨.get, "/", .http11, Dict.ofList [("X-Real-IP", "1.2.3.4")], [],
    some ⟨.v4 ⟨10, 0, 0, 1⟩, 4000, 0⟩⟩

/-- Mux 1 is mounted on mux 0, and each of them has one of the layers. A third mux serves a request
of its own, and while it does, the application gives mux 1 another layer. -/
def nested : List (Action asking) :=
  [.setup 0 (.use realIp), .setup 0 (.handle (.text "/") (MethodSet.of .get) (.mounted 1)),
    .setup 1 (.use realIp), .setup 2 (.notFound askingHandler),
    .traffic (.serve 1 2 Context.empty ⟨.get, "/", .http11, Dict.empty, [], none⟩)]

/-- The site behind this history. -/
def nestedSite : Site asking Unit :=
  ((World.start [1, 1, 1] "" "" () ()).run reconfigure nested).site

/-- The route of mux 0. -/
def nestedRoute : Route asking :=
  ⟨.placeholder ⟨"/", [], "/", false⟩, MethodSet.of .get, .mounted 1⟩

/-- The context inside of one layer. -/
def proxiedContext : Context := ⟨Dict.empty, ⟨[("originalRemoteAddr", .string "10.0.0.1:4000")]⟩⟩

/-- Inside of both layers the request is as inside of one, but the address of the connection is no
longer kept. -/
theorem realIp_layers_nested :
    (∀ q, Keeps (reconfigure q))
      ∧ nestedSite.Stacked 0 1 1 1 [noop] Context.empty proxied proxiedContext
      ∧ claimedIp? proxied = some (.v4 ⟨1, 2, 3, 4⟩)
      ∧ let seen := beyond 1 proxiedContext (beyond 1 Context.empty proxied).2
        seen.2 = comingFrom proxied (.v4 ⟨1, 2, 3, 4⟩)
          ∧ seen.1.text? "originalRemoteAddr" = some "1.2.3.4:4000" := by
  have hip : claimedIp? proxied = some (.v4 ⟨1, 2, 3, 4⟩) := by decide +kernel
  -- What comes through the layer of mux 0 is worked out once, and dispatch gets it in this form.
  have hone : beyond 1 Context.empty proxied
      = (proxiedContext, comingFrom proxied (.v4 ⟨1, 2, 3, 4⟩)) := by with_unfolding_all rfl
  have hstacked : nestedSite.Stacked 0 1 1 1 [noop] Context.empty proxied proxiedContext := by
    refine ⟨by with_unfolding_all rfl, by with_unfolding_all rfl, nestedRoute, ?_, rfl⟩
    rw [hone]
    with_unfolding_all rfl
  obtain ⟨-, hnested, -, hclaimed⟩ :=
    realIp_layers keeps_reconfigure [1, 1, 1] "" "" () () nested 0 Context.empty proxied
  obtain ⟨-, hrequest, hcontext⟩ := hnested 0 1 1 1 [noop] proxiedContext hstacked
  have htwo := ((hclaimed _ hip).2 0).1
  refine ⟨keeps_reconfigure, hstacked, hip, ?_, ?_⟩
  · rw [hrequest, htwo]
  · rw [hcontext (by rw [hone]), htwo]
    decide +kernel

/-- With one layer, the address of the connection is kept. With two layers it is not, and the
claimed address is kept in its place. -/
theorem origin_lost :
    let kept := fun s : Stack Chain.silent =>
      let served := s.serve Chain.silentAnswer everyPage Context.empty proxied
      served.context.text? "originalRemoteAddr"
    kept ((Stack.new 0 1).enclosed realIp) = some "10.0.0.1:4000"
      ∧ kept (((Stack.new 0 1).enclosed realIp).enclosed realIp) = some "1.2.3.4:4000" := by
  decide +kernel

end Site

end HttpMux
