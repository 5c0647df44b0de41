import HttpMux.Proofs.Site.Coherent

/-!
# `HttpMux.Proofs.Site.Exchange`: chains that are given to other muxes

A chain can be given to any mux, not only to the one from which it was taken. A mux drops chains of
other generations than its own, but it compares no more than the numbers of the generations, and
every mux counts for itself.

* `World.afterMove`: histories in which chains that are out are given to any mux.
* `World.TakenForOwn`: a mux has got the chain of another one while both counted the same number.
* `World.coherent_runMoves`: nothing else goes wrong.
* `World.alloc_own_or_takenForOwn`: the next chain that a mux gives out is its own, with its present
  layers, unless it was taken for its own.
* `World.answered_by_another`: a chain that was taken for its own answers with the routes of another
  mux.
-/

set_option autoImplicit false

namespace HttpMux.Site

variable {A : App} {S : Type}

/-- What can happen to muxes and their chains: an action as in every history, or a chain that is out
is given to a mux. -/
inductive Move (A : App)
  | act (a : Action A)
  | give (i : Nat) (id : MuxId)

namespace World

variable {app : (q : A.Ask) → Change A S (A.Answer q)} {w : World A S} {moves : List (Move A)}

/-- The world after one more move. Nothing happens to a place where no chain is out. -/
def afterMove (app : (q : A.Ask) → Change A S (A.Answer q)) (w : World A S) : Move A → World A S
  | .act a => w.after app a
  | .give i id =>
    match w.out[i]? with
    | some ch => ⟨((Site.release id ch).run w.site).2, w.out.eraseIdx i⟩
    | none => w

/-- The world that a list of moves leads to. -/
def runMoves (app : (q : A.Ask) → Change A S (A.Answer q)) (w : World A S) (moves : List (Move A)) :
    World A S :=
  moves.foldl (afterMove app) w

/-- The last move is made in the world that the others lead to. -/
theorem runMoves_concat (x : Move A) :
    w.runMoves app (moves ++ [x]) = (w.runMoves app moves).afterMove app x := by
  rw [runMoves, List.foldl_append]
  rfl

/-! ### Chains taken for own ones -/

/-- A chain of another mux was given to the mux when the number of its generation was that of the
present generation of the mux. -/
def TakenForOwn (app : (q : A.Ask) → Change A S (A.Answer q)) (w : World A S)
    (moves : List (Move A)) (id : MuxId) (ch : Chain A) : Prop :=
  ch.inner ≠ id ∧ ∃ before i after, moves = before ++ .give i id :: after
    ∧ (w.runMoves app before).out[i]? = some ch
    ∧ ch.generation = ((w.runMoves app before).site.mux id).stack.generation

/-- What has been taken for an own chain stays so. -/
theorem TakenForOwn.concat {id : MuxId} {ch : Chain A} (h : TakenForOwn app w moves id ch)
    (x : Move A) : TakenForOwn app w (moves ++ [x]) id ch := by
  obtain ⟨hne, before, i, after, rfl, hout, hgeneration⟩ := h
  exact ⟨hne, before, i, after ++ [x], by simp, hout, hgeneration⟩

/-- A site stays coherent as long as chains that were taken for own ones are set aside. -/
theorem coherent_runMoves (h : w.site.Coherent (fun _ _ => False) w.out)
    (happ : ∀ q, Keeps (app q)) (moves : List (Move A)) :
    (w.runMoves app moves).site.Coherent (TakenForOwn app w moves) (w.runMoves app moves).out := by
  -- What was taken for an own chain is told from all moves so far, so the induction takes the last
  -- off.
  induction moves using List.reverseRecOn with
  | nil => exact h.mono (fun _ _ hfalse => hfalse.elim) fun _ hch => hch
  | append_singleton moves x ih =>
    have hnow : (w.runMoves app moves).site.Coherent (TakenForOwn app w (moves ++ [x]))
        (w.runMoves app moves).out :=
      ih.mono (fun _ _ htaken => htaken.concat x) fun _ hch => hch
    rw [runMoves_concat]
    cases x with
    | act a => exact hnow.after happ a
    | give i id =>
      rw [afterMove]
      split
      · rename_i ch hi
        refine Coherent.release (hnow.mono (fun _ _ htaken => htaken) fun ch' hch' => ?_)
          fun hgeneration => ?_
        · rcases List.mem_cons.mp hch' with rfl | hch'
          · exact List.mem_of_getElem? hi
          · exact List.mem_of_mem_eraseIdx hch'
        · -- The mux cannot tell the chain from its own ones.
          by_cases hinner : ch.inner = id
          · exact .inl hinner
          · exact .inr ⟨hinner, moves, i, [], rfl, hi, hgeneration⟩
      · exact hnow

/-! ### What a mux gives out -/

/-- After every list of moves, the next chain that a mux gives out has the number of its present
generation. Either the chain surrounds the router of this mux with its present layers, and the next
request to the mux runs just these. Or it was taken for an own one: it is a chain of another mux,
and it was given to this one when both were at generations of the same number. -/
theorem alloc_own_or_takenForOwn (happ : ∀ q, Keeps (app q)) (capacities : List Nat)
    (idBase elapsed : String) (view : A.View) (state : S) (moves : List (Move A)) (id : MuxId) :
    let start := World.start capacities idBase elapsed view state
    let site := (start.runMoves app moves).site
    let stack := (site.mux id).stack
    let taken := (Site.alloc id).run site
    taken.1.generation = stack.generation
      ∧ ((taken.1.inner = id ∧ taken.1.Runs stack.layers
          ∧ ∀ depth c r,
              let answer := Site.answer app (Site.serve app depth)
              ((Site.serve app (depth + 1) id c r).run site).1
                = ((threadAll answer (Site.route answer id) stack.layers c r).run taken.2).1)
        ∨ start.TakenForOwn app moves id taken.1) := by
  intro start site stack taken
  have hstart := coherent_start (fun _ _ => False) capacities idBase elapsed view state
  have hidle : Idle (start.TakenForOwn app moves) site id taken.1 :=
    (coherent_runMoves hstart happ moves).idle_taken id
  refine ⟨hidle.generation, hidle.origin.imp_left fun hinner => ?_⟩
  have hlayers : taken.1.layers = stack.layers := hidle.layers hinner
  refine ⟨hinner, hlayers ▸ Chain.runs_of_slot_empty hidle.homed.slot, fun depth c r => ?_⟩
  -- A request takes the same chain.
  rw [hidle.serve_eq hinner]

/-- A chain of mux 0 is taken and serves a request, which brings mux 1 to another generation. The
chain is given to mux 1. -/
def late : List (Move asking) :=
  [.act (.setup 0 (.notFound askingHandler)), .act (.traffic (.alloc 0)),
    .act (.traffic (.serveOn 0 0 Context.empty failingRequest)), .give 0 1]

/-- The chain was of generation 0, and mux 1 is at generation 1 by then, so it gives out a chain of
its own. -/
theorem alloc_own_late :
    (∀ q, Keeps (reconfigure q))
      ∧ let site := ((start [1, 1] "" "" () ()).runMoves reconfigure late).site
        (site.mux 1).stack.generation = 1
          ∧ ((Site.alloc 1).run site).1.Runs (site.mux 1).stack.layers := by
  refine ⟨keeps_reconfigure, rfl, ?_⟩
  obtain ⟨-, ⟨-, hruns, -⟩ | htaken⟩ :=
    alloc_own_or_takenForOwn keeps_reconfigure [1, 1] "" "" () () late 1
  · exact hruns
  · exact absurd rfl htaken.1

/-- A mux with a route, and one without. -/
def routed : Move Chain.silent :=
  .act (.setup 0 (.handle (.text "/") (MethodSet.of .get) (.constant (Response.new .ok))))

/-- A chain of the one mux is taken and given to the other one. -/
def handedOver : List (Move Chain.silent) := [routed, .act (.traffic (.alloc 0)), .give 0 1]

/-- A request for the route of mux 0. -/
def rootRequest : Request := ⟨.get, "/", .http11, ⟨[]⟩, [], none⟩

/-- The next chain that mux 1 gives out is a chain of mux 0, and the next request to mux 1 is
answered by the route of mux 0. -/
theorem answered_by_another :
    let site := ((start [1, 1] "" "" () ()).runMoves noReply handedOver).site
    ((Site.alloc 1).run site).1.inner ≠ 1
      ∧ ((Site.serve noReply 1 1 Context.empty rootRequest).run site).1.outcome
          = .response (Response.new .ok) := by
  refine ⟨?_, by with_unfolding_all rfl⟩
  have hinner : ((Site.alloc 1).run
      ((start [1, 1] "" "" () ()).runMoves noReply handedOver).site).1.inner = 0 := by
    with_unfolding_all rfl
  exact hinner ▸ Nat.zero_ne_one

end World

end HttpMux.Site
