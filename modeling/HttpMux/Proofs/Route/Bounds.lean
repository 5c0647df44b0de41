import HttpMux.Proofs.Route.Entries
import HttpMux.Proofs.Route.Program
import Mathlib.Data.List.Pairwise
import Mathlib.Logic.Relation

/-!
# `HttpMux.Proofs.Route.Bounds`: a compiled table runs to its end within its bounds

The engine follows jumps that depend on the path, and sets its cursor to fixed offsets. For every
list of texts and every path it comes to an end, and on the way nothing is out of bounds.

A state is in bounds if its cursor is on the path, and, in front of a route, stands right behind the
text of that route. The proof follows the tree like the one about what a program finds: a node is
safe where its instructions begin if it is safe behind them.

* `Program.State.InBounds` and `Program.Safe`: what is kept by every step, and the places from which
  all states are in bounds.
* `Program.safe_emit`: the instructions of a node, wherever they stand.
* `Program.inBounds_ofTexts`: every state of a run is in bounds.
* `Program.filterMap_route?_ofTexts`: the routes in a program, in order.
* `Program.step_steps_of_forward`: jumps go forward, so a run ends.
* `Machine.runs_in_bounds`: all this together, for the table of a list of routes.
-/

set_option autoImplicit false

namespace HttpMux

open Relation

/-- The number of the route that an instruction tries. -/
def Instruction.route? : Instruction → Option Nat
  | .route i => some i
  | .literal _ _ => none
  | .setCursor _ => none

/-- Making jumps fail leaves the routes that instructions try. -/
theorem Instruction.route?_bounded (size : Nat) (i : Instruction) :
    (i.bounded size).route? = i.route? := by
  match i with
  | .route _ => rfl
  | .setCursor _ => rfl
  | .literal _ .fail => rfl
  | .literal _ (.index _) => rfl

/-- Only the instruction for a route tries it. -/
theorem Instruction.route?_eq_some {i : Instruction} {n : Nat} (h : i.route? = some n) :
    i = .route n := by
  cases i <;> cases h
  rfl

namespace Program

variable {path : Bytes} {method : Method} {test : Nat → Option MethodSet} {p : Program}
  {texts : List Bytes}

/-- One step leads from a state to the next one. -/
def Leads (path : Bytes) (method : Method) (test : Nat → Option MethodSet) (p : Program)
    (s s' : State) : Prop :=
  step path method test p s = some s'

/-! ### States in bounds -/

/-- The cursor is on the path. In front of a route, the route is one of the table, the path begins
with its text, and the cursor is right behind the text. -/
structure State.InBounds (texts : List Bytes) (path : Bytes) (p : Program) (s : State) : Prop where
  cursor_le : s.cursor ≤ path.length
  route : ∀ i, p[s.next]? = some (.route i) →
    ∃ text, texts[i]? = some text ∧ text <+: path ∧ s.cursor = text.length

/-- From this place, with this cursor, all states of a run are in bounds. -/
def Safe (texts : List Bytes) (path : Bytes) (method : Method) (test : Nat → Option MethodSet)
    (p : Program) (n c : Nat) : Prop :=
  ∀ search s, ReflTransGen (Leads path method test p) ⟨n, c, search⟩ s → s.InBounds texts path p

namespace Safe

variable {n c : Nat}

/-- A place is safe if it is in bounds, and every step from it leads to a safe one. -/
theorem of_step (hhere : ∀ search, State.InBounds texts path p ⟨n, c, search⟩)
    (hnext : ∀ search s', search.found = none →
      step path method test p ⟨n, c, search⟩ = some s' →
        Safe texts path method test p s'.next s'.cursor) :
    Safe texts path method test p n c := by
  intro search s hreach
  -- A reachable state is the present one, or lies behind a first step.
  rcases hreach.cases_head with rfl | ⟨s', hstep, hrest⟩
  · exact hhere search
  · cases hfound : search.found with
    | some i =>
      rw [Leads, step_of_found (by simp [hfound])] at hstep
      cases hstep
    | none => exact hnext search s' hfound hstep s'.search s hrest

/-- Where there is no route, a cursor on the path is in bounds. -/
theorem inBounds_of_no_route (hc : c ≤ path.length) (hp : ∀ i, p[n]? ≠ some (.route i))
    (search : Search) : State.InBounds texts path p ⟨n, c, search⟩ :=
  ⟨hc, fun i hi => absurd hi (hp i)⟩

/-- A place behind the program is safe, as there is no step from it. -/
theorem halt (hp : p[n]? = none) (hc : c ≤ path.length) : Safe texts path method test p n c := by
  refine of_step (inBounds_of_no_route hc (by simp [hp])) fun search s' hfound hstep => ?_
  rw [step_of_not_found hfound] at hstep
  simp [hp] at hstep

/-- A reset is safe if what follows it is, from the offset that it sets. -/
theorem setCursor {offset : Nat} (hp : p[n]? = some (.setCursor offset)) (hc : c ≤ path.length)
    (hr : Safe texts path method test p (n + 1) offset) : Safe texts path method test p n c := by
  refine of_step (inBounds_of_no_route hc (by simp [hp])) fun search s' hfound hstep => ?_
  rw [step_of_not_found hfound] at hstep
  simp only [hp, Option.some.injEq] at hstep
  exact hstep ▸ hr

/-- A route is safe right behind its text, if what follows it is. -/
theorem route {i : Nat} {text : Bytes} (hp : p[n]? = some (.route i)) (hi : texts[i]? = some text)
    (htext : text <+: path) (hr : Safe texts path method test p (n + 1) text.length) :
    Safe texts path method test p n text.length := by
  refine of_step (fun search => ⟨htext.length_le, fun j hj => ?_⟩) fun search s' hfound hstep => ?_
  · rw [hp] at hj
    cases hj
    exact ⟨text, hi, htext, rfl⟩
  · rw [step_of_not_found hfound] at hstep
    simp only [hp, Option.some.injEq] at hstep
    exact hstep ▸ hr

variable (path method test p texts) in
/-- Safety goes back over comparisons, for cursors on the path. -/
theorem goesBack :
    GoesBack path p fun n c => c ≤ path.length → Safe texts path method test p n c := by
  intro n c bytes i hp hyes hno hc
  refine of_step (inBounds_of_no_route hc (by simp [hp])) fun search s' hfound hstep => ?_
  rw [step_of_not_found hfound] at hstep
  simp only [hp] at hstep
  -- If the bytes follow, the path is long enough for them, so the cursor is still on it.
  split at hstep
  · rename_i hmatch
    have hlength := (List.isPrefixOf_iff_prefix.mp hmatch).length_le
    rw [List.length_drop] at hlength
    cases hstep
    exact hyes hmatch (by omega)
  · rename_i hmatch
    cases hstep
    exact hno hmatch hc

/-- Behind a branch the cursor is reset, unless the branch ends its node. -/
theorem resets {depth : Nat} {last : Bool} (hdepth : depth ≤ path.length)
    (hp : PieceAt p n (if last then [] else [.setCursor depth]))
    (hr : ∀ c, c ≤ path.length → (last = false → c = depth) →
      Safe texts path method test p
        (n + (if last then [] else [Instruction.setCursor depth]).length) c)
    (hc : c ≤ path.length) : Safe texts path method test p n c := by
  cases last with
  | true => exact hr c hc fun h => nomatch h
  | false => exact setCursor hp.first hc (hr depth hdepth fun _ => rfl)

end Safe

/-! ### The instructions of a node

The path begins with the text that is spelled on the way to the node, and the cursor stands behind
it. `last` says whether an item ends its node. If it does not, the cursor is back where it was. -/

mutual

/-- The instructions of an item are safe if what comes behind them is. -/
theorem safe_emitItem (n : Nat) (text : Bytes) (last : Bool) (x : TrieItem) (htext : text <+: path)
    (hentries : ∀ e ∈ Trie.entriesItem text x, texts[e.2]? = some e.1)
    (hp : PieceAt p n (emitItem n text.length last x))
    (hr : ∀ c, c ≤ path.length → (last = false → c = text.length) →
      Safe texts path method test p (n + (emitItem n text.length last x).length) c) :
    Safe texts path method test p n text.length := by
  match x with
  | .route i =>
    rw [emitItem] at hp hr
    have hi := hentries (text, i) (by simp)
    exact .route hp.first hi htext (hr text.length htext.length_le fun _ => rfl)
  | .branch label below =>
    rw [emitItem] at hp hr
    rw [Trie.entriesItem_branch] at hentries
    have ih := safe_emit (n + (chunks label).length) (text ++ label) below
    simp only [List.length_append, length_comparisons] at hp hr ih
    generalize emit (n + (chunks label).length) (text.length + label.length) below = inner
      at hp hr ih
    have hcode := hp.front.front
    have hinner := hp.front.back
    have hresets := hp.back
    simp only [List.length_append, length_comparisons, ← Nat.add_assoc] at hinner hresets hr
    have hreset : ∀ c, c ≤ path.length →
        Safe texts path method test p (n + (chunks label).length + inner.length) c :=
      fun c hc => .resets htext.length_le hresets hr hc
    refine (Safe.goesBack path method test p texts).comparisons hcode (fun h _ => ?_)
      (fun _ => hreset) (fun _ hc => hr text.length hc fun _ => rfl) htext.length_le
    -- The path goes on with the label, so it begins with what is spelled below it.
    have hlonger : text ++ label <+: path := by
      obtain ⟨rest, rfl⟩ := htext
      rw [List.drop_left, List.isPrefixOf_iff_prefix] at h
      exact (List.prefix_append_right_inj text).mpr h
    exact ih hlonger hentries hinner hreset

/-- The instructions of a node are safe if what comes behind them is. -/
theorem safe_emit (n : Nat) (text : Bytes) (t : Trie) (htext : text <+: path)
    (hentries : ∀ e ∈ Trie.entries text t, texts[e.2]? = some e.1)
    (hp : PieceAt p n (emit n text.length t))
    (hr : ∀ c, c ≤ path.length →
      Safe texts path method test p (n + (emit n text.length t).length) c) :
    Safe texts path method test p n text.length := by
  match t with
  | [] =>
    rw [emit] at hr
    exact hr text.length htext.length_le
  | x :: t =>
    rw [emit] at hp hr
    rw [Trie.entries_cons] at hentries
    simp only [List.length_append, ← Nat.add_assoc] at hr
    refine safe_emitItem n text t.isEmpty x htext
      (fun e he => hentries e (List.mem_append_left _ he)) hp.front fun c hc hback => ?_
    -- Behind the last item of a node the cursor may stand anywhere on the path.
    cases t with
    | nil => exact hr c hc
    | cons y t =>
      -- The item has left the cursor where the next one expects it.
      rw [hback rfl]
      exact safe_emit _ text (y :: t) htext (fun e he => hentries e (List.mem_append_right _ he))
        hp.back hr

end

/-! ### Runs -/

variable (path method test) in
/-- A step without the resets at the end is a step with them. -/
theorem leads_of_leads_trimmed {is : List Instruction} {s s' : State}
    (h : Leads path method test (trimmed is) s s') : Leads path method test is s s' := by
  rw [Leads] at h
  rcases step_trimmed path method test is s with heq | ⟨hnone, -⟩
  · exact heq.symm.trans h
  · rw [hnone] at h
    cases h

/-- The resets at the end of a program are no routes. -/
theorem route_of_trimmed {is : List Instruction} {k i : Nat}
    (h : (trimmed is)[k]? = some (.route i)) : is[k]? = some (.route i) := by
  have hk : k < (kept is).length := by
    have hlt := (List.getElem?_eq_some_iff.mp h).1
    rwa [trimmed_eq, List.length_map] at hlt
  rw [getElem?_trimmed_of_lt hk, Option.map_eq_some_iff] at h
  obtain ⟨j, hj, hbounded⟩ := h
  have hroute : j.route? = some i := by rw [← j.route?_bounded, hbounded]; rfl
  rw [hj, Instruction.route?_eq_some hroute]

variable (path method test texts) in
/-- All states of a run of a compiled list of texts are in bounds. -/
theorem inBounds_ofTexts {s : State}
    (h : ReflTransGen (Leads path method test (ofTexts texts)) .initial s) :
    s.InBounds texts path (ofTexts texts) := by
  let t := Trie.ofTexts texts
  have hentries : ∀ e ∈ Trie.entries [] t, texts[e.2]? = some e.1 := fun e he => by
    rw [Trie.entries_ofTexts] at he
    exact List.mem_zipIdx_iff_getElem?.mp he
  have hpiece : PieceAt (emit 0 0 t) 0 (emit 0 0 t) := List.prefix_refl _
  -- At the root nothing is spelled yet, and the program ends behind its last instruction.
  have hsafe : Safe texts path method test (emit 0 0 t) 0 0 :=
    safe_emit 0 [] t List.nil_prefix hentries hpiece fun c hc => .halt (by simp) hc
  have hreach : ReflTransGen (Leads path method test (emit 0 0 t)) .initial s :=
    ReflTransGen.mono (fun _ _ hstep => leads_of_leads_trimmed path method test hstep) _ _ h
  have hin := hsafe Search.empty s hreach
  exact ⟨hin.cursor_le, fun i hi => hin.route i (route_of_trimmed hi)⟩

/-! ### The routes of a program -/

/-- Comparisons try no routes. -/
theorem filterMap_route?_comparisons (after reset : Nat) (label : Bytes) :
    (comparisons after reset label).filterMap Instruction.route? = [] := by
  rw [comparisons]
  cases chunks label with
  | nil => rfl
  | cons first later => simp [Instruction.route?]

mutual

/-- The instructions of an item try the routes that a walk over it meets. -/
theorem filterMap_route?_emitItem (n depth : Nat) (last : Bool) (x : TrieItem) :
    (emitItem n depth last x).filterMap Instruction.route? = Trie.walkItem x := by
  match x with
  | .route i => rw [emitItem, Trie.walkItem]; rfl
  | .branch label below =>
    rw [emitItem, Trie.walkItem]
    simp only [List.filterMap_append, filterMap_route?_comparisons, filterMap_route?_emit,
      List.nil_append]
    cases last <;> simp [Instruction.route?]

/-- The instructions of a node try the routes that a walk meets. -/
theorem filterMap_route?_emit (n depth : Nat) (t : Trie) :
    (emit n depth t).filterMap Instruction.route? = Trie.walk t := by
  match t with
  | [] => rw [emit, Trie.walk]; rfl
  | x :: t =>
    rw [emit, Trie.walk, List.filterMap_append, filterMap_route?_emitItem, filterMap_route?_emit]

end

/-- A trimmed program tries the routes that it tried before. -/
theorem filterMap_route?_trimmed (is : List Instruction) :
    (trimmed is).filterMap Instruction.route? = is.filterMap Instruction.route? := by
  -- What is taken off the end are resets, which try nothing.
  have hresets : (is.rtakeWhile Instruction.isReset).filterMap Instruction.route? = [] := by
    rw [List.filterMap_eq_nil_iff]
    intro i hi
    have hreset := List.mem_rtakeWhile_imp hi
    cases i <;> first | rfl | cases hreset
  rw [trimmed_eq, List.filterMap_map]
  conv => rhs; rw [← kept_append_resets is, List.filterMap_append, hresets, List.append_nil]
  exact congrArg (List.filterMap · _) (funext (Instruction.route?_bounded _))

/-- The program of a list of texts tries every route once, in their order. -/
theorem filterMap_route?_ofTexts (texts : List Bytes) :
    (ofTexts texts).filterMap Instruction.route? = List.range texts.length := by
  rw [ofTexts, ofTrie, filterMap_route?_trimmed, filterMap_route?_emit, Trie.walk_ofTexts]

/-- A program has no instructions only if there are no texts. -/
theorem ofTexts_eq_nil_iff {texts : List Bytes} : ofTexts texts = [] ↔ texts = [] := by
  constructor
  · intro h
    have hroutes := filterMap_route?_ofTexts texts
    rw [h, List.filterMap_nil] at hroutes
    exact List.length_eq_zero_iff.mp (List.range_eq_nil.mp hroutes.symm)
  · rintro rfl
    rfl

/-- Jumps of a program stay inside it. -/
theorem lt_length_of_trimmed {is : List Instruction} {k i : Nat} {bytes : Bytes}
    (h : (trimmed is)[k]? = some (.literal bytes (.index i))) : i < (trimmed is).length := by
  rw [trimmed_eq, List.getElem?_map, Option.map_eq_some_iff] at h
  obtain ⟨j, -, hbounded⟩ := h
  rw [trimmed_eq, List.length_map]
  match j, hbounded with
  | .literal _ (.index j), hbounded =>
    rw [Instruction.bounded] at hbounded
    split at hbounded
    · cases hbounded
    · cases hbounded
      omega

/-- The jumps of a compiled list of texts go forward. -/
theorem forward_ofTexts (texts : List Bytes) : Forward 0 (ofTexts texts) :=
  forward_trimmed (forward_emit 0 0 _)

/-! ### The end of a run -/

/-- If jumps go forward, no instruction is executed twice. -/
theorem next_lt_of_reaches (hp : Forward 0 p) {s s' : State}
    (h : TransGen (Leads path method test p) s s') : s.next < s'.next := by
  induction h with
  | single h => exact (lt_of_step hp h).1
  | tail _ h ih => exact ih.trans (lt_of_step hp h).1

variable (path method test p) in
/-- Steps taken one after the other lead to the state behind them. -/
theorem reaches_steps (fuel : Nat) (s : State) :
    ReflTransGen (Leads path method test p) s (steps path method test p fuel s) := by
  induction fuel generalizing s with
  | zero => exact .refl
  | succ fuel ih =>
    rw [steps]
    split
    · exact .refl
    · rename_i s' hstep
      exact .head hstep (ih s')

/-- After as many steps as there are instructions ahead, no step is left. -/
theorem step_steps_of_forward (hp : Forward 0 p) {fuel : Nat} {s : State}
    (hfuel : p.length ≤ fuel + s.next) :
    step path method test p (steps path method test p fuel s) = none := by
  -- Each step passes at least one instruction, so the fuel and what is ahead shrink together.
  induction fuel generalizing s with
  | zero =>
    cases hstep : step path method test p s with
    | none => exact hstep
    | some s' =>
      obtain ⟨-, hlt⟩ := lt_of_step hp hstep
      omega
  | succ fuel ih =>
    rw [steps]
    split
    · assumption
    · rename_i s' hstep
      obtain ⟨hnext, -⟩ := lt_of_step hp hstep
      exact ih (by omega)

/-- More steps than are left change nothing. -/
theorem steps_succ_of_step_eq_none {fuel : Nat} {s : State}
    (h : step path method test p (steps path method test p fuel s) = none) :
    steps path method test p (fuel + 1) s = steps path method test p fuel s := by
  induction fuel generalizing s with
  | zero =>
    rw [steps] at h
    simp only [steps, h]
  | succ fuel ih =>
    rw [steps] at h ⊢
    conv => rhs; rw [steps]
    cases hstep : step path method test p s with
    | none => rfl
    | some s' =>
      rw [hstep] at h
      exact ih h

/-- A walk tries no route twice, and none before an earlier one. -/
theorem pairwise_tried_scan (path : Bytes) (method : Method) (test : Nat → Option MethodSet)
    (texts : List Bytes) : (scan path method test texts).tried.Pairwise (· < ·) := by
  have hconsidered : (considered path texts).Sublist (List.range texts.length) := by
    rw [List.range_eq_range', ← List.zipIdx_map_snd]
    exact List.filter_sublist.map Prod.snd
  rw [scan, scanFrom_tried rfl]
  exact List.pairwise_lt_range.sublist ((upToFirst_sublist _ _).trans hconsidered)

end Program

variable {A : App}

/-- For every list of routes and every path: Jumps of the compiled table go forward and stay inside
it. It has no instructions if and only if there are no routes, and it tries every route once, in
their order. In every state of a run the cursor is on the path. In front of a route, the route is
one of the table, the path begins with its text, and the cursor stands right behind the text. Every
step leads to a later instruction, so none is executed twice, and no more steps than there are
instructions lead to the end. No route is tried twice. -/
theorem Machine.runs_in_bounds (routes : List (Route A)) (path : Bytes) (method : Method)
    (test : Nat → Option MethodSet) :
    let m := ofRoutes routes
    let Leads := Program.Leads path method test m.program
    let last := Program.steps path method test m.program m.program.length .initial
    (∀ k bytes i, m.program[k]? = some (.literal bytes (.index i)) → k < i ∧ i < m.program.length)
      ∧ (m.program = [] ↔ routes = [])
      ∧ m.program.filterMap Instruction.route? = List.range routes.length
      ∧ (∀ s, ReflTransGen Leads .initial s →
          s.cursor ≤ path.length
            ∧ (∀ i, m.program[s.next]? = some (.route i) →
                ∃ x, m.routes[i]? = some x ∧ x.start <+: path ∧ s.cursor = x.start.length)
            ∧ ∀ s', TransGen Leads s s' → s.next < s'.next)
      ∧ ReflTransGen Leads .initial last
      ∧ Program.step path method test m.program last = none
      ∧ m.program.run path method test = last.search
      ∧ (m.program.run path method test).tried.Pairwise (· < ·) := by
  intro m Leads last
  let texts := routes.map Route.start
  have hforward : Program.Forward 0 m.program := Program.forward_ofTexts texts
  have hlast : Program.step path method test m.program last = none :=
    Program.step_steps_of_forward hforward (Nat.le_refl _)
  have hrun : m.program.run path method test = last.search := by
    rw [Program.run, Program.steps_succ_of_step_eq_none hlast]
  -- The program is that of the texts of the routes; what is known about the texts is read for the
  -- routes.
  refine ⟨fun k bytes i h => ?_, ?_, ?_, fun s hs => ?_, Program.reaches_steps .., hlast, hrun, ?_⟩
  · have hlt := hforward k bytes i h
    exact ⟨by omega, Program.lt_length_of_trimmed h⟩
  · exact Program.ofTexts_eq_nil_iff.trans List.map_eq_nil_iff
  · show (Program.ofTexts texts).filterMap Instruction.route? = _
    rw [Program.filterMap_route?_ofTexts, List.length_map]
  · have hin := Program.inBounds_ofTexts path method test texts hs
    refine ⟨hin.cursor_le, fun i hi => ?_, fun s' hs' => Program.next_lt_of_reaches hforward hs'⟩
    obtain ⟨text, htext, hprefix, hcursor⟩ := hin.route i hi
    rw [List.getElem?_map, Option.map_eq_some_iff] at htext
    obtain ⟨x, hx, rfl⟩ := htext
    exact ⟨x, hx, hprefix, hcursor⟩
  · show ((Program.ofTexts texts).run path method test).tried.Pairwise (· < ·)
    rw [Program.run_ofTexts]
    exact Program.pairwise_tried_scan path method test texts

end HttpMux
