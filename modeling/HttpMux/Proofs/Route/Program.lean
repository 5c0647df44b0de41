import HttpMux.Proofs.Route.Scan
import HttpMux.Proofs.Route.Trie
import Mathlib.Data.List.DropRight

/-!
# `HttpMux.Proofs.Route.Program`: the compiled table does what the plain walk does

The instructions of a tree, wherever they stand in a program, try the routes that the tree offers
the path. The proof follows the tree. It is about runs that go on behind the instructions of a
node, so a node needs to know nothing about its surroundings.

* `Program.Ends`: a run of a program from a given state to its end.
* `Program.GoesBack.comparisons`: what goes back over one comparison does so over those of a label.
* `Program.ends_emit`: the instructions of a node find what the walk over its routes finds.
* `Program.ends_trimmed`: the resets at the end of a program can go.
* `Program.steps_of_ends`: jumps go forward, so there are no more steps than instructions.
* `Program.run_ofTexts`: the program of a list of texts finds what the plain walk finds.
-/

set_option autoImplicit false

namespace HttpMux

namespace Program

section

variable {path : Bytes} {method : Method} {test : Nat → Option MethodSet} {p : Program}

/-! ### Steps -/

/-- Once a route is found there is no further step. -/
theorem step_of_found {s : State} (h : s.search.found.isSome) :
    step path method test p s = none := by
  rw [step, if_pos h]

/-- As long as nothing is found, the instruction at the present place decides on the step. -/
theorem step_of_not_found {s : State} (h : s.search.found = none) :
    step path method test p s
      = match p[s.next]? with
        | none => none
        | some (.setCursor offset) => some { s with next := s.next + 1, cursor := offset }
        | some (.literal bytes onMismatch) =>
          if bytes.isPrefixOf (path.drop s.cursor) then
            some { s with next := s.next + 1, cursor := s.cursor + bytes.length }
          else
            match onMismatch with
            | .index i => some { s with next := i }
            | .fail => none
        | some (.route index) =>
          some { s with next := s.next + 1, search := s.search.attempt method test index } := by
  rw [step]
  exact if_neg (by simp [h])

/-- A run of a program from a state to its end, where the search is `r`. -/
inductive Ends (path : Bytes) (method : Method) (test : Nat → Option MethodSet) (p : Program) :
    State → Search → Prop
  | halt {s : State} (h : step path method test p s = none) : Ends path method test p s s.search
  | next {s s' : State} {r : Search} (h : step path method test p s = some s')
      (hr : Ends path method test p s' r) : Ends path method test p s r

namespace Ends

/-- A run that has found a route is over, wherever it stands. -/
theorem of_found {n n' c c' : Nat} {s r : Search} (h : Ends path method test p ⟨n, c, s⟩ r)
    (hs : s.found.isSome) : Ends path method test p ⟨n', c', s⟩ r := by
  cases h with
  | halt _ => exact .halt (step_of_found hs)
  | next h _ =>
    rw [step_of_found hs] at h
    cases h

variable {n c : Nat} {s r : Search}

/-- A run passes a reset with its cursor at the given place. -/
theorem setCursor {offset : Nat} (hs : s.found = none) (hp : p[n]? = some (.setCursor offset))
    (hr : Ends path method test p ⟨n + 1, offset, s⟩ r) : Ends path method test p ⟨n, c, s⟩ r :=
  .next (by rw [step_of_not_found hs]; simp only [hp]) hr

/-- A run passes a route by trying it. -/
theorem route {i : Nat} (hs : s.found = none) (hp : p[n]? = some (.route i))
    (hr : Ends path method test p ⟨n + 1, c, s.attempt method test i⟩ r) :
    Ends path method test p ⟨n, c, s⟩ r :=
  .next (by rw [step_of_not_found hs]; simp only [hp]) hr

/-- A comparison goes on behind its bytes or jumps. -/
theorem literal {bytes : Bytes} {i : Nat} (hs : s.found = none)
    (hp : p[n]? = some (.literal bytes (.index i)))
    (hyes : bytes.isPrefixOf (path.drop c) →
      Ends path method test p ⟨n + 1, c + bytes.length, s⟩ r)
    (hno : ¬bytes.isPrefixOf (path.drop c) → Ends path method test p ⟨i, c, s⟩ r) :
    Ends path method test p ⟨n, c, s⟩ r := by
  -- The two ways on are the two hypotheses.
  by_cases h : bytes.isPrefixOf (path.drop c)
  · exact .next (by rw [step_of_not_found hs]; simp only [hp, if_pos h]) (hyes h)
  · exact .next (by rw [step_of_not_found hs]; simp only [hp, if_neg h]) (hno h)

end Ends

/-! ### Pieces of a program -/

/-- The instructions `is` stand in a program from place `n` on. -/
def PieceAt (p : Program) (n : Nat) (is : List Instruction) : Prop := is <+: p.drop n

namespace PieceAt

variable {n : Nat} {i : Instruction} {is js : List Instruction}

/-- The first instruction of a piece is found at the place of the piece. -/
theorem first (h : PieceAt p n (i :: is)) : p[n]? = some i := by
  obtain ⟨rest, h⟩ := h
  -- A piece is what the program goes on with, so its head is that of the rest of the program.
  rw [← Nat.add_zero n, ← List.getElem?_drop, ← h]
  rfl

/-- The front of a piece stands where the piece stands. -/
theorem front (h : PieceAt p n (is ++ js)) : PieceAt p n is :=
  (List.prefix_append is js).trans h

/-- The back of a piece stands behind its front. -/
theorem back (h : PieceAt p n (is ++ js)) : PieceAt p (n + is.length) js := by
  obtain ⟨rest, h⟩ := h
  have hdrop : p.drop (n + is.length) = js ++ rest := by
    rw [← List.drop_drop, ← h, List.append_assoc, List.drop_left]
  rw [PieceAt, hdrop]
  exact List.prefix_append js rest

/-- The rest of a piece stands one place further on. -/
theorem tail (h : PieceAt p n (i :: is)) : PieceAt p (n + 1) is :=
  back (show PieceAt p n ([i] ++ is) from h)

end PieceAt

/-! ### The comparisons of a label -/

/-- The chunks of a label, put together, are the label. -/
theorem flatten_chunks (bs : Bytes) : (chunks bs).flatten = bs := by
  fun_induction chunks bs with
  | case1 => rfl
  | case2 b bs ih => rw [List.flatten_cons, ih, List.take_append_drop]

/-- A path goes on with two texts in a row if it goes on with the first and its rest with the
second. -/
theorem isPrefixOf_append (xs ys zs : Bytes) :
    (xs ++ ys).isPrefixOf zs = (xs.isPrefixOf zs && ys.isPrefixOf (zs.drop xs.length)) := by
  rw [Trie.isPrefixOf_split (xs ++ ys) zs (n := xs.length) (by simp), List.take_left,
    List.drop_left]

/-- What is said about places and cursors goes back over every comparison of the program: it holds
at a comparison if it holds behind it, where its bytes follow, and where it jumps, if they do
not. -/
def GoesBack (path : Bytes) (p : Program) (holds : Nat → Nat → Prop) : Prop :=
  ∀ (n c : Nat) (bytes : Bytes) (i : Nat), p[n]? = some (.literal bytes (.index i)) →
    (bytes.isPrefixOf (path.drop c) → holds (n + 1) (c + bytes.length)) →
    (¬bytes.isPrefixOf (path.drop c) → holds i c) → holds n c

variable {holds : Nat → Nat → Prop}

/-- Comparisons that all jump to the same place when they fail. -/
theorem GoesBack.literals (h : GoesBack path p holds) {cs : List Bytes} {n i c : Nat}
    (hp : PieceAt p n (cs.map fun bytes => .literal bytes (.index i)))
    (hyes : cs.flatten.isPrefixOf (path.drop c) → holds (n + cs.length) (c + cs.flatten.length))
    (hno : ¬cs.flatten.isPrefixOf (path.drop c) → ∀ c', holds i c') : holds n c := by
  -- The place and the cursor move with every comparison; the place where the failed ones go does
  -- not.
  induction cs generalizing n c with
  | nil => exact hyes (by simp)
  | cons bytes cs ih =>
    have hsplit := isPrefixOf_append bytes cs.flatten (path.drop c)
    have hn : n + (bytes :: cs).length = n + 1 + cs.length := by
      rw [List.length_cons]; omega
    have hc : c + (bytes :: cs).flatten.length = c + bytes.length + cs.flatten.length := by
      rw [List.flatten_cons, List.length_append]; omega
    rw [hn, hc] at hyes
    rw [List.drop_drop] at hsplit
    rw [List.flatten_cons, hsplit] at hyes hno
    -- The cursor moves behind `bytes`, and the rest of the label is compared with what lies there.
    refine h n c bytes i hp.first (fun hfirst => ?_) fun hfirst => hno (by simp [hfirst]) c
    exact ih hp.tail (fun h' => hyes (by simp [hfirst, h'])) fun h' => hno (by simp [h'])

/-- The comparisons of a label go on behind it if the path goes on with it. Otherwise the cursor
is where it was, or is reset. -/
theorem GoesBack.comparisons (h : GoesBack path p holds) {after reset n c : Nat} {label : Bytes}
    (hp : PieceAt p n (comparisons after reset label))
    (hyes : label.isPrefixOf (path.drop c) → holds (n + (chunks label).length) (c + label.length))
    (hreset : ¬label.isPrefixOf (path.drop c) → ∀ c', holds reset c')
    (hafter : ¬label.isPrefixOf (path.drop c) → holds after c) : holds n c := by
  have hflat := flatten_chunks label
  rw [Program.comparisons] at hp
  cases hchunks : chunks label with
  | nil =>
    -- An empty label needs no comparison, and every path goes on with it.
    rw [hchunks, List.flatten_nil] at hflat
    subst hflat
    rw [hchunks] at hyes
    exact hyes rfl
  | cons bytes cs =>
    rw [hchunks, List.flatten_cons] at hflat
    rw [hchunks] at hp hyes
    have hsplit := isPrefixOf_append bytes cs.flatten (path.drop c)
    have hn : n + (bytes :: cs).length = n + 1 + cs.length := by
      rw [List.length_cons]; omega
    have hc : c + label.length = c + bytes.length + cs.flatten.length := by
      rw [← hflat, List.length_append]; omega
    rw [hn, hc] at hyes
    rw [hflat, List.drop_drop] at hsplit
    rw [hsplit] at hyes hreset hafter
    -- Only the first comparison fails with the cursor where it was.
    refine h n c bytes after hp.first (fun hfirst => ?_) fun hfirst => hafter (by simp [hfirst])
    exact h.literals hp.tail (fun h' => hyes (by simp [hfirst, h'])) fun h' =>
      hreset (by simp [h'])

/-- A run to the end goes back over comparisons as long as no route is found. -/
theorem goesBack_ends {s : Search} (hs : s.found = none) (r : Search) :
    GoesBack path p fun n c => Ends path method test p ⟨n, c, s⟩ r :=
  fun _ _ _ _ => .literal hs

/-! ### The instructions of a node

The two statements are proved together, as items and nodes are defined together. `last` says
whether the item ends its node. If it does not, the cursor is back where it was. -/

/-- There is one comparison for each chunk of the label. -/
theorem length_comparisons (after reset : Nat) (label : Bytes) :
    (comparisons after reset label).length = (chunks label).length := by
  rw [comparisons]
  cases chunks label <;> simp

/-- Behind a branch the cursor is reset, unless the branch ends its node. -/
theorem ends_resets {n depth : Nat} {last : Bool} {s r : Search}
    (hp : PieceAt p n (if last then [] else [.setCursor depth]))
    (hr : ∀ c, (last = false → c = depth) →
      Ends path method test p ⟨n + (if last then [] else [Instruction.setCursor depth]).length,
        c, s⟩ r) (c : Nat) :
    Ends path method test p ⟨n, c, s⟩ r := by
  cases last with
  | true => exact hr c fun h => nomatch h
  | false =>
    have h := hr depth fun _ => rfl
    cases hs : s.found with
    -- A run that has found a route is over, so the cursor does not matter.
    | some i => exact h.of_found (by simp [hs])
    | none => exact .setCursor hs hp.first h

mutual

/-- The instructions of an item find what the walk over its routes finds. -/
theorem ends_emitItem (n depth : Nat) (last : Bool) (x : TrieItem) {s r : Search}
    (hs : s.found = none) (hp : PieceAt p n (emitItem n depth last x))
    (hr : ∀ c, (last = false → c = depth) →
      Ends path method test p ⟨n + (emitItem n depth last x).length, c,
        scanFrom method test s (Trie.underItem (path.drop depth) x)⟩ r) :
    Ends path method test p ⟨n, depth, s⟩ r := by
  match x with
  | .route i =>
    rw [emitItem] at hp hr
    have h := hr depth fun _ => rfl
    rw [Trie.underItem_route, scanFrom_cons, scanFrom_nil, ite_self] at h
    exact .route hs hp.first h
  | .branch label below =>
    rw [emitItem] at hp hr
    rw [Trie.underItem_branch, List.drop_drop] at hr
    have ih := ends_emit (n + (chunks label).length) (depth + label.length) below (r := r) hs
    simp only [List.length_append, length_comparisons] at hp hr ih
    generalize emit (n + (chunks label).length) (depth + label.length) below = inner at hp hr ih
    have hcode := hp.front.front
    have hinner := hp.front.back
    have hresets := hp.back
    simp only [List.length_append, length_comparisons, ← Nat.add_assoc] at hinner hresets hr
    refine (goesBack_ends hs r).comparisons hcode (fun h => ?_) (fun h => ?_) fun h => ?_
    · -- The path goes on with the label, so the routes below it are tried.
      rw [if_pos h] at hr
      exact ih hinner fun c => ends_resets hresets hr c
    · -- A later comparison has failed; the cursor is inside the label.
      rw [if_neg h, scanFrom_nil] at hr
      exact fun c => ends_resets hresets hr c
    · -- The first comparison has failed; the cursor has not moved.
      rw [if_neg h, scanFrom_nil] at hr
      exact hr depth fun _ => rfl

/-- The instructions of a node find what the walk over its routes finds. -/
theorem ends_emit (n depth : Nat) (t : Trie) {s r : Search} (hs : s.found = none)
    (hp : PieceAt p n (emit n depth t))
    (hr : ∀ c, Ends path method test p ⟨n + (emit n depth t).length, c,
      scanFrom method test s (Trie.under (path.drop depth) t)⟩ r) :
    Ends path method test p ⟨n, depth, s⟩ r := by
  -- The walk over the routes of a node is the walk over those of its first item, and then over the
  -- others. So are the instructions.
  match t with
  | [] =>
    rw [emit] at hr
    exact hr depth
  | x :: t =>
    rw [emit] at hp hr
    rw [Trie.under_cons, scanFrom_append hs] at hr
    refine ends_emitItem n depth t.isEmpty x hs hp.front fun c hc => ?_
    simp only [List.length_append, ← Nat.add_assoc] at hr
    generalize scanFrom method test s (Trie.underItem (path.drop depth) x) = s' at hr ⊢
    cases hs' : s'.found with
    | some i =>
      -- The first item has found a route, and the rest of the node is passed over.
      rw [hs'] at hr
      exact (hr c).of_found (by simp [hs'])
    | none =>
      rw [hs'] at hr
      cases t with
      | nil => exact hr c
      | cons y t =>
        -- The item has left the cursor where the next one expects it.
        rw [hc rfl]
        exact ends_emit _ depth (y :: t) hs' hp.back hr

end

/-! ### The resets at the end -/

/-- The instructions of a program without the resets at its end, jumps as they were. -/
def kept (is : List Instruction) : List Instruction := is.rdropWhile Instruction.isReset

/-- Trimming a program takes the resets off its end and then makes the jumps fail that would leave
it. -/
theorem trimmed_eq (is : List Instruction) :
    trimmed is = (kept is).map (Instruction.bounded (kept is).length) := rfl

/-- A program is what is kept of it, followed by resets. -/
theorem kept_append_resets (is : List Instruction) :
    kept is ++ is.rtakeWhile Instruction.isReset = is :=
  List.rdropWhile_append_rtakeWhile

/-- Behind the kept instructions there are only resets. -/
theorem isReset_of_length_kept_le {is : List Instruction} {k : Nat} {i : Instruction}
    (hk : (kept is).length ≤ k) (h : is[k]? = some i) : i.isReset := by
  rw [← kept_append_resets is, List.getElem?_append_right hk] at h
  exact List.mem_rtakeWhile_imp (List.mem_of_getElem? h)

/-- In its kept part a trimmed program has the same instructions, up to jumps that leave it. -/
theorem getElem?_trimmed_of_lt {is : List Instruction} {k : Nat} (hk : k < (kept is).length) :
    (trimmed is)[k]? = is[k]?.map (Instruction.bounded (kept is).length) := by
  rw [trimmed_eq, List.getElem?_map]
  congr 1
  conv => rhs; rw [← kept_append_resets is, List.getElem?_append_left hk]

/-- A trimmed program ends where its kept part ends. -/
theorem getElem?_trimmed_of_le {is : List Instruction} {k : Nat} (hk : (kept is).length ≤ k) :
    (trimmed is)[k]? = none := by
  rw [trimmed_eq, List.getElem?_eq_none_iff, List.length_map]
  exact hk

variable (path method test) in
/-- Without the resets at the end a step is the same, or it would have gone among them. -/
theorem step_trimmed (is : List Instruction) (s : State) :
    step path method test (trimmed is) s = step path method test is s ∨
      step path method test (trimmed is) s = none ∧
        ∀ s', step path method test is s = some s' →
          s'.search = s.search ∧ (kept is).length ≤ s'.next := by
  cases hf : s.search.found with
  | some i => exact .inl (by rw [step_of_found (by simp [hf]), step_of_found (by simp [hf])])
  | none =>
    rw [step_of_not_found hf, step_of_not_found hf]
    -- In the kept part only a jump to a reset at the end differs, as it fails at once. Behind it
    -- stand resets alone, and they change nothing but the cursor.
    rcases Nat.lt_or_ge s.next (kept is).length with hk | hk
    · rw [getElem?_trimmed_of_lt hk]
      cases is[s.next]? with
      | none => exact .inl rfl
      | some i =>
        match i with
        | .setCursor _ => exact .inl rfl
        | .route _ => exact .inl rfl
        | .literal _ .fail => exact .inl rfl
        | .literal bytes (.index i) =>
          simp only [Option.map_some, Instruction.bounded]
          by_cases hpre : bytes.isPrefixOf (path.drop s.cursor)
          · exact .inl (by rw [if_pos hpre, if_pos hpre])
          · rw [if_neg hpre, if_neg hpre]
            by_cases hi : (kept is).length ≤ i
            · rw [if_pos hi]
              refine .inr ⟨rfl, fun s' h => ?_⟩
              cases h
              exact ⟨rfl, hi⟩
            · exact .inl (by rw [if_neg hi])
    · rw [getElem?_trimmed_of_le hk]
      refine .inr ⟨rfl, fun s' h => ?_⟩
      cases hi : is[s.next]? with
      | none => simp [hi] at h
      | some i =>
        have hreset := isReset_of_length_kept_le hk hi
        cases i with
        | literal _ _ => cases hreset
        | route _ => cases hreset
        | setCursor offset =>
          simp only [hi, Option.some.injEq] at h
          subst h
          exact ⟨rfl, Nat.le_succ_of_le hk⟩

/-- Among the resets at the end nothing is found any more. -/
theorem search_of_ends_resets {is : List Instruction} {s : State} {r : Search}
    (h : Ends path method test is s r) (hs : (kept is).length ≤ s.next) : r = s.search := by
  -- The run is followed from its end backwards: every step among the resets leaves the search alone
  -- and stays among them.
  induction h with
  | halt h => rfl
  | @next s s' r h hr ih =>
    -- Behind the kept instructions there is no step without the resets.
    have hnone : step path method test (trimmed is) s = none := by
      cases hf : s.search.found with
      | some i => exact step_of_found (by simp [hf])
      | none => rw [step_of_not_found hf, getElem?_trimmed_of_le hs]
    rcases step_trimmed path method test is s with heq | ⟨-, hout⟩
    · rw [hnone, h] at heq
      cases heq
    · obtain ⟨hsearch, hnext⟩ := hout s' h
      rw [ih hnext, hsearch]

/-- The resets at the end can go, and jumps among them can fail. -/
theorem ends_trimmed {is : List Instruction} {s : State} {r : Search}
    (h : Ends path method test is s r) : Ends path method test (trimmed is) s r := by
  -- Step by step the two programs do the same, until the longer one runs into the resets at its
  -- end.
  induction h with
  | @halt s h =>
    rcases step_trimmed path method test is s with heq | ⟨hnone, -⟩
    · exact .halt (heq.trans h)
    · exact .halt hnone
  | @next s s' r h hr ih =>
    rcases step_trimmed path method test is s with heq | ⟨hnone, hout⟩
    · exact .next (heq.trans h) ih
    · obtain ⟨hsearch, hnext⟩ := hout s' h
      -- The run would go on among the resets, where nothing more is found.
      rw [search_of_ends_resets hr hnext, hsearch]
      exact .halt hnone

/-! ### The number of steps -/

/-- The jumps of instructions that stand from place `n` on go forward. -/
def Forward (n : Nat) (is : List Instruction) : Prop :=
  ∀ k bytes i, is[k]? = some (.literal bytes (.index i)) → n + k < i

/-- Jumps of two pieces in a row go forward if those of each do, the second one from its own place
on. -/
theorem Forward.append {n : Nat} {is js : List Instruction} (his : Forward n is)
    (hjs : Forward (n + is.length) js) : Forward n (is ++ js) := by
  intro k bytes i h
  rw [List.getElem?_append] at h
  split at h
  · exact his k bytes i h
  · have := hjs (k - is.length) bytes i h
    omega

/-- The comparisons of a label jump forward if the reset and what is behind it come after them. -/
theorem forward_comparisons {n after reset : Nat} {label : Bytes}
    (hreset : n + (chunks label).length ≤ reset) (hafter : reset ≤ after) :
    Forward n (comparisons after reset label) := by
  intro k bytes i h
  have hk := (List.getElem?_eq_some_iff.mp h).1
  rw [length_comparisons] at hk
  rw [comparisons] at h
  cases hchunks : chunks label with
  | nil => simp [hchunks] at h
  | cons first later =>
    rw [hchunks] at h
    -- The first comparison jumps behind the reset, the later ones jump to it.
    cases k with
    | zero =>
      simp only [List.getElem?_cons_zero, Option.some.injEq, Instruction.literal.injEq,
        Target.index.injEq] at h
      omega
    | succ k =>
      simp only [List.getElem?_cons_succ, List.getElem?_map, Option.map_eq_some_iff,
        Instruction.literal.injEq, Target.index.injEq] at h
      obtain ⟨_, _, _, h⟩ := h
      omega

mutual

/-- All jumps in the instructions of an item go forward. -/
theorem forward_emitItem (n depth : Nat) (last : Bool) (x : TrieItem) :
    Forward n (emitItem n depth last x) := by
  match x with
  | .route i =>
    rw [emitItem]
    intro k bytes j h
    cases k <;> simp at h
  | .branch label below =>
    rw [emitItem]
    have ih := forward_emit (n + (chunks label).length) (depth + label.length) below
    generalize emit (n + (chunks label).length) (depth + label.length) below = inner at ih ⊢
    -- Failed comparisons jump to the reset behind the branch, or behind that reset.
    refine .append (.append (forward_comparisons (by omega) (by omega)) ?_) fun k bytes i h => ?_
    · rwa [length_comparisons]
    · cases last <;> cases k <;> simp at h

/-- All jumps in the instructions of a node go forward. -/
theorem forward_emit (n depth : Nat) (t : Trie) : Forward n (emit n depth t) := by
  match t with
  | [] =>
    rw [emit]
    intro k bytes i h
    simp at h
  | x :: t =>
    rw [emit]
    exact (forward_emitItem n depth t.isEmpty x).append (forward_emit _ depth t)

end

/-- Trimming makes some jumps fail and moves none, so jumps still go forward. -/
theorem forward_trimmed {is : List Instruction} (h : Forward 0 is) : Forward 0 (trimmed is) := by
  intro k bytes i hk
  have hlt : k < (kept is).length := by
    have := (List.getElem?_eq_some_iff.mp hk).1
    rwa [trimmed_eq, List.length_map] at this
  rw [getElem?_trimmed_of_lt hlt, Option.map_eq_some_iff] at hk
  obtain ⟨j, hj, hbounded⟩ := hk
  -- A jump that stays in the trimmed program is one of the old program.
  match j, hbounded with
  | .literal _ (.index j), hbounded =>
    rw [Instruction.bounded] at hbounded
    split at hbounded
    · cases hbounded
    · cases hbounded
      exact h k bytes i hj

/-- If jumps go forward, every step does, and it starts at an instruction of the program. -/
theorem lt_of_step (hp : Forward 0 p) {s s' : State} (h : step path method test p s = some s') :
    s.next < s'.next ∧ s.next < p.length := by
  cases hf : s.search.found with
  | some i =>
    rw [step_of_found (by simp [hf])] at h
    cases h
  | none =>
    rw [step_of_not_found hf] at h
    cases hi : p[s.next]? with
    | none => simp [hi] at h
    | some i =>
      refine ⟨?_, (List.getElem?_eq_some_iff.mp hi).1⟩
      -- One case for each instruction; only a comparison that fails does not go to the next place.
      simp only [hi] at h
      split at h
      · cases h
      · cases h
        exact Nat.lt_succ_self _
      · rename_i heq
        split at h
        · cases h
          exact Nat.lt_succ_self _
        · split at h
          · cases h
            have := hp _ _ _ (hi.trans heq)
            rwa [Nat.zero_add] at this
          · cases h
      · cases h
        exact Nat.lt_succ_self _

/-- A run to the end takes no more steps than there are instructions ahead. -/
theorem steps_of_ends (hp : Forward 0 p) {s : State} {r : Search}
    (h : Ends path method test p s r) {fuel : Nat} (hfuel : p.length < fuel + s.next) :
    (steps path method test p fuel s).search = r := by
  -- The fuel is more than the number of instructions that are left, and each step passes at least
  -- one.
  induction h generalizing fuel with
  | halt h =>
    cases fuel with
    | zero => rfl
    | succ fuel => rw [steps, h]
  | next h hr ih =>
    obtain ⟨hnext, hlt⟩ := lt_of_step hp h
    cases fuel with
    | zero => omega
    | succ fuel =>
      rw [steps, h]
      exact ih (by omega)

end

/-- The program of a list of texts finds what the plain walk over the texts finds. -/
theorem run_ofTexts (path : Bytes) (method : Method) (test : Nat → Option MethodSet)
    (texts : List Bytes) :
    (ofTexts texts).run path method test = scan path method test texts := by
  rw [ofTexts, ofTrie, run, scan]
  generalize ht : Trie.ofTexts texts = t
  have hforward : Forward 0 (trimmed (emit 0 0 t)) := forward_trimmed (forward_emit 0 0 t)
  -- There is fuel for a run to the end, and such a run may be looked at before trimming.
  refine steps_of_ends hforward (ends_trimmed ?_) (Nat.lt_succ_self _)
  have hpiece : PieceAt (emit 0 0 t) 0 (emit 0 0 t) := List.prefix_refl _
  refine ends_emit 0 0 t rfl hpiece fun c => ?_
  rw [List.drop_zero, ← ht, Trie.under_ofTexts]
  -- Behind the last instruction there is no step.
  refine .halt ?_
  cases hf : (scanFrom method test Search.empty (considered path texts)).found with
  | some i => exact step_of_found (by simp [hf])
  | none => rw [step_of_not_found hf]; simp

end Program

end HttpMux
