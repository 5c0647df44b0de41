import HttpMux.Proofs.Chain.Transparency
import Mathlib.Data.List.Perm.Basic

/-!
# `HttpMux.Proofs.Stack.Barrier`: reuse never brings back an old list of layers

A stack keeps idle chains and hands them out again. A change of its layers must reach every chain
that is handed out later, while chains that are out at the time of the change go on as they are.

A run is a list of actions on one stack: changes of the layers, of which some fail, and chains that
are taken, serve requests and are given back. Any number of chains may be out at a time. A chain is
given back by its place among those that are out, so only chains of the stack come back. With every
chain that is out, a `Loan` records the layers and the generation of the stack at the time when it
was taken. A `Ledger` is what one would write down of the changes alone.

`World.Inv` ties the stack, the loans and the ledger together. `World.Inv.after` shows that one
action preserves it, with a lemma for each operation of the stack, and `World.inv_run` follows for
every run. What a run guarantees is read off in `World.run_barrier`.

Serving a request changes a chain only while it lasts, as `Chain.serve_of_slot_empty` shows: the
slot is empty before, so the chain comes back as it was.
-/

set_option autoImplicit false

namespace HttpMux

variable {A : App} {σ : Type}

namespace Stack

/-! ### A ledger of changes -/

/-- The layers with the first one of the given name, and all inside it, changed by `f`. -/
def changeFirst (name : String)
    (f : Middleware A → List (Middleware A) → List (Middleware A)) :
    List (Middleware A) → Option (List (Middleware A))
  | [] => none
  | x :: xs => if x.name = name then some (f x xs) else (changeFirst name f xs).map (x :: ·)

/-- The layers with a new one directly outside the first one named `before`. -/
def insertBefore (m : Middleware A) (before : String) :
    List (Middleware A) → Option (List (Middleware A)) :=
  changeFirst before fun x xs => m :: x :: xs

/-- The layers without the first one of the given name. -/
def removeFirst (name : String) : List (Middleware A) → Option (List (Middleware A)) :=
  changeFirst name fun _ xs => xs

/-- What happens on a stack: its layers change, a chain is taken, a chain that is out is given
back, or one serves a request inside surroundings with a state of their own. -/
inductive Action (A : App) (σ : Type)
  | use (m : Middleware A)
  | insert (m : Middleware A) (before : String)
  | abandon (name : String)
  | alloc
  | release (i : Nat)
  | serve (i : Nat) (answer : (q : Question A) → StateM σ q.Answer) (inner : Server (StateM σ))
      (surroundings : σ) (c : Context) (r : Request)

/-- The layers, outermost first, and the number of changes that have succeeded. -/
structure Ledger (A : App) where
  layers : List (Middleware A)
  changes : Nat

namespace Ledger

/-- The ledger with another list of layers, if there is one. -/
def changed (l : Ledger A) : Option (List (Middleware A)) → Ledger A
  | some layers => ⟨layers, l.changes + 1⟩
  | none => l

/-- The ledger after one more action. -/
def after (l : Ledger A) : Action A σ → Ledger A
  | .use m => l.changed (some (l.layers ++ [m]))
  | .insert m before => l.changed (insertBefore m before l.layers)
  | .abandon name => l.changed (removeFirst name l.layers)
  | .alloc => l
  | .release _ => l
  | .serve .. => l

/-- The ledger of a run. -/
def run (actions : List (Action A σ)) : Ledger A := actions.foldl after ⟨[], 0⟩

end Ledger

/-- Changing a list at the place of the first layer of a name is changing it there on the way. -/
theorem changeFirst_eq {f : Middleware A → List (Middleware A) → List (Middleware A)}
    {g : Nat → List (Middleware A) → List (Middleware A)}
    (hzero : ∀ x xs, g 0 (x :: xs) = f x xs) (hsucc : ∀ i x xs, g (i + 1) (x :: xs) = x :: g i xs)
    (name : String) (xs : List (Middleware A)) :
    changeFirst name f xs
      = ((xs.map Middleware.name).findIdx? (· = name)).map fun i => g i xs := by
  induction xs with
  | nil => rfl
  | cons x xs ih =>
    rw [changeFirst, ih, List.map_cons, List.findIdx?_cons]
    by_cases hx : x.name = name
    · simp [hx, hzero]
    · simp [hx, hsucc, Function.comp_def]

/-- The stack inserts a layer where the ledger does, and fails where the ledger has no place. -/
theorem insert_eq (s : Stack A) (m : Middleware A) (before : String) :
    s.insert m before
      = match insertBefore m before s.layers with
        | some layers => .ok (s.publish layers)
        | none => .error ⟨before⟩ := by
  have hplace : insertBefore m before s.layers
      = (s.position? before).map fun i => s.layers.take i ++ m :: s.layers.drop i :=
    changeFirst_eq (g := fun i xs => xs.take i ++ m :: xs.drop i) (fun _ _ => rfl)
      (fun _ _ _ => rfl) before s.layers
  rw [insert, hplace]
  cases s.position? before <;> rfl

/-- The stack removes the layer that the ledger removes, and fails where the ledger has none. -/
theorem abandon_eq (s : Stack A) (name : String) :
    s.abandon name
      = match removeFirst name s.layers with
        | some layers => .ok (s.publish layers)
        | none => .error ⟨name⟩ := by
  have hplace : removeFirst name s.layers = (s.position? name).map s.layers.eraseIdx :=
    changeFirst_eq (g := fun i xs => xs.eraseIdx i) (fun _ _ => rfl) (fun _ _ _ => rfl) name
      s.layers
  rw [abandon, hplace]
  cases s.position? name <;> rfl

/-! ### Runs -/

/-- A chain that is out, with the layers and the generation of the stack when it was taken. -/
structure Loan (A : App) where
  chain : Chain A
  layers : List (Middleware A)
  generation : Nat

/-- A stack and its chains that are out, in the order in which they were taken. -/
structure World (A : App) where
  stack : Stack A
  lent : List (Loan A)

namespace World

/-- The world with the stack that a change has made, unless it failed. -/
def withStack (w : World A) : Except UnknownLayer (Stack A) → World A
  | .ok stack => { w with stack }
  | .error _ => w

/-- The world after one more action. Nothing happens to a place where no chain is out. -/
def after (w : World A) : Action A σ → World A
  | .use m => { w with stack := w.stack.push m }
  | .insert m before => w.withStack (w.stack.insert m before)
  | .abandon name => w.withStack (w.stack.abandon name)
  | .alloc =>
    ⟨w.stack.alloc.2, w.lent ++ [⟨w.stack.alloc.1, w.stack.layers, w.stack.generation⟩]⟩
  | .release i =>
    match w.lent[i]? with
    | some loan => ⟨w.stack.release loan.chain, w.lent.eraseIdx i⟩
    | none => w
  | .serve i answer inner surroundings c r =>
    match w.lent[i]? with
    | some loan =>
      let served := (loan.chain.serve answer inner c r).run surroundings
      { w with lent := w.lent.set i { loan with chain := served.1.2 } }
    | none => w

/-- The world of a new stack. -/
def start (inner : MuxId) (capacity : Nat) : World A := ⟨Stack.new inner capacity, []⟩

/-- The world that a run leads to. -/
def run (inner : MuxId) (capacity : Nat) (actions : List (Action A σ)) : World A :=
  actions.foldl after (start inner capacity)

/-- All chains of the world, idle ones and those that are out. -/
def chains (w : World A) : List (Chain A) := w.stack.idle ++ w.lent.map Loan.chain

/-! ### The invariant -/

/-- A chain as a stack keeps it: of its generation and its layers, with an empty slot. -/
structure Kept (s : Stack A) (ch : Chain A) : Prop where
  generation : ch.generation = s.generation
  layers : ch.layers = s.layers
  inner : ch.inner = s.inner
  slot : ch.slot = Context.empty

/-- A chain that is out is as it was taken, and it is of the present layers if it is of the present
generation. -/
structure Lent (s : Stack A) (loan : Loan A) : Prop where
  layers : loan.chain.layers = loan.layers
  generation : loan.chain.generation = loan.generation
  inner : loan.chain.inner = s.inner
  slot : loan.chain.slot = Context.empty
  past : loan.generation ≤ s.generation
  present : loan.generation = s.generation → loan.layers = s.layers

/-- What ties a stack, its chains and the ledger together. Every chain has a serial number of its
own, below that of the next chain to be built. -/
structure Inv (inner : MuxId) (capacity : Nat) (l : Ledger A) (w : World A) : Prop where
  layers : w.stack.layers = l.layers
  generation : w.stack.generation = l.changes
  inner : w.stack.inner = inner
  capacity : w.stack.capacity = capacity
  idle : ∀ ch ∈ w.stack.idle, Kept w.stack ch
  bounded : w.stack.idle.length ≤ w.stack.capacity
  lent : ∀ loan ∈ w.lent, Lent w.stack loan
  distinct : (w.chains.map Chain.serial).Nodup
  built : ∀ n ∈ w.chains.map Chain.serial, n < w.stack.built

variable {inner : MuxId} {capacity : Nat} {l : Ledger A} {w : World A}

/-- A new stack has no layers, no chains and an empty ledger. -/
theorem inv_start (inner : MuxId) (capacity : Nat) :
    Inv inner capacity ⟨[], 0⟩ (start inner capacity : World A) where
  layers := rfl
  generation := rfl
  inner := rfl
  capacity := rfl
  idle _ h := nomatch h
  bounded := Nat.zero_le capacity
  lent _ h := nomatch h
  distinct := List.nodup_nil
  built _ h := nomatch h

/-- A chain that is out when the layers change is of the past. -/
theorem Lent.publish {s : Stack A} {loan : Loan A} (h : Lent s loan)
    (layers : List (Middleware A)) : Lent (s.publish layers) loan := by
  refine ⟨h.layers, h.generation, h.inner, h.slot, ?_, fun heq => ?_⟩
  · exact Nat.le_succ_of_le h.past
  · -- No chain is of the new generation yet, so there is nothing to show for it.
    have hpast := h.past
    have hnext : loan.generation = s.generation + 1 := heq
    omega

/-- A chain that is out and of the present generation comes back as the stack keeps them. -/
theorem Lent.kept {s : Stack A} {loan : Loan A} (h : Lent s loan)
    (hcurrent : loan.chain.generation = s.generation) :
    Kept s { loan.chain with slot := Context.empty } := by
  have hpresent := h.present (h.generation.symm.trans hcurrent)
  exact ⟨hcurrent, h.layers.trans hpresent, h.inner, rfl⟩

/-- A change of the layers leaves no chain idle, and those that are out are of the past. -/
theorem Inv.publish (h : Inv inner capacity l w) (layers : List (Middleware A)) :
    Inv inner capacity ⟨layers, l.changes + 1⟩ { w with stack := w.stack.publish layers } := by
  have hsub : (w.lent.map Loan.chain).Sublist w.chains := List.sublist_append_right _ _
  refine ⟨rfl, congrArg (· + 1) h.generation, h.inner, h.capacity, fun _ hch => (nomatch hch),
    Nat.zero_le _, fun loan hloan => ?_, ?_, fun n hn => ?_⟩
  · exact (h.lent loan hloan).publish layers
  · exact h.distinct.sublist (hsub.map Chain.serial)
  · exact h.built n ((hsub.map Chain.serial).subset hn)

/-- A change that may fail follows the ledger. -/
theorem Inv.changed (h : Inv inner capacity l w) (layers? : Option (List (Middleware A)))
    (name : String) :
    Inv inner capacity (l.changed layers?)
      (w.withStack (match layers? with
        | some layers => .ok (w.stack.publish layers)
        | none => .error ⟨name⟩)) := by
  cases layers? with
  | some layers => exact h.publish layers
  | none => exact h

/-! ### Chains come and go -/

/-- Taking a chain changes neither the layers nor what else makes chains current. -/
theorem alloc_snd (s : Stack A) :
    s.alloc.2.layers = s.layers ∧ s.alloc.2.generation = s.generation
      ∧ s.alloc.2.inner = s.inner ∧ s.alloc.2.capacity = s.capacity := by
  rw [Stack.alloc]
  split <;> exact ⟨rfl, rfl, rfl, rfl⟩

/-- The chains that are idle afterwards were idle before. -/
theorem idle_alloc (s : Stack A) : s.alloc.2.idle.Sublist s.idle := by
  rw [Stack.alloc]
  split
  · rename_i hcons
    rw [hcons]
    exact List.sublist_cons_self _ _
  · exact List.Sublist.refl _

/-- The chain that is taken is as the stack keeps them, whether it was idle or is built. -/
theorem kept_alloc {s : Stack A} (h : ∀ ch ∈ s.idle, Kept s ch) : Kept s s.alloc.1 := by
  rw [Stack.alloc]
  -- An idle chain is kept already, and a chain that is built is made of what the stack has now.
  split
  · rename_i ch idle hidle
    exact h ch (hidle ▸ List.mem_cons_self)
  · exact ⟨rfl, rfl, rfl, rfl⟩

/-- Only the layers, the generation and the inner mux of a stack matter to what it keeps. -/
theorem Kept.congr {s s' : Stack A} {ch : Chain A} (h : Kept s ch) (hlayers : s'.layers = s.layers)
    (hgeneration : s'.generation = s.generation) (hinner : s'.inner = s.inner) : Kept s' ch :=
  ⟨h.generation.trans hgeneration.symm, h.layers.trans hlayers.symm, h.inner.trans hinner.symm,
    h.slot⟩

/-- Only the layers, the generation and the inner mux of a stack matter to what is lent out. -/
theorem Lent.congr {s s' : Stack A} {loan : Loan A} (h : Lent s loan)
    (hlayers : s'.layers = s.layers) (hgeneration : s'.generation = s.generation)
    (hinner : s'.inner = s.inner) : Lent s' loan :=
  ⟨h.layers, h.generation, h.inner.trans hinner.symm, h.slot, hgeneration.symm ▸ h.past,
    fun heq => (h.present (heq.trans hgeneration)).trans hlayers.symm⟩

/-- A chain that is taken as the stack keeps them is lent out. -/
theorem Kept.lent {s : Stack A} {ch : Chain A} (h : Kept s ch) :
    Lent s ⟨ch, s.layers, s.generation⟩ :=
  ⟨h.layers, h.generation, h.inner, h.slot, Nat.le_refl _, fun _ => rfl⟩

/-- Taking a chain moves an idle one out, or adds one with the next serial number. -/
theorem serials_alloc (w : World A) :
    let w' := w.after (Action.alloc (σ := σ))
    (w'.chains.map Chain.serial).Perm (w.chains.map Chain.serial)
        ∧ w'.stack.built = w.stack.built
      ∨ (w'.chains.map Chain.serial).Perm (w.stack.built :: w.chains.map Chain.serial)
        ∧ w'.stack.built = w.stack.built + 1 := by
  obtain ⟨⟨stackInner, room, layers, generation, idle, built⟩, lent⟩ := w
  cases idle with
  | nil =>
    refine .inr ⟨?_, rfl⟩
    simp only [chains, after, Stack.alloc, Stack.build, List.map_append, List.nil_append]
    -- The new chain comes last, with the number that no chain has yet.
    exact List.perm_append_comm
  | cons ch idle =>
    refine .inl ⟨?_, rfl⟩
    simp only [chains, after, Stack.alloc, List.map_append, List.map_cons, List.cons_append]
    rw [← List.append_assoc]
    exact List.perm_append_comm

/-- Taking a chain lends one out that the stack kept, or a new one. -/
theorem Inv.alloc (h : Inv inner capacity l w) :
    Inv inner capacity l (w.after (Action.alloc (σ := σ))) := by
  obtain ⟨hlayers, hgeneration, hinner, hcapacity⟩ := alloc_snd w.stack
  have hidle := idle_alloc w.stack
  refine ⟨hlayers.trans h.layers, hgeneration.trans h.generation, hinner.trans h.inner,
    hcapacity.trans h.capacity, fun ch hch => ?_, ?_, fun loan hloan => ?_, ?_, fun n hn => ?_⟩
  · exact (h.idle ch (hidle.subset hch)).congr hlayers hgeneration hinner
  · show w.stack.alloc.2.idle.length ≤ w.stack.alloc.2.capacity
    rw [hcapacity]
    exact Nat.le_trans hidle.length_le h.bounded
  · -- The stack has the same layers as before, so it is enough to look at the stack before.
    refine Lent.congr ?_ hlayers hgeneration hinner
    rcases List.mem_append.mp hloan with hloan | hloan
    · exact h.lent loan hloan
    · rw [List.mem_singleton.mp hloan]
      exact (kept_alloc h.idle).lent
  · rcases serials_alloc (σ := σ) w with ⟨hperm, -⟩ | ⟨hperm, -⟩
    · exact hperm.nodup_iff.mpr h.distinct
    · refine hperm.nodup_iff.mpr (List.nodup_cons.mpr ⟨fun hmem => ?_, h.distinct⟩)
      -- A chain with the next number would have a number below itself.
      exact Nat.lt_irrefl _ (h.built _ hmem)
  · rcases serials_alloc (σ := σ) w with ⟨hperm, hbuilt⟩ | ⟨hperm, hbuilt⟩
    · rw [hbuilt]
      exact h.built n (hperm.subset hn)
    · rw [hbuilt]
      rcases List.mem_cons.mp (hperm.subset hn) with rfl | hn
      · exact Nat.lt_succ_self _
      · exact Nat.lt_succ_of_lt (h.built n hn)

/-- The chains with one of those that are out in front. -/
theorem chains_perm {i : Nat} {loan : Loan A} (hi : w.lent[i]? = some loan) :
    w.chains.Perm (loan.chain :: (w.stack.idle ++ (w.lent.eraseIdx i).map Loan.chain)) := by
  obtain ⟨hlt, hget⟩ := List.getElem?_eq_some_iff.mp hi
  have hlent : w.lent.Perm (loan :: w.lent.eraseIdx i) :=
    hget ▸ (List.getElem_cons_eraseIdx_perm hlt).symm
  exact ((hlent.map Loan.chain).append_left _).trans List.perm_middle

/-- Giving a chain back keeps it or drops it. -/
theorem release_cases (s : Stack A) (ch : Chain A) :
    ch.generation = s.generation ∧ s.idle.length < s.capacity
        ∧ s.release ch = { s with idle := { ch with slot := Context.empty } :: s.idle }
      ∨ s.release ch = s := by
  rw [Stack.release]
  split
  · rename_i hkept
    exact .inl ⟨of_decide_eq_true hkept.1, hkept.2, rfl⟩
  · exact .inr rfl

/-- A chain that comes back is kept only if it is of the present layers. -/
theorem Inv.release (h : Inv inner capacity l w) {i : Nat} {loan : Loan A}
    (hi : w.lent[i]? = some loan) :
    Inv inner capacity l ⟨w.stack.release loan.chain, w.lent.eraseIdx i⟩ := by
  have hlent := h.lent loan (List.mem_of_getElem? hi)
  have hrest : ∀ loan ∈ w.lent.eraseIdx i, Lent w.stack loan :=
    fun loan hloan => h.lent loan (List.mem_of_mem_eraseIdx hloan)
  -- Up to order, the chains are the same before and after, but for one that is dropped.
  have hperm := (chains_perm hi).map Chain.serial
  rcases release_cases w.stack loan.chain with ⟨hcurrent, hroom, hrelease⟩ | hrelease
  · rw [hrelease]
    refine ⟨h.layers, h.generation, h.inner, h.capacity, fun ch hch => ?_, hroom, fun loan hloan =>
      (hrest loan hloan).congr rfl rfl rfl, ?_, fun n hn => ?_⟩
    · rcases List.mem_cons.mp hch with rfl | hch
      · exact (hlent.kept hcurrent).congr rfl rfl rfl
      · exact (h.idle ch hch).congr rfl rfl rfl
    · exact hperm.nodup_iff.mp h.distinct
    · exact h.built n (hperm.symm.subset hn)
  · rw [hrelease]
    refine ⟨h.layers, h.generation, h.inner, h.capacity, h.idle, h.bounded, hrest, ?_,
      fun n hn => ?_⟩
    · exact (List.nodup_cons.mp (hperm.nodup_iff.mp h.distinct)).2
    · exact h.built n (hperm.symm.subset (List.mem_cons_of_mem _ hn))

/-- Serving leaves the chain as it was. -/
theorem Inv.serve (h : Inv inner capacity l w) (i : Nat)
    (answer : (q : Question A) → StateM σ q.Answer) (server : Server (StateM σ)) (surroundings : σ)
    (c : Context) (r : Request) :
    w.after (.serve i answer server surroundings c r) = w := by
  rw [after]
  split
  · rename_i loan hi
    have hslot := (h.lent loan (List.mem_of_getElem? hi)).slot
    obtain ⟨hlt, hget⟩ := List.getElem?_eq_some_iff.mp hi
    -- The slot is empty before, so the chain that comes back is the one that was there.
    rw [Chain.serve_of_slot_empty answer hslot]
    show { w with lent := w.lent.set i loan } = w
    rw [← hget, List.set_getElem_self]
  · rfl

/-! ### Whole runs -/

/-- One action preserves the invariant. -/
theorem Inv.after (h : Inv inner capacity l w) (a : Action A σ) :
    Inv inner capacity (l.after a) (w.after a) := by
  -- Each action has its lemma. What is left is that the ledger takes the same step.
  cases a with
  | use m =>
    rw [Ledger.after, ← h.layers]
    exact h.publish (w.stack.layers ++ [m])
  | insert m before =>
    rw [Ledger.after, World.after, Stack.insert_eq, ← h.layers]
    exact h.changed (insertBefore m before w.stack.layers) before
  | abandon name =>
    rw [Ledger.after, World.after, Stack.abandon_eq, ← h.layers]
    exact h.changed (removeFirst name w.stack.layers) name
  | alloc => exact h.alloc
  | release i =>
    rw [Ledger.after, World.after]
    split
    · exact h.release ‹_›
    · exact h
  | serve i answer server surroundings c r =>
    rw [h.serve]
    exact h

/-- The invariant holds after every run. -/
theorem inv_run (inner : MuxId) (capacity : Nat) (actions : List (Action A σ)) :
    Inv inner capacity (Ledger.run actions) (run inner capacity actions) := by
  -- The ledger and the world go through the same actions side by side.
  have hfold : ∀ (l : Ledger A) (w : World A), Inv inner capacity l w →
      Inv inner capacity (actions.foldl Ledger.after l) (actions.foldl World.after w) := by
    induction actions with
    | nil => exact fun _ _ h => h
    | cons a actions ih => exact fun _ _ h => ih _ _ (h.after a)
  exact hfold _ _ (inv_start inner capacity)

end World

/-- After every run on a new stack: the stack has the layers of the ledger and has counted its
changes. Every idle chain is of the present generation and layers, and its slot is empty. There are
no more idle chains than the stack has room for, and all chains, idle or out, are different ones.
Hence the next chain to be taken runs the present layers around the router of the mux. A chain that
is out still runs the layers of the time when it was taken, and giving it back changes nothing if
the layers have changed since then. -/
theorem World.run_barrier (inner : MuxId) (capacity : Nat) (actions : List (Action A σ)) :
    let l : Ledger A := Ledger.run actions
    let w : World A := World.run inner capacity actions
    (w.stack.layers = l.layers ∧ w.stack.generation = l.changes)
      ∧ (∀ ch ∈ w.stack.idle,
          ch.generation = l.changes ∧ ch.layers = l.layers ∧ ch.slot = Context.empty)
      ∧ (w.stack.idle.length ≤ capacity ∧ (w.chains.map Chain.serial).Nodup)
      ∧ (w.stack.alloc.1.inner = inner ∧ w.stack.alloc.1.Runs l.layers)
      ∧ ∀ loan ∈ w.lent,
          loan.chain.inner = inner ∧ loan.chain.Runs loan.layers ∧ loan.generation ≤ l.changes
            ∧ (loan.generation < l.changes → w.stack.release loan.chain = w.stack) := by
  intro l w
  have h : World.Inv inner capacity l w := World.inv_run inner capacity actions
  have halloc := World.kept_alloc h.idle
  refine ⟨⟨h.layers, h.generation⟩, fun ch hch => ?_, ⟨h.capacity ▸ h.bounded, h.distinct⟩,
    ⟨halloc.inner.trans h.inner, ?_⟩, fun loan hloan => ?_⟩
  · have hkept := h.idle ch hch
    exact ⟨hkept.generation.trans h.generation, hkept.layers.trans h.layers, hkept.slot⟩
  · rw [← h.layers, ← halloc.layers]
    exact Chain.runs_of_slot_empty halloc.slot
  · have hlent := h.lent loan hloan
    have hruns := Chain.runs_of_slot_empty hlent.slot
    rw [hlent.layers] at hruns
    refine ⟨hlent.inner.trans h.inner, hruns, h.generation ▸ hlent.past, fun hlt => ?_⟩
    rcases World.release_cases w.stack loan.chain with ⟨hcurrent, -, -⟩ | hdropped
    · -- Only a chain of the present generation is kept.
      have hgeneration := h.generation
      have htaken := hlent.generation
      omega
    · exact hdropped

end Stack

end HttpMux
