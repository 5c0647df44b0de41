import HttpMux.Proofs.Route.Entries
import Mathlib.Data.List.Chain

/-!
# `HttpMux.Proofs.Route.Labels`: the tree of a table stands for the table

A walk through the tree of a list of texts meets their routes in order. The labels on the way to a
route, one behind the other, are the text of the route. No label is empty, and where two branches
stand next to each other, a path can follow one of them at most.

* `Trie.Way`: the labels on a way from a node down to a route.
* `Trie.mem_entries_iff`: what the labels of a way spell is what the tree spells for the route.
* `Trie.Parted`: no empty label and no neighbours that begin alike, at any depth.
* `Trie.Parted.insert`: inserting a text keeps a tree so, in each of the ways it can go.
* `Trie.ofTexts_represents`: all of this for the tree of a list of texts.
-/

set_option autoImplicit false

namespace HttpMux

namespace Trie

/-! ### Ways to routes -/

/-- A way from a node down to a route, by the labels of the branches that it follows. -/
inductive Way : Trie → List Bytes → Nat → Prop
  | route {t : Trie} {i : Nat} (hmem : .route i ∈ t) : Way t [] i
  | branch {t below : Trie} {label : Bytes} {labels : List Bytes} {i : Nat}
      (hmem : .branch label below ∈ t) (hbelow : Way below labels i) : Way t (label :: labels) i

/-- A way in a node is a way in every node that has all of its items. -/
theorem Way.of_subset {t u : Trie} {labels : List Bytes} {i : Nat} (h : Way t labels i)
    (hsub : t ⊆ u) : Way u labels i := by
  cases h with
  | route hmem => exact .route (hsub hmem)
  | branch hmem hbelow => exact .branch (hsub hmem) hbelow

/-- The entries of a node are those of its items, one after the other. -/
theorem entries_eq_flatMap (text : Bytes) (t : Trie) :
    entries text t = t.flatMap (entriesItem text) := by
  induction t with
  | nil => rw [entries_nil, List.flatMap_nil]
  | cons x t ih => rw [entries_cons, ih, List.flatMap_cons]

/-- The labels of a way spell the entry of its route. -/
theorem Way.mem_entries {t : Trie} {labels : List Bytes} {i : Nat} (h : Way t labels i)
    (text : Bytes) : (text ++ labels.flatten, i) ∈ entries text t := by
  -- Along the way, what is spelled grows by the label of each branch.
  induction h generalizing text with
  | route hmem =>
    rw [entries_eq_flatMap, List.mem_flatMap, List.flatten_nil, List.append_nil]
    exact ⟨_, hmem, by simp⟩
  | @branch t below label labels i hmem hbelow ih =>
    rw [entries_eq_flatMap, List.mem_flatMap, List.flatten_cons, ← List.append_assoc]
    exact ⟨_, hmem, by rw [entriesItem_branch]; exact ih (text ++ label)⟩

mutual

/-- There is a way through an item to the route of every entry of it. -/
theorem exists_way_of_mem_entriesItem {text spelled : Bytes} {i : Nat} (x : TrieItem)
    (h : (spelled, i) ∈ entriesItem text x) :
    ∃ labels, Way [x] labels i ∧ spelled = text ++ labels.flatten := by
  match x with
  | .route j =>
    rw [entriesItem_route, List.mem_singleton, Prod.mk.injEq] at h
    obtain ⟨rfl, rfl⟩ := h
    exact ⟨[], .route List.mem_cons_self, by simp⟩
  | .branch label below =>
    rw [entriesItem_branch] at h
    obtain ⟨labels, hway, rfl⟩ := exists_way_of_mem_entries below h
    exact ⟨label :: labels, .branch List.mem_cons_self hway, by simp⟩

/-- There is a way to the route of every entry. -/
theorem exists_way_of_mem_entries {text spelled : Bytes} {i : Nat} (t : Trie)
    (h : (spelled, i) ∈ entries text t) :
    ∃ labels, Way t labels i ∧ spelled = text ++ labels.flatten := by
  match t with
  | [] => simp at h
  | x :: t =>
    rw [entries_cons, List.mem_append] at h
    rcases h with h | h
    · obtain ⟨labels, hway, heq⟩ := exists_way_of_mem_entriesItem x h
      exact ⟨labels, hway.of_subset (by simp), heq⟩
    · obtain ⟨labels, hway, heq⟩ := exists_way_of_mem_entries t h
      exact ⟨labels, hway.of_subset (List.subset_cons_self x t), heq⟩

end

/-- What the labels of a way spell is what the tree spells for the route. -/
theorem mem_entries_iff {t : Trie} {spelled : Bytes} {i : Nat} :
    (spelled, i) ∈ entries [] t ↔ ∃ labels, Way t labels i ∧ labels.flatten = spelled := by
  constructor
  · intro h
    obtain ⟨labels, hway, heq⟩ := exists_way_of_mem_entries t h
    exact ⟨labels, hway, heq.symm⟩
  · rintro ⟨labels, hway, rfl⟩
    exact hway.mem_entries []

/-! ### Labels -/

/-- No path can follow both, if they are branches. A route keeps any two branches apart. -/
def Apart : TrieItem → TrieItem → Prop
  | .branch label _, .branch label' _ => label.head? ≠ label'.head?
  | _, _ => True

/-- No label is empty, and branches next to each other begin with different bytes, in the node and
in all below it. -/
inductive Parted : Trie → Prop
  | node {t : Trie} (hlabels : ∀ label below, .branch label below ∈ t → label ≠ [])
      (hapart : t.IsChain Apart) (hbelow : ∀ label below, .branch label below ∈ t → Parted below) :
      Parted t

/-- A route is apart from whatever stands in front of it. -/
theorem apart_route (x : TrieItem) (i : Nat) : Apart x (.route i) := by
  cases x <;> trivial

/-- An empty node has no labels. -/
theorem parted_nil : Parted [] := .node (by simp) .nil (by simp)

/-- A node with nothing but a route has no labels. -/
theorem parted_route (i : Nat) : Parted [.route i] :=
  .node (by simp) (List.isChain_singleton _) (by simp)

/-- A node with a single branch is parted if its label is not empty and what is below it is
parted. -/
theorem parted_branch_iff {label : Bytes} {below : Trie} :
    Parted [.branch label below] ↔ label ≠ [] ∧ Parted below := by
  constructor
  · rintro ⟨hlabels, -, hbelow⟩
    exact ⟨hlabels _ _ List.mem_cons_self, hbelow _ _ List.mem_cons_self⟩
  · rintro ⟨hne, hbelow⟩
    refine .node (fun _ _ hmem => ?_) (List.isChain_singleton _) fun _ _ hmem => ?_
    · cases List.mem_singleton.mp hmem
      exact hne
    · cases List.mem_singleton.mp hmem
      exact hbelow

/-- Items that are put one behind the other have to be apart where they meet. -/
theorem parted_append_iff {t u : Trie} :
    Parted (t ++ u)
      ↔ Parted t ∧ Parted u ∧ ∀ x ∈ t.getLast?, ∀ y ∈ u.head?, Apart x y := by
  constructor
  · rintro ⟨hlabels, hapart, hbelow⟩
    obtain ⟨ht, hu, hmeet⟩ := List.isChain_append.mp hapart
    exact ⟨.node (fun l b hmem => hlabels l b (List.mem_append_left u hmem)) ht
        fun l b hmem => hbelow l b (List.mem_append_left u hmem),
      .node (fun l b hmem => hlabels l b (List.mem_append_right t hmem)) hu
        fun l b hmem => hbelow l b (List.mem_append_right t hmem), hmeet⟩
  · rintro ⟨⟨htlabels, ht, htbelow⟩, ⟨hulabels, hu, hubelow⟩, hmeet⟩
    refine .node (fun l b hmem => ?_) (List.isChain_append.mpr ⟨ht, hu, hmeet⟩) fun l b hmem => ?_
    · exact (List.mem_append.mp hmem).elim (htlabels l b) (hulabels l b)
    · exact (List.mem_append.mp hmem).elim (htbelow l b) (hubelow l b)

/-- Texts that share no byte at the front begin with different bytes. -/
theorem ne_of_common_eq_zero {x y : UInt8} {xs ys : Bytes}
    (h : common (x :: xs) (y :: ys) = 0) : x ≠ y := by
  rintro rfl
  rw [common, if_pos rfl] at h
  cases h

/-- What is left of a branch below a cut of its label. -/
theorem Parted.behind {label : Bytes} {below : Trie} (h : Parted below) (n : Nat) :
    Parted (Trie.behind label below n) := by
  rw [Trie.behind]
  split
  · rename_i hlt
    exact parted_branch_iff.mpr ⟨by simpa using hlt, h⟩
  · exact h

/-- Inserting a text leaves no label empty, and no neighbours that begin alike. -/
theorem Parted.insert {t : Trie} (h : Parted t) (i : Nat) (text : Bytes) :
    Parted (t.insert i text) := by
  -- The three ways of inserting: behind all items, as a branch of its own, and below a shared
  -- front.
  induction text, t using insert_induction i with
  | empty t hinsert =>
    rw [hinsert]
    refine parted_append_iff.mpr ⟨h, parted_route i, fun x _ y hy => ?_⟩
    obtain rfl : .route i = y := Option.some.inj hy
    exact apart_route x i
  | apart text t hne hnone hinsert =>
    have hleaf : Parted [leaf text i] := parted_branch_iff.mpr ⟨hne, parted_route i⟩
    rw [hinsert]
    refine parted_append_iff.mpr ⟨h, hleaf, fun x hx y hy => ?_⟩
    obtain rfl := Option.some.inj hy
    cases x with
    | route j => trivial
    | branch label below =>
      -- The last label is not empty, and its first byte is another one than that of the text.
      obtain ⟨front, rfl⟩ := List.getLast?_eq_some_iff.mp (Option.mem_def.mp hx)
      obtain ⟨-, hbranch, -⟩ := parted_append_iff.mp h
      obtain ⟨c, cs, rfl⟩ := List.exists_cons_of_ne_nil (parted_branch_iff.mp hbranch).1
      obtain ⟨b, bs, rfl⟩ := List.exists_cons_of_ne_nil hne
      intro heq
      exact ne_of_common_eq_zero (hnone _ _ hx) (Option.some.inj heq)
  | shared text front label below n hn _ _ _ hinsert ih =>
    obtain ⟨hfront, hbranch, hmeet⟩ := parted_append_iff.mp h
    obtain ⟨hlabel, hbelow⟩ := parted_branch_iff.mp hbranch
    rw [hinsert]
    refine parted_append_iff.mpr ⟨hfront, parted_branch_iff.mpr ⟨?_, ih (hbelow.behind n)⟩,
      fun x hx y hy => ?_⟩
    · simpa using ⟨hn, hlabel⟩
    · -- The front of the label begins as the label did.
      obtain rfl := Option.some.inj hy
      have happart := hmeet x hx _ rfl
      cases x with
      | route j => trivial
      | branch label' below' =>
        rwa [Apart, List.head?_take, if_neg hn]

/-- The tree of a list of texts is parted, since it is built by inserting them one by one. -/
theorem parted_ofTexts (texts : List Bytes) : Parted (ofTexts texts) := by
  induction texts using List.reverseRecOn with
  | nil => exact parted_nil
  | append_singleton texts text ih =>
    rw [ofTexts_concat]
    exact ih.insert texts.length text

/-- The tree of a list of texts stands for the list. A walk meets the routes in order, each once.
The labels on the way to a route spell its text, and there is a way to every route. No label is
empty, and branches next to each other begin with different bytes, at every depth. -/
theorem ofTexts_represents (texts : List Bytes) :
    walk (ofTexts texts) = List.range texts.length
      ∧ (∀ labels i, Way (ofTexts texts) labels i → texts[i]? = some labels.flatten)
      ∧ (∀ i text, texts[i]? = some text →
          ∃ labels, Way (ofTexts texts) labels i ∧ labels.flatten = text)
      ∧ Parted (ofTexts texts) := by
  -- The entries of the tree are the texts with their numbers, and ways spell entries.
  refine ⟨walk_ofTexts texts, fun labels i hway => ?_, fun i text hi => ?_, parted_ofTexts texts⟩
  · have hmem := mem_entries_iff.mpr ⟨labels, hway, rfl⟩
    rwa [entries_ofTexts, List.mem_zipIdx_iff_getElem?] at hmem
  · refine mem_entries_iff.mp ?_
    rwa [entries_ofTexts, List.mem_zipIdx_iff_getElem?]

-- Branches that begin alike stay two if a route stands between them: its turn comes between theirs.
example : ofTexts [[0x2F], [], [0x2F]] = [leaf [0x2F] 0, .route 1, leaf [0x2F] 2] := by cbv

end Trie

end HttpMux
