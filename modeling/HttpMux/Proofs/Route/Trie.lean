import HttpMux.Route.Engine
import Mathlib.Data.List.Induction

/-!
# `HttpMux.Proofs.Route.Trie`: the routes that a tree offers a path

The tree of a table keeps, for every path, the routes whose text the path begins with, in the
order of the table.

* `Trie.under`: the routes below the branches that a path can follow.
* `Trie.insert_induction`: the ways in which a text can be inserted, once for all proofs.
* `Trie.under_insert`: a text inserted last adds its route at the end, if the path begins with it.
* `Trie.under_ofTexts`: the tree of a list of texts offers a path exactly the places of the texts
  that the path begins with, in ascending order.
-/

set_option autoImplicit false

namespace HttpMux

namespace Trie

/-! ### Following a path -/

mutual

/-- The routes of an item whose texts a path begins with, in depth-first order. -/
def underItem (path : Bytes) : TrieItem → List Nat
  | .route i => [i]
  | .branch label below =>
    if label.isPrefixOf path then under (path.drop label.length) below else []

/-- The routes of a node whose texts a path begins with, in depth-first order. -/
def under (path : Bytes) : Trie → List Nat
  | [] => []
  | x :: t => underItem path x ++ under path t

end

/-- A route is offered to every path that reaches it. -/
@[simp]
theorem underItem_route (path : Bytes) (i : Nat) : underItem path (.route i) = [i] := by
  rw [underItem]

/-- A branch offers what is below it to the paths that go on with its label. -/
theorem underItem_branch (path label : Bytes) (below : Trie) :
    underItem path (.branch label below)
      = if label.isPrefixOf path then under (path.drop label.length) below else [] := by
  rw [underItem]

/-- An empty node offers nothing. -/
@[simp]
theorem under_nil (path : Bytes) : under path [] = [] := by
  rw [under]

/-- A node offers what its items offer, in their order. -/
@[simp]
theorem under_cons (path : Bytes) (x : TrieItem) (t : Trie) :
    under path (x :: t) = underItem path x ++ under path t := by
  rw [under]

/-- The items of two lists are offered in order. -/
@[simp]
theorem under_append (path : Bytes) (t u : Trie) :
    under path (t ++ u) = under path t ++ under path u := by
  induction t with
  | nil => simp
  | cons x t ih => simp [ih]

/-- The only route of a leaf. -/
theorem underItem_leaf (path label : Bytes) (i : Nat) :
    underItem path (leaf label i) = if label.isPrefixOf path then [i] else [] := by
  rw [leaf, underItem_branch, under_cons, underItem_route, under_nil, List.append_nil]

/-! ### Splitting labels -/

/-- Two texts agree up to their common length. -/
theorem take_common (xs ys : Bytes) : xs.take (common xs ys) = ys.take (common xs ys) := by
  fun_induction common xs ys with
  | case1 x xs ys ih => rw [List.take_succ_cons, List.take_succ_cons, ih]
  | case2 x xs y ys h => rfl
  | case3 xs ys h => simp

/-- The common bytes are no more than the first text has. -/
theorem common_le_left (xs ys : Bytes) : common xs ys ≤ xs.length := by
  fun_induction common xs ys with
  | case1 x xs ys ih => rw [List.length_cons]; omega
  | case2 x xs y ys h => omega
  | case3 xs ys h => omega

/-- The common bytes are no more than the second text has. -/
theorem common_le_right (xs ys : Bytes) : common xs ys ≤ ys.length := by
  fun_induction common xs ys with
  | case1 x xs ys ih => rw [List.length_cons]; omega
  | case2 x xs y ys h => omega
  | case3 xs ys h => omega

/-- A path begins with a text if it begins with the front of the text and goes on with the rest. -/
theorem isPrefixOf_split (xs path : Bytes) {n : Nat} (hn : n ≤ xs.length) :
    xs.isPrefixOf path
      = ((xs.take n).isPrefixOf path && (xs.drop n).isPrefixOf (path.drop n)) := by
  rw [Bool.eq_iff_iff, Bool.and_eq_true]
  simp only [List.isPrefixOf_iff_prefix]
  have hlen : (xs.take n).length = n := List.length_take_of_le hn
  constructor
  · rintro ⟨rest, rfl⟩
    refine ⟨(List.take_prefix n xs).trans (List.prefix_append xs rest), ?_⟩
    rw [List.drop_append_of_le_length hn]
    exact List.prefix_append _ _
  · rintro ⟨⟨rest, rfl⟩, hdrop⟩
    have hrest : (xs.take n ++ rest).drop n = rest := List.drop_left' hlen
    rw [hrest] at hdrop
    have h := (List.prefix_append_right_inj (xs.take n)).mpr hdrop
    rwa [List.take_append_drop] at h

/-- A branch split in two keeps its routes. -/
theorem under_split (path label : Bytes) (below : Trie) {n : Nat} (hn : n ≤ label.length)
    (hpath : (label.take n).isPrefixOf path) :
    under (path.drop n) [.branch (label.drop n) below]
      = underItem path (.branch label below) := by
  rw [under_cons, under_nil, List.append_nil, underItem_branch, underItem_branch,
    isPrefixOf_split label path hn, hpath, Bool.true_and, List.drop_drop, List.length_drop,
    Nat.add_sub_cancel' hn]

/-! ### Inserting texts -/

/-- A text that ends at a node adds its route behind all items of the node. -/
theorem insert_nil (i : Nat) (t : Trie) : insert i [] t = t ++ [.route i] := by
  rw [insert]

/-- What is left below the first `n` bytes of the label of a branch. -/
def behind (label : Bytes) (below : Trie) (n : Nat) : Trie :=
  if n < label.length then [.branch (label.drop n) below] else below

/-- Where the last branch shares bytes with a text, the text goes below the shared bytes. -/
theorem insert_cons_of_common (i : Nat) (b : UInt8) (bs label : Bytes) (front below : Trie)
    (hn : common label (b :: bs) ≠ 0) :
    let n := common label (b :: bs)
    insert i (b :: bs) (front ++ [.branch label below])
      = front ++ [.branch (label.take n) (insert i ((b :: bs).drop n) (behind label below n))] := by
  rw [insert, List.getLast?_concat]
  simp only [dif_neg hn, List.dropLast_concat, behind]

/-- Where the last item shares no byte with a text, the text gets a branch of its own. -/
theorem insert_cons_of_no_common (i : Nat) (b : UInt8) (bs : Bytes) (t : Trie)
    (h : ∀ label below, t.getLast? = some (.branch label below) → common label (b :: bs) = 0) :
    insert i (b :: bs) t = t ++ [leaf (b :: bs) i] := by
  rw [insert]
  split
  · rename_i label below hlast
    simp only [dif_pos (h label below hlast)]
  · rfl

/-- The ways in which a text can be inserted, as an induction. The text is empty; or it shares no
byte with the last item and gets a branch of its own; or it goes below the `n` bytes that it shares
with the last branch. It gets shorter from node to node. -/
theorem insert_induction (i : Nat) {motive : Bytes → Trie → Prop}
    (empty : ∀ t, insert i [] t = t ++ [.route i] → motive [] t)
    (apart : ∀ text t, text ≠ [] →
      (∀ label below, t.getLast? = some (.branch label below) → common label text = 0) →
      insert i text t = t ++ [leaf text i] → motive text t)
    (shared : ∀ text front label below n, n ≠ 0 → n ≤ label.length → n ≤ text.length →
      label.take n = text.take n →
      insert i text (front ++ [.branch label below])
        = front ++ [.branch (label.take n) (insert i (text.drop n) (behind label below n))] →
      motive (text.drop n) (behind label below n) → motive text (front ++ [.branch label below]))
    (text : Bytes) (t : Trie) : motive text t := by
  -- Below a shared label at least one byte of the text is gone, so the length of the text goes
  -- down.
  induction hlen : text.length using Nat.strongRecOn generalizing text t with
  | _ len ih =>
    cases text with
    | nil => exact empty t (insert_nil i t)
    | cons b bs =>
      by_cases h : ∃ label below, t.getLast? = some (.branch label below) ∧
          common label (b :: bs) ≠ 0
      · obtain ⟨label, below, hlast, hn⟩ := h
        obtain ⟨front, rfl⟩ := List.getLast?_eq_some_iff.mp hlast
        refine shared (b :: bs) front label below _ hn (common_le_left _ _) (common_le_right _ _)
          (take_common _ _) (insert_cons_of_common i b bs label front below hn) (ih _ ?_ _ _ rfl)
        rw [List.length_drop, ← hlen, List.length_cons]
        omega
      · have hnone := fun label below hlast =>
          Classical.not_not.mp fun hn => h ⟨label, below, hlast, hn⟩
        exact apart (b :: bs) t (List.cons_ne_nil b bs) hnone
          (insert_cons_of_no_common i b bs t hnone)

/-- The tree of a list of texts is built text by text. -/
theorem ofTexts_concat (texts : List Bytes) (text : Bytes) :
    ofTexts (texts ++ [text]) = insert texts.length text (ofTexts texts) := by
  rw [ofTexts, List.zipIdx_append, List.foldl_append]
  simp [ofTexts]

/-- A branch that is cut where a text leaves its label, and gets the rest of the text below the
cut, offers its routes as before, and then the route of the text. -/
theorem under_cut {path label text : Bytes} {below below' : Trie} {i n : Nat}
    (hlabel : n ≤ label.length) (htext : n ≤ text.length)
    (hshared : label.take n = text.take n)
    (hbelow : under (path.drop n) below'
      = under (path.drop n) (behind label below n)
        ++ if (text.drop n).isPrefixOf (path.drop n) then [i] else []) :
    underItem path (.branch (label.take n) below')
      = underItem path (.branch label below) ++ if text.isPrefixOf path then [i] else [] := by
  rw [underItem_branch, List.length_take_of_le hlabel, hbelow, isPrefixOf_split text path htext,
    ← hshared]
  by_cases hpath : (label.take n).isPrefixOf path
  · rw [if_pos hpath, hpath, Bool.true_and, behind]
    congr 1
    split
    · exact under_split path label below hlabel hpath
    · -- The text goes on where the whole label ends.
      have hwhole : n = label.length := by omega
      rw [hwhole, List.take_length] at hpath
      rw [underItem_branch, if_pos hpath, hwhole]
  · -- The path leaves the label before the cut, so it sees neither part, nor the text.
    rw [if_neg hpath, underItem_branch, isPrefixOf_split label path hlabel,
      Bool.eq_false_iff.mpr hpath]
    simp

/-- A text inserted last adds its route at the end for the paths that begin with it. -/
theorem under_insert (path : Bytes) (i : Nat) (text : Bytes) (t : Trie) :
    under path (insert i text t)
      = under path t ++ if text.isPrefixOf path then [i] else [] := by
  induction text, t using insert_induction i generalizing path with
  | empty t hinsert => simp [hinsert]
  | apart text t _ _ hinsert =>
    rw [hinsert, under_append, under_cons, under_nil, List.append_nil, underItem_leaf]
  | shared text front label below n _ hlabel htext hshared hinsert ih =>
    rw [hinsert, under_append, under_append, under_cons, under_cons, under_nil, List.append_nil,
      List.append_nil, List.append_assoc]
    congr 1
    exact under_cut hlabel htext hshared (ih (path.drop n))

/-- The tree of a table offers a path the places of the texts that it begins with. -/
theorem under_ofTexts (path : Bytes) (texts : List Bytes) :
    under path (ofTexts texts) = Program.considered path texts := by
  -- The tree is built text by text, so the induction takes the last one off.
  induction texts using List.reverseRecOn with
  | nil => exact under_nil path
  | append_singleton texts text ih =>
    rw [ofTexts_concat, under_insert, ih, Program.considered, Program.considered,
      List.zipIdx_append, List.filter_append, List.map_append]
    congr 1
    by_cases h : text.isPrefixOf path <;> simp [h]

end Trie

end HttpMux
