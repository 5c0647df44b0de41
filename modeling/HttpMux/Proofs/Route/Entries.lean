import HttpMux.Proofs.Route.Trie

/-!
# `HttpMux.Proofs.Route.Entries`: the texts that a tree spells

On the way from the root of a tree to a route, the labels of the branches spell a text. The tree of
a list of texts spells exactly these texts, in their order.

* `Trie.entries`: the routes in depth-first order, each with the text that is spelled on the way.
* `Trie.entries_insert`: a text inserted last adds one entry at the end.
* `Trie.entries_ofTexts`: the tree of a list of texts has an entry for each text, with its place.
* `Trie.map_snd_entries`: without the texts, the entries are what a walk meets.
-/

set_option autoImplicit false

namespace HttpMux

namespace Trie

mutual

/-- The routes of an item with the texts that are spelled on the way, in depth-first order. `text`
is spelled on the way to the item. -/
def entriesItem (text : Bytes) : TrieItem → List (Bytes × Nat)
  | .route i => [(text, i)]
  | .branch label below => entries (text ++ label) below

/-- The routes of a node with the texts that are spelled on the way, in depth-first order. `text`
is spelled on the way to the node. -/
def entries (text : Bytes) : Trie → List (Bytes × Nat)
  | [] => []
  | x :: t => entriesItem text x ++ entries text t

end

/-- A route is an entry of its own, with the text on the way to it. -/
@[simp]
theorem entriesItem_route (text : Bytes) (i : Nat) : entriesItem text (.route i) = [(text, i)] := by
  rw [entriesItem]

/-- The label of a branch is added to the text on the way. -/
@[simp]
theorem entriesItem_branch (text label : Bytes) (below : Trie) :
    entriesItem text (.branch label below) = entries (text ++ label) below := by
  rw [entriesItem]

/-- A node without items has no entries. -/
@[simp]
theorem entries_nil (text : Bytes) : entries text [] = [] := by
  rw [entries]

/-- The entries of the first item come before those of the others. -/
@[simp]
theorem entries_cons (text : Bytes) (x : TrieItem) (t : Trie) :
    entries text (x :: t) = entriesItem text x ++ entries text t := by
  rw [entries]

/-- The entries of two nodes side by side are those of the first and then those of the second. -/
@[simp]
theorem entries_append (text : Bytes) (t u : Trie) :
    entries text (t ++ u) = entries text t ++ entries text u := by
  induction t with
  | nil => simp
  | cons x t ih => simp [ih]

/-- A branch split in two spells what it spelled. -/
theorem entries_behind (text label : Bytes) (below : Trie) {n : Nat} (hn : n ≤ label.length) :
    entries (text ++ label.take n) (behind label below n)
      = entriesItem text (.branch label below) := by
  rw [behind]
  split
  · simp [List.append_assoc, List.take_append_drop]
  · rw [List.take_of_length_le (by omega), entriesItem_branch]

/-- A text inserted last adds one entry at the end. -/
theorem entries_insert (text : Bytes) (i : Nat) (added : Bytes) (t : Trie) :
    entries text (insert i added t) = entries text t ++ [(text ++ added, i)] := by
  -- The text on the way differs from level to level, so the induction is for any.
  induction added, t using insert_induction i generalizing text with
  | empty t hinsert => simp [hinsert]
  | apart added t _ _ hinsert => simp [hinsert, leaf]
  | shared added front label below n _ hlabel _ hshared hinsert ih =>
    -- The front half of the label spells what the label and the text share, and the insertion goes
    -- on with what is left of the text.
    have hspelled : text ++ label.take n ++ added.drop n = text ++ added := by
      rw [hshared, List.append_assoc, List.take_append_drop]
    rw [hinsert, entries_append, entries_append, entries_cons, entries_cons, entries_nil,
      List.append_nil, List.append_nil, entriesItem_branch, ih, hspelled,
      entries_behind text label below hlabel, List.append_assoc]

/-- The tree of a list of texts spells these texts, in their order. -/
theorem entries_ofTexts (texts : List Bytes) : entries [] (ofTexts texts) = texts.zipIdx := by
  induction texts using List.reverseRecOn with
  | nil => exact entries_nil []
  | append_singleton texts text ih =>
    rw [ofTexts_concat, entries_insert, ih, List.zipIdx_append]
    simp

mutual

/-- Without the texts, the entries of an item are the routes that a walk meets in it. -/
theorem map_snd_entriesItem (text : Bytes) (x : TrieItem) :
    (entriesItem text x).map Prod.snd = walkItem x := by
  match x with
  | .route i => rw [entriesItem, walkItem]; rfl
  | .branch label below => rw [entriesItem, walkItem, map_snd_entries]

/-- Without the texts, the entries are the routes that a walk meets. -/
theorem map_snd_entries (text : Bytes) (t : Trie) : (entries text t).map Prod.snd = walk t := by
  match t with
  | [] => rw [entries, walk]; rfl
  | x :: t => rw [entries, walk, List.map_append, map_snd_entriesItem, map_snd_entries]

end

/-- A walk meets the routes of a list of texts in their order, each once. -/
theorem walk_ofTexts (texts : List Bytes) : walk (ofTexts texts) = List.range texts.length := by
  rw [← map_snd_entries [], entries_ofTexts, List.zipIdx_map_snd, List.range_eq_range']

end Trie

end HttpMux
