import HttpMux.Bytes

/-!
# `HttpMux.Route.Trie`: routes by the texts that their paths begin with

Texts are inserted in the order of the table. A text can only join the last branch of a node, so a
walk in depth-first order meets the routes in the order of the table.

- `Trie.ofTexts`: the tree of the given texts.
- `Trie.walk`: the routes in depth-first order.
-/

set_option autoImplicit false

namespace HttpMux

/-- One thing at a node: a route whose text ends here, or a branch for the texts that go on with
the bytes of its label. -/
inductive TrieItem
  | route (index : Nat)
  | branch (label : Bytes) (below : List TrieItem)
  deriving Inhabited

/-- A node with its items in order. -/
abbrev Trie := List TrieItem

namespace Trie

/-- The number of bytes in which two texts agree at the front. -/
def common : Bytes → Bytes → Nat
  | x :: xs, y :: ys => if x = y then common xs ys + 1 else 0
  | _, _ => 0

/-- A branch with one route below it. -/
def leaf (label : Bytes) (index : Nat) : TrieItem := .branch label [.route index]

/-- The node with the route `index` under the text. If the last branch begins with the same byte,
the text goes below it, and the branch is split where the two part. -/
def insert (index : Nat) (text : Bytes) (t : Trie) : Trie :=
  match text with
  | [] => t ++ [.route index]
  | b :: bs =>
    match t.getLast? with
    | some (.branch label below) =>
      let n := common label (b :: bs)
      if h : n = 0 then t ++ [leaf (b :: bs) index]
      else
        let below := if n < label.length then [.branch (label.drop n) below] else below
        t.dropLast ++ [.branch (label.take n) (insert index ((b :: bs).drop n) below)]
    | _ => t ++ [leaf (b :: bs) index]
termination_by text.length
decreasing_by rw [List.length_drop, List.length_cons]; omega

/-- The tree of texts; the route of each has its place in the list as its number. -/
def ofTexts (texts : List Bytes) : Trie :=
  texts.zipIdx.foldl (fun t (text, i) => t.insert i text) []

mutual

/-- The routes of an item in depth-first order. -/
def walkItem : TrieItem → List Nat
  | .route i => [i]
  | .branch _ below => walk below

/-- The routes of a node in depth-first order. -/
def walk : Trie → List Nat
  | [] => []
  | x :: t => walkItem x ++ walk t

end

end Trie

end HttpMux
