import HttpMux.Route.Trie
import HttpMux.Text.Quoted

/-!
# `HttpMux.Route.Program`: tables compiled into instructions

A program tests a path with a cursor. An instruction compares up to three bytes at the cursor, sets
the cursor, or tries a route. A comparison that fails jumps over all routes below its branch.

- `Program.ofTexts`: the program of the texts that the paths of the routes begin with.
-/

set_option autoImplicit false

namespace HttpMux

/-- Where a program goes on when a comparison fails. -/
inductive Target
  | index (i : Nat)
  | fail
  deriving DecidableEq, Repr

/-- A step of a program. A comparison that succeeds moves the cursor behind its bytes. -/
inductive Instruction
  | literal (bytes : Bytes) (onMismatch : Target)
  | setCursor (offset : Nat)
  | route (index : Nat)
  deriving DecidableEq, Repr

/-- How a target is shown. -/
def Target.text : Target → String
  | .index i => "Index(" ++ toString i ++ ")"
  | .fail => "Fail"

/-- How an instruction is shown. -/
def Instruction.text : Instruction → String
  | .literal bytes onMismatch =>
    "Literal(" ++ Text.quoted (Bytes.lossyText bytes) ++ ", else " ++ onMismatch.text ++ ")"
  | .setCursor offset => "SetCursor(" ++ toString offset ++ ")"
  | .route index => "Route(" ++ toString index ++ ")"

/-- Whether an instruction only moves the cursor. -/
def Instruction.isReset : Instruction → Bool
  | .setCursor _ => true
  | _ => false

/-- An instruction of a program with `size` instructions; a jump past the end is a failure. -/
def Instruction.bounded (size : Nat) : Instruction → Instruction
  | .literal bytes (.index i) => .literal bytes (if size ≤ i then .fail else .index i)
  | i => i

/-- A compiled table. -/
abbrev Program := List Instruction

namespace Program

/-- The greatest number of bytes that an instruction compares. -/
def chunkSize : Nat := 3

/-- The bytes in pieces of the chunk size; the last one may be shorter. -/
def chunks (bs : Bytes) : List Bytes :=
  match bs with
  | [] => []
  | b :: bs => (b :: bs).take chunkSize :: chunks ((b :: bs).drop chunkSize)
termination_by bs.length
decreasing_by rw [List.length_drop, List.length_cons, chunkSize]; omega

/-- The comparisons of a label. The cursor has not moved when the first one fails; when a later one
fails it must be reset first. -/
def comparisons (after reset : Nat) (label : Bytes) : List Instruction :=
  match chunks label with
  | [] => []
  | first :: later => .literal first (.index after) :: later.map fun c => .literal c (.index reset)

mutual

/-- The instructions of an item at instruction `base` and path offset `depth`. The cursor is reset
behind a branch unless the item is the last of its node. -/
def emitItem (base depth : Nat) (last : Bool) : TrieItem → List Instruction
  | .route i => [.route i]
  | .branch label below =>
    let count := (chunks label).length
    let inner := emit (base + count) (depth + label.length) below
    let reset := base + count + inner.length
    let resets := if last then [] else [.setCursor depth]
    comparisons (reset + resets.length) reset label ++ inner ++ resets

/-- The instructions of a node at instruction `base` and path offset `depth`. -/
def emit (base depth : Nat) : Trie → List Instruction
  | [] => []
  | x :: t =>
    let first := emitItem base depth t.isEmpty x
    first ++ emit (base + first.length) depth t

end

/-- The instructions without the resets at the end. -/
def trimmed (is : List Instruction) : Program :=
  let kept := (is.reverse.dropWhile Instruction.isReset).reverse
  kept.map (Instruction.bounded kept.length)

/-- The program of a tree. -/
def ofTrie (t : Trie) : Program := trimmed (emit 0 0 t)

/-- The program of the texts that the paths of the routes begin with. -/
def ofTexts (texts : List Bytes) : Program := ofTrie (Trie.ofTexts texts)

end Program

end HttpMux
