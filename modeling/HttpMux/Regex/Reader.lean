import HttpMux.Regex.Tree
import HttpMux.Text.Blank

/-!
# `HttpMux.Regex.Reader`: reading a regular expression

An expression is read by recursive descent. Flags change while it is read: a flag group in the
middle holds up to the end of the enclosing group, and flags of a group hold inside it. Group
numbers follow the order of the opening parentheses.

- `Regex.Properties`: the sets of characters that can be given by the name of a Unicode property.
- `Regex.parse?`: the expression that a text spells. Nothing if it spells none.

The tables of Unicode properties are not part of this library. Whoever reads expressions says which
properties there are; a name that stands for none is an error.
-/

set_option autoImplicit false

namespace HttpMux.Regex

/-- The flags that can be switched inside an expression. -/
structure Flags where
  ignoreCase : Bool
  multiLine : Bool
  dotAll : Bool
  swapGreed : Bool
  crlf : Bool
  unicode : Bool
  ignoreSpace : Bool
  deriving DecidableEq, Repr

/-- The flags in force at the start of an expression. -/
def Flags.initial : Flags := ⟨false, false, false, false, false, true, false⟩

/-- The flags with the one of the given letter set; nothing for another letter. -/
def Flags.set? (f : Flags) (c : Char) (on : Bool) : Option Flags :=
  match c with
  | 'i' => some { f with ignoreCase := on }
  | 'm' => some { f with multiLine := on }
  | 's' => some { f with dotAll := on }
  | 'U' => some { f with swapGreed := on }
  | 'R' => some { f with crlf := on }
  | 'u' => some { f with unicode := on }
  | 'x' => some { f with ignoreSpace := on }
  | _ => none

/-- The sets of characters that queries for Unicode properties stand for. A query is a letter, such
as `L`, or the text of a name, with a value or without, such as `Greek` or `Script=Greek`. Nothing
for a text that names no property. -/
abbrev Properties := String → Option CharSet

/-- No text names a property. -/
def Properties.unknown : Properties := fun _ => none

/-- The state of reading: the text left, the flags in force, and the names of the groups opened so
far, the last one first. The properties that have names stay the same. -/
structure Reading where
  rest : List Char
  flags : Flags
  names : List (Option String)
  properties : Properties

/-- A reader consumes text and changes flags and groups, or refuses. -/
abbrev Reader (α : Type) := StateT Reading Option α

namespace Reader

/-! ### Characters -/

/-- The next character. -/
def peek? : Reader (Option Char) := do return (← get).rest.head?

/-- Drops the next characters. -/
def skip (n : Nat) : Reader Unit := modify fun s => { s with rest := s.rest.drop n }

/-- Takes the next character. -/
def next : Reader Char := do
  match (← get).rest with
  | c :: rest =>
    modify fun s => { s with rest }
    return c
  | [] => failure

/-- Takes the given characters, if they come next. -/
def accept (cs : List Char) : Reader Bool := do
  if cs.isPrefixOf (← get).rest then
    skip cs.length
    return true
  else return false

/-- Takes the given character, which must come next. -/
def expect (c : Char) : Reader Unit := do
  if (← next) ≠ c then failure

/-- The text behind white space and comments; a comment runs from `#` to the end of its line. -/
def skipBlanks (comment : Bool) : List Char → List Char
  | [] => []
  | c :: cs =>
    if comment then skipBlanks (c ≠ '\n') cs
    else if Text.isBlank c then skipBlanks false cs
    else if c = '#' then skipBlanks true cs
    else c :: cs

/-- Drops white space and comments, where they are ignored. -/
def space : Reader Unit :=
  modify fun s => if s.flags.ignoreSpace then { s with rest := skipBlanks false s.rest } else s

/-- Takes the next character and the ignored space behind it. -/
def nextSpaced : Reader Char := do
  let c ← next
  space
  return c

/-- Refuses unless there is text left. -/
def more : Reader Unit := do
  if (← get).rest.isEmpty then failure

/-! ### Flags, names and numbers -/

/-- Reads flag letters up to a colon or a closing parenthesis, and changes the flags. A flag may
occur once, and so may the minus sign, which must have a flag behind it. -/
def flagLetters : Nat → List Char → Bool → Reader (List Char)
  | 0, _, _ => failure
  | fuel + 1, seen, negated => do
    match ← peek? with
    | none => failure
    | some c =>
      if c = ':' ∨ c = ')' then
        if seen.head? = some '-' then failure else return seen
      else
        skip 1
        if c = '-' then
          if negated then failure
          flagLetters fuel (c :: seen) true
        else
          if c ∈ seen then failure
          match (← get).flags.set? c (!negated) with
          | none => failure
          | some flags =>
            modify fun s => { s with flags }
            flagLetters fuel (c :: seen) negated

/-- Whether a character may stand in the name of a group. -/
def isNameChar (first : Bool) (c : Char) : Bool :=
  let letter := c.isAlpha || (0x80 ≤ c.toNat && CharSet.words.mem c && !CharSet.digits.mem c)
  if first then c = '_' || letter
  else c = '_' || c = '.' || c = '[' || c = ']' || letter || CharSet.digits.mem c

/-- Reads the name of a group with the angle bracket behind it. A name is used once. -/
def groupName : Reader String := do
  let name := (← get).rest.takeWhile (· ≠ '>')
  match name with
  | [] => failure
  | c :: cs =>
    if isNameChar true c ∧ cs.all (isNameChar false) then
      skip name.length
      expect '>'
      let name := String.ofList name
      if some name ∈ (← get).names then failure
      return name
    else failure

/-- The value of a hexadecimal digit. -/
def hexDigit? (c : Char) : Option Nat :=
  if '0' ≤ c ∧ c ≤ '9' then some (c.toNat - 0x30)
  else if 'a' ≤ c ∧ c ≤ 'f' then some (c.toNat - 0x61 + 10)
  else if 'A' ≤ c ∧ c ≤ 'F' then some (c.toNat - 0x41 + 10)
  else none

/-- The character with the given number. -/
def scalar (n : Nat) : Reader Char :=
  if n < 0xD800 ∨ (0xDFFF < n ∧ n ≤ 0x10FFFF) then pure (Char.ofNat n) else failure

/-- Reads `count` hexadecimal digits onto `n`. -/
def hexDigits : Nat → Nat → Reader Nat
  | 0, n => pure n
  | count + 1, n => do
    space
    match hexDigit? (← next) with
    | some d => hexDigits count (n * 16 + d)
    | none => failure

/-- Reads hexadecimal digits onto `n`, up to the closing brace. -/
def bracedHex : Nat → Nat → Bool → Reader Nat
  | 0, _, _ => failure
  | fuel + 1, n, first => do
    let c ← nextSpaced
    if c = '\x7d' then
      if first then failure else return n
    else
      match hexDigit? c with
      | some d => if 0x110000 ≤ n then failure else bracedHex fuel (n * 16 + d) false
      | none => failure

/-- Reads a character given by number, behind `\x`, `\u` or `\U`. -/
def numbered (kind : Char) : Reader Char := do
  space
  if ← accept ['\x7b'] then
    space
    scalar (← bracedHex ((← get).rest.length + 1) 0 true)
  else scalar (← hexDigits (if kind = 'x' then 2 else if kind = 'u' then 4 else 8) 0)

/-- Reads decimal digits onto `n`. -/
def decimalDigits : Nat → Option Nat → Reader (Option Nat)
  | 0, _ => failure
  | fuel + 1, n => do
    match ← peek? with
    | some c =>
      if '0' ≤ c ∧ c ≤ '9' then
        skip 1
        space
        decimalDigits fuel (some (n.getD 0 * 10 + (c.toNat - 0x30)))
      else return n
    | none => return n

/-- Reads a number of repetitions, with blanks around it. It is missing if there is no digit. -/
def decimal : Reader (Option Nat) := do
  let trimStart : Reader Unit := modify fun s => { s with rest := s.rest.dropWhile Text.isBlank }
  trimStart
  let n ← decimalDigits ((← get).rest.length + 1) none
  trimStart
  match n with
  | some n => if n < Nat.pow 2 32 then return some n else failure
  | none => return none

/-! ### Single characters, sets and conditions -/

/-- What a backslash or a lone character can stand for. -/
inductive Atom
  | char (c : Char)
  | set (s : CharSet)
  | look (l : Look)

/-- A named set or its complement. Without Unicode a complement would split characters. -/
def named (unicodeSet asciiSet : CharSet) (negated : Bool) : Reader Atom := do
  if (← get).flags.unicode then return .set (if negated then unicodeSet.compl else unicodeSet)
  else if negated then failure
  else return .set asciiSet

/-- Closes a set under case where case is ignored. -/
def folded (s : CharSet) : Reader CharSet := do
  return if (← get).flags.ignoreCase then s.closeCase else s

/-- Reads a query for a property up to the closing brace. Ignored space is no part of it. -/
def bracedQuery : Nat → List Char → Reader String
  | 0, _ => failure
  | fuel + 1, read => do
    space
    let c ← next
    if c = '\x7d' then return String.ofList read.reverse else bracedQuery fuel (c :: read)

/-- Reads a query for a property: one character, or a text in braces. -/
def query : Reader String := do
  space
  if ← accept ['\x7b'] then bracedQuery ((← get).rest.length + 1) []
  else
    let c ← next
    if c = '\\' then failure else return String.singleton c

/-- The set of a property, or its complement. Case is taken into account before. -/
def property (negated : Bool) : Reader Atom := do
  let name ← query
  let s ← get
  if !s.flags.unicode then failure
  match s.properties name with
  | none => failure
  | some set =>
    let set ← folded set
    return .set (if negated then set.compl else set)

/-- The characters that can be escaped and then stand for themselves. -/
def isEscapable (c : Char) : Bool := c.toNat < 0x80 && !c.isAlphanum && c ≠ '<' && c ≠ '>'

/-- Reads the kind of a word edge in braces behind `\b`. Braces that hold something else are left
for a repetition. -/
def edgeKind : Reader Look := do
  let unicode := (← get).flags.unicode
  let saved ← get
  if ← accept ['\x7b'] then
    space
    more
    let isPart (c : Char) : Bool := c.isAlpha || c = '-'
    match ← peek? with
    | some c =>
      if isPart c then
        let spaced := (← get).flags.ignoreSpace
        let inside := (← get).rest.takeWhile fun c => isPart c || (spaced && Text.isBlank c)
        skip inside.length
        expect '\x7d'
        match String.ofList (inside.filter isPart) with
        | "start" => return .wordStart unicode
        | "end" => return .wordEnd unicode
        | "start-half" => return .wordStartHalf unicode
        | "end-half" => return .wordEndHalf unicode
        | _ => failure
      else
        set saved
        return .wordEdge unicode
    | none => failure
  else return .wordEdge unicode

/-- Reads what stands behind a backslash. -/
def escape : Reader Atom := do
  let c ← next
  let unicode := (← get).flags.unicode
  match c with
  | 'x' | 'u' | 'U' => return .char (← numbered c)
  | 'd' => named CharSet.digits CharSet.asciiDigits false
  | 'D' => named CharSet.digits CharSet.asciiDigits true
  | 's' => named CharSet.blanks CharSet.asciiBlanks false
  | 'S' => named CharSet.blanks CharSet.asciiBlanks true
  | 'w' => named CharSet.words CharSet.asciiWords false
  | 'W' => named CharSet.words CharSet.asciiWords true
  | 'p' => property false
  | 'P' => property true
  | 'a' => return .char '\x07'
  | 'f' => return .char '\x0c'
  | 't' => return .char '\t'
  | 'n' => return .char '\n'
  | 'r' => return .char '\r'
  | 'v' => return .char '\x0b'
  | 'A' => return .look .textStart
  | 'z' => return .look .textEnd
  | 'b' => return .look (← edgeKind)
  | 'B' => return .look (.notWordEdge unicode)
  | '<' => return .look (.wordStart unicode)
  | '>' => return .look (.wordEnd unicode)
  | _ => if isEscapable c then return .char c else failure

/-! ### Sets in square brackets -/

/-- How two sets are combined. -/
inductive SetOp
  | inter
  | diff
  | symmDiff

/-- Combines the operand before an operator with the one behind it. -/
def combine (pending : Option (SetOp × CharSet)) (s : CharSet) : Reader CharSet := do
  match pending with
  | none => return s
  | some (op, left) =>
    let left ← folded left
    let right ← folded s
    return match op with
      | .inter => left.inter right
      | .diff => left.diff right
      | .symmDiff => left.symmDiff right

/-- Reads one character or named set inside brackets. -/
def setAtom : Reader Atom := do
  let c ← next
  if c = '\\' then escape else return .char c

/-- The next character behind the one that comes next, with ignored space between them. -/
def peekBehind? : Reader (Option Char) := do
  let s ← get
  let rest := s.rest.drop 1
  return (if s.flags.ignoreSpace then skipBlanks false rest else rest).head?

/-- Reads a character, a range or a named set inside brackets. -/
def setItem : Reader CharSet := do
  let first ← setAtom
  space
  more
  let behind ← peekBehind?
  if (← peek?) = some '-' ∧ behind ≠ some ']' ∧ behind ≠ some '-' then
    let _ ← nextSpaced
    more
    match first, ← setAtom with
    | .char lo, .char hi => if lo ≤ hi then return ⟨[(lo.toNat, hi.toNat)]⟩ else failure
    | _, _ => failure
  else
    match first with
    | .char c => return CharSet.single c.toNat
    | .set s => return s
    | .look _ => failure

/-- Reads a named set of ASCII characters such as `[:alpha:]`, if one comes next. -/
def asciiSet? : Reader (Option CharSet) := do
  let saved ← get
  if ← accept ['[', ':'] then
    let negated ← accept ['^']
    let name := (← get).rest.takeWhile (· ≠ ':')
    skip name.length
    if ← accept [':', ']'] then
      match CharSet.ascii? (String.ofList name) with
      | some s =>
        if negated then
          if (← get).flags.unicode then return some (← folded s).compl else failure
        else return some s
      | none =>
        set saved
        return none
    else
      set saved
      return none
  else return none

/-- Reads hyphens in front of a set; each stands for itself. -/
def hyphens : Nat → CharSet → Reader CharSet
  | 0, _ => failure
  | fuel + 1, s => do
    if (← peek?) = some '-' then
      let _ ← nextSpaced
      more
      hyphens fuel (s.union (CharSet.single 0x2D))
    else return s

mutual

/-- Reads a set behind its opening bracket. -/
def bracketed : Nat → Reader CharSet
  | 0 => failure
  | fuel + 1 => do
    space
    more
    let negated ← accept ['^']
    if negated then
      space
      more
    let start ← hyphens ((← get).rest.length + 1) CharSet.empty
    let start ← if start == CharSet.empty ∧ (← peek?) = some ']' then do
        let _ ← nextSpaced
        more
        pure (CharSet.single 0x5D)
      else pure start
    let s ← folded (← setItems fuel none start)
    if (← get).flags.unicode then return if negated then s.compl else s
    else if negated ∨ s.ranges.any (fun r => 0x7F < r.2) then failure
    else return s

/-- Reads the members of a set up to its closing bracket. `pending` is an operator with its left
operand, and `s` has the members read behind it. -/
def setItems : Nat → Option (SetOp × CharSet) → CharSet → Reader CharSet
  | 0, _, _ => failure
  | fuel + 1, pending, s => do
    space
    more
    if (← peek?) = some '[' then
      match ← asciiSet? with
      | some t => setItems fuel pending (s.union t)
      | none =>
        skip 1
        let t ← bracketed fuel
        setItems fuel pending (s.union t)
    else if ← accept [']'] then combine pending s
    else if ← accept ['&', '&'] then
      setItems fuel (some (.inter, ← combine pending s)) CharSet.empty
    else if ← accept ['-', '-'] then
      setItems fuel (some (.diff, ← combine pending s)) CharSet.empty
    else if ← accept ['~', '~'] then
      setItems fuel (some (.symmDiff, ← combine pending s)) CharSet.empty
    else
      let t ← setItem
      setItems fuel pending (s.union t)

end

/-! ### Expressions -/

/-- The expression of a character; where case is ignored it has all its cases. -/
def charTree (c : Char) : Reader Tree := do
  let flags := (← get).flags
  if flags.ignoreCase then
    if flags.unicode then return Tree.mkSet (CharSet.single c.toNat).closeCase
    else if c.isAlpha then
      return Tree.mkSet (CharSet.ofRanges [(c.toLower.toNat, c.toLower.toNat),
        (c.toUpper.toNat, c.toUpper.toNat)])
    else return .text [c]
  else return .text [c]

/-- The expression of an atom. -/
def Atom.tree : Atom → Reader Tree
  | .char c => charTree c
  | .set s => return Tree.mkSet s
  | .look l => return .look l

/-- The expression of the dot: any character, or any that ends no line. -/
def dotTree : Reader Tree := do
  let flags := (← get).flags
  if !flags.unicode then failure
  else if flags.dotAll then return Tree.mkSet CharSet.any
  else if flags.crlf then
    return Tree.mkSet (CharSet.ofRanges [(0x0A, 0x0A), (0x0D, 0x0D)]).compl
  else return Tree.mkSet (CharSet.single 0x0A).compl

/-- A member of a sequence. A change of flags is a member that cannot be repeated. -/
inductive Member
  | tree (t : Tree)
  | flags

/-- The expression of a member. -/
def Member.toTree : Member → Tree
  | .tree t => t
  | .flags => .empty

/-- Repeats the last member, which is the first of the list. -/
def repeatLast (min : Nat) (max : Option Nat) (greedy : Bool) :
    List Member → Reader (List Member)
  | .tree t :: ms => do
    let greedy := if (← get).flags.swapGreed then !greedy else greedy
    return .tree (Tree.mkLoop min max greedy t) :: ms
  | _ => failure

/-- Reads the bounds of a repetition, behind the opening brace. -/
def bounds : Reader (Nat × Option Nat) := do
  space
  more
  let low ← decimal
  more
  if ← accept [','] then
    space
    more
    if (← peek?) = some '\x7d' then
      let some low := low | failure
      return (low, none)
    else
      let some low := low | failure
      let some high ← decimal | failure
      if high < low then failure
      return (low, some high)
  else
    let some low := low | failure
    return (low, some low)

mutual

/-- Reads the branches of a choice, up to a closing parenthesis or the end. `read` has, in reverse,
the branches before. -/
def choiceOf : Nat → List Tree → Reader Tree
  | 0, _ => failure
  | fuel + 1, read => do
    let branch ← sequence fuel []
    if ← accept ['|'] then choiceOf fuel (branch :: read)
    else
      match read with
      | [] => return branch
      | _ => return Tree.mkChoice (branch :: read).reverse

/-- Reads the members of a sequence; `read` has, in reverse, those before. -/
def sequence : Nat → List Member → Reader Tree
  | 0, _ => failure
  | fuel + 1, read => do
    space
    match ← peek? with
    | none => return Tree.mkSeq (read.reverse.map Member.toTree)
    | some c =>
      if c = '|' ∨ c = ')' then return Tree.mkSeq (read.reverse.map Member.toTree)
      else
        skip 1
        if c = '(' then
          let m ← groupOf fuel
          sequence fuel (m :: read)
        else if c = '[' then
          let s ← bracketed ((← get).rest.length + 1)
          sequence fuel (.tree (Tree.mkSet s) :: read)
        else if c = '?' then
          let lazy ← accept ['?']
          sequence fuel (← repeatLast 0 (some 1) (!lazy) read)
        else if c = '*' then
          let lazy ← accept ['?']
          sequence fuel (← repeatLast 0 none (!lazy) read)
        else if c = '+' then
          let lazy ← accept ['?']
          sequence fuel (← repeatLast 1 none (!lazy) read)
        else if c = '\x7b' then
          let (min, max) ← bounds
          expect '\x7d'
          space
          let lazy ← accept ['?']
          sequence fuel (← repeatLast min max (!lazy) read)
        else
          let flags := (← get).flags
          let t ← if c = '\\' then do
              let a ← escape
              a.tree
            else if c = '.' then dotTree
            else if c = '^' then
              pure (.look (if flags.multiLine then .lineStart flags.crlf else .textStart))
            else if c = '$' then
              pure (.look (if flags.multiLine then .lineEnd flags.crlf else .textEnd))
            else charTree c
          sequence fuel (.tree t :: read)

/-- Reads a group or a change of flags, behind the opening parenthesis. -/
def groupOf : Nat → Reader Member
  | 0 => failure
  | fuel + 1 => do
    space
    let saved := (← get).flags
    let rest := (← get).rest
    if rest.take 2 = ['?', '='] ∨ rest.take 2 = ['?', '!'] ∨ rest.take 3 = ['?', '<', '='] ∨
        rest.take 3 = ['?', '<', '!'] then failure
    let named ← if ← accept ['?', 'P', '<'] then pure true else accept ['?', '<']
    if named then
      let name ← groupName
      captured fuel saved (some name)
    else if ← accept ['?'] then
      let seen ← flagLetters (rest.length + 1) [] false
      if (← next) = ')' then
        if seen.isEmpty then failure
        return .flags
      else
        let t ← choiceOf fuel []
        expect ')'
        modify fun s => { s with flags := saved }
        return .tree t
    else captured fuel saved none

/-- Reads the inside of a numbered group up to its closing parenthesis. -/
def captured : Nat → Flags → Option String → Reader Member
  | 0, _, _ => failure
  | fuel + 1, saved, name => do
    let index := (← get).names.length + 1
    modify fun s => { s with names := name :: s.names }
    let t ← choiceOf fuel []
    expect ')'
    modify fun s => { s with flags := saved }
    return .tree (.group index t)

end

end Reader

/-- The expression that a text spells under the given flags, with the names of its groups in order.
Nothing if the text spells none. -/
def parse? (properties : Properties) (flags : Flags) (source : String) :
    Option (Tree × List (Option String)) :=
  match
    Reader.choiceOf (5 * source.toList.length + 5) [] ⟨source.toList, flags, [], properties⟩
  with
  | some (t, ⟨[], _, names, _⟩) => some (t, names.reverse)
  | _ => none

end HttpMux.Regex
