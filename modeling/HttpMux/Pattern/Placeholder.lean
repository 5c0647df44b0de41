import HttpMux.Context
import HttpMux.Text.Quoted
import HttpMux.Text.Span

/-!
# `HttpMux.Pattern.Placeholder`: path patterns with named parts

A pattern such as `/user/:name/*` is literal text with placeholders. A placeholder is a colon and a
name behind one of the break characters `/`, `.`, `;` and `,`; the name goes up to the next break
character. It captures a non-empty part of the path, up to the byte that follows it in the pattern,
or up to a slash if it ends the pattern. An asterisk at the end lets any rest of the path follow.

- `Placeholder.layout`: where the names and the literals of a pattern lie.
- `Placeholder.parse`: the pattern that a text spells, or what is wrong with it.
- `Placeholder.spans?`: where the captured parts of a path lie.
- `Placeholder.match?`: the parameters that a path binds.

Break characters are ASCII, so the work is done on bytes: every offset lies between characters.
-/

set_option autoImplicit false

namespace HttpMux

/-- A placeholder with the literal in front of it and the byte that its value must not contain. -/
structure Slot (α : Type) where
  literal : α
  name : α
  stop : UInt8
  deriving DecidableEq, Repr

/-- A parsed pattern. `last` is the literal behind the last placeholder; `openEnded` patterns let
any rest follow it. -/
structure Placeholder where
  raw : String
  slots : List (Slot String)
  last : String
  openEnded : Bool
  deriving DecidableEq, Repr

namespace Placeholder

/-- What is wrong with the text of a pattern: a colon at the given offset has no name behind it, or
a name occurs twice. -/
inductive Flaw
  | unnamed (offset : Nat)
  | repeated (name : String)
  deriving DecidableEq, Repr

/-- The wording of a flaw. -/
def Flaw.message : Flaw → String
  | .unnamed offset => "empty placeholder name at byte " ++ toString offset
  | .repeated name => "placeholder " ++ Text.quoted name ++ " appears more than once"

/-! ### Reading a pattern -/

/-- Whether a byte is a break character. -/
def isBreak (b : UInt8) : Bool := b = 0x2F || b = 0x2E || b = 0x3B || b = 0x2C

/-- The byte `/`. -/
def slash : UInt8 := 0x2F

/-- The byte `:`. -/
def colon : UInt8 := 0x3A

/-- The name in front of `bs`. -/
def nameOf (bs : Bytes) : Bytes := bs.takeWhile fun b => !isBreak b

/-- Where the parts of a pattern lie. -/
structure Layout where
  slots : List (Slot Span)
  last : Span
  deriving DecidableEq, Repr

/-- Looks for placeholders in `rest`, which begins at offset `i`. The literal being read began at
offset `start`, and `seen` holds the names so far. -/
def layoutFrom (start i : Nat) (seen : List Bytes) : Bytes → Except Flaw Layout
  | b :: c :: rest =>
    if isBreak b ∧ c = colon then
      let name := nameOf rest
      let stop := i + 2 + name.length
      if name.isEmpty then .error (.unnamed (i + 1))
      else if name ∈ seen then .error (.repeated ((Bytes.text? name).getD ""))
      else
        let behind := rest.drop name.length
        (layoutFrom stop stop (name :: seen) behind).map fun l =>
          { l with slots := ⟨⟨start, i + 1⟩, ⟨i + 2, stop⟩, behind.head?.getD slash⟩ :: l.slots }
    else layoutFrom start (i + 1) seen (c :: rest)
  | rest => .ok ⟨[], ⟨start, i + rest.length⟩⟩
termination_by rest => rest.length
decreasing_by
  · rw [List.length_drop, List.length_cons, List.length_cons]; omega
  · simp only [List.length_cons]; omega

/-- Where the parts of a pattern lie, or what is wrong with it. -/
def layout (body : String) : Except Flaw Layout := layoutFrom 0 0 [] (Bytes.ofText body)

/-- The text of a pattern without an asterisk at its end, and whether it had one. -/
def splitRest (raw : String) : String × Bool :=
  if raw.toList.getLast? = some '*' then (String.ofList raw.toList.dropLast, true)
  else (raw, false)

/-- The pattern that a text spells. -/
def parse (raw : String) : Except Flaw Placeholder :=
  let (body, openEnded) := splitRest raw
  (layout body).map fun l =>
    { raw
      slots := l.slots.map fun s => ⟨Text.cut body s.literal, Text.cut body s.name, s.stop⟩
      last := Text.cut body l.last
      openEnded }

/-- The names of the placeholders in order. -/
def names (p : Placeholder) : List String := p.slots.map Slot.name

/-- The literals in order, one more than there are placeholders. -/
def literals (p : Placeholder) : List String := p.slots.map Slot.literal ++ [p.last]

/-- The literal that every matching path begins with. -/
def literalStart (p : Placeholder) : String :=
  match p.slots with
  | s :: _ => s.literal
  | [] => p.last

/-- How a pattern is shown. -/
def text (p : Placeholder) : String :=
  "StringPattern(" ++ Text.quoted p.raw ++ ", prefix=" ++
    (if p.openEnded then "true" else "false") ++ ")"

/-! ### Matching a path -/

/-- The parts of a path that a pattern captures: one for each placeholder, and what follows. -/
structure Capture where
  values : List Span
  rest : Span
  deriving DecidableEq, Repr

/-- Matches the literal behind the last placeholder at offset `i`. Of a path that may go on, the
rest is captured, with the slash that ends the literal. -/
def restSpan? (last : Bytes) (openEnded : Bool) (i : Nat) (path : Bytes) : Option Span :=
  if openEnded then
    if last.isPrefixOf path then
      let kept := if last.getLast? = some slash then 1 else 0
      some ⟨i + (last.length - kept), i + path.length⟩
    else none
  else if path = last then some ⟨i + path.length, i + path.length⟩
  else none

/-- Matches placeholders and the last literal at offset `i`. -/
def spansFrom? (last : Bytes) (openEnded : Bool) : List (Slot String) → Nat → Bytes → Option Capture
  | [], i, path => (restSpan? last openEnded i path).map fun sp => ⟨[], sp⟩
  | s :: slots, i, path => do
    let behind ← (Bytes.ofText s.literal).isPrefixOf? path
    let start := i + (path.length - behind.length)
    let value := behind.takeWhile (· ≠ s.stop)
    if value.isEmpty then none
    else
      let stop := start + value.length
      let c ← spansFrom? last openEnded slots stop (behind.drop value.length)
      return { c with values := ⟨start, stop⟩ :: c.values }

/-- Where the captured parts of a path lie. -/
def spans? (p : Placeholder) (path : String) : Option Capture :=
  spansFrom? (Bytes.ofText p.last) p.openEnded p.slots 0 (Bytes.ofText path)

/-- Whether a path matches. -/
def accepts (p : Placeholder) (path : String) : Bool := (p.spans? path).isSome

/-- The parameters that a path binds: each name to its part, and then the asterisk to the rest. -/
def match? (p : Placeholder) (path : String) : Option (Dict String) :=
  (p.spans? path).map fun c =>
    let bound := Dict.ofList (p.names.zip (c.values.map (Text.cut path)))
    if p.openEnded then bound.insert Context.restParam (Text.cut path c.rest) else bound

end Placeholder

end HttpMux
