import HttpMux.Request.Basic
import HttpMux.Request.Error
import HttpMux.Text.Blank

/-!
# `HttpMux.Request.Reader`: reading a request from bytes

A request has a head and a body. The head ends before the first blank line and must be UTF-8. Its
first line has a method, a target and a version; every further line has a header name, a colon and
a value. The body is everything behind the blank line.

- `Request.splitHead`: where the head ends and the body begins.
- `Request.read`: the request that the bytes spell, or what is wrong with them.
-/

set_option autoImplicit false

namespace HttpMux.Request

/-! ### Head and body -/

/-- The first offset at which `bs` goes on with `mark`. -/
def offsetOf? (mark : Bytes) : Bytes → Option Nat
  | [] => if mark.isEmpty then some 0 else none
  | b :: bs => if mark.isPrefixOf (b :: bs) then some 0 else (offsetOf? mark bs).map (· + 1)

/-- A blank line between lines that end in carriage return and line feed. -/
def blankAfterReturn : Bytes := [0x0D, 0x0A, 0x0D, 0x0A]

/-- A blank line between lines that end in a line feed alone. -/
def blankAfterFeed : Bytes := [0x0A, 0x0A]

/-- The length of the head and the offset of the body. The earlier kind of blank line counts. -/
def splitOffsets (bs : Bytes) : Nat × Nat :=
  match offsetOf? blankAfterReturn bs, offsetOf? blankAfterFeed bs with
  | some a, some b => if b < a then (b, b + 2) else (a, a + 4)
  | some a, none => (a, a + 4)
  | none, some b => (b, b + 2)
  | none, none => (bs.length, bs.length)

/-- The head and the body. -/
def splitHead (bs : Bytes) : Bytes × Bytes :=
  let (head, body) := splitOffsets bs
  (bs.take head, bs.drop body)

/-! ### The request line and the headers -/

/-- Whether a target is an absolute path or a lone asterisk. -/
def isTarget (s : String) : Bool := Text.hasStart "/" s || s = "*"

/-- Reads a request line: a method, a target and a version, with blanks between them. -/
def readRequestLine (line : String) : Except Error (Method × String × Version) :=
  match Text.words line with
  | [m, target, v] =>
    match Method.ofName? m with
    | none => .error (.badMethod m)
    | some method =>
      if isTarget target then
        match Version.ofName? v with
        | none => .error (.badVersion v)
        | some version => .ok (method, target, version)
      else .error (.badTarget target)
  | _ => .error (.badRequestLine line)

/-- Adds the headers of the lines before the first empty one. A later line wins over an earlier one
with exactly the same name. -/
def readHeaders (headers : Headers) : List String → Except Error Headers
  | [] => .ok headers
  | line :: lines =>
    if line = "" then .ok headers
    else
      match Text.splitFirst? ':' line with
      | none => .error (.badHeader line)
      | some (name, value) =>
        readHeaders (headers.insert (Text.trim name) (Text.trim value)) lines

/-- The request that the bytes spell. -/
def read (bs : Bytes) : Except Error Request := do
  let (head, body) := splitHead bs
  let some text := Bytes.text? head | .error .badEncoding
  match Text.lines text with
  | [] => .error .empty
  | line :: lines =>
    let (method, target, version) ← readRequestLine line
    let headers ← readHeaders Dict.empty lines
    if version = .http11 ∧ ¬headers.has "Host" then .error .missingHost
    else .ok ⟨method, target, version, headers, body, none⟩

end HttpMux.Request
