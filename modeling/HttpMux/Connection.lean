import HttpMux.Request.Reader
import HttpMux.Response.Wire
import HttpMux.Site

/-!
# `HttpMux.Connection`: one request on a socket

A connection reads once, serves the request that it has read on a mux, writes the response and
flushes. Bytes that are no request are answered with an error. There is no second read: a request
has to arrive in one piece and fit into the buffer.

- `Transport`: what a connection asks of a socket.
- `Socket`: a socket with given bytes to deliver, and with what becomes of what is written to it.
- `Connection.handle`: serves one connection.
-/

set_option autoImplicit false

namespace HttpMux

/-! ### Sockets -/

/-- An operation on a socket in a state of type `σ`, which may fail with the text of an error. -/
abbrev Operation (σ α : Type) := σ → Except String α × σ

/-- What a connection asks of a socket. A read gives at most `limit` bytes, and none at the end. A
write takes some of the bytes from the front, and says how many. A flush sends on what has been
written. -/
class Transport (σ : Type) where
  read (limit : Nat) : Operation σ Bytes
  write (bytes : Bytes) : Operation σ Nat
  flush : Operation σ Unit

namespace Transport

/-- The error of a socket that takes nothing of what is written to it. -/
def nothingTaken : String := "write zero"

/-- Writes until all bytes are taken. -/
def writeAll {σ : Type} [Transport σ] (bytes : Bytes) (s : σ) : Except String Unit × σ :=
  match bytes with
  | [] => (.ok (), s)
  | b :: bs =>
    match write (b :: bs) s with
    | (.error e, s) => (.error e, s)
    | (.ok 0, s) => (.error nothingTaken, s)
    | (.ok (n + 1), s) => writeAll (bs.drop n) s
termination_by bytes.length
decreasing_by rw [List.length_drop, List.length_cons]; omega

end Transport

/-- A socket: the pieces in which bytes arrive, the errors of its operations, if they fail, the
bytes written and those of them that a flush has sent on, and how often it was read and flushed. -/
structure Socket where
  incoming : List Bytes
  readError : Option String
  writeError : Option String
  flushError : Option String
  written : Bytes
  sent : Bytes
  reads : Nat
  flushes : Nat

namespace Socket

/-- Reads at most `limit` bytes of the next piece; the rest of it stays. Nothing is read at the
end. -/
def read (limit : Nat) : Operation Socket Bytes := fun s =>
  let s := { s with reads := s.reads + 1 }
  match s.readError with
  | some e => (.error e, s)
  | none =>
    match s.incoming with
    | [] => (.ok [], s)
    | piece :: rest =>
      let left := piece.drop limit
      (.ok (piece.take limit),
        { s with incoming := if left.isEmpty then rest else left :: rest })

/-- Takes all bytes. -/
def write (bytes : Bytes) : Operation Socket Nat := fun s =>
  match s.writeError with
  | some e => (.error e, s)
  | none => (.ok bytes.length, { s with written := s.written ++ bytes })

/-- Sends on what has been written. -/
def flush : Operation Socket Unit := fun s =>
  let s := { s with flushes := s.flushes + 1 }
  match s.flushError with
  | some e => (.error e, s)
  | none => (.ok (), { s with sent := s.written })

instance : Transport Socket := ⟨read, write, flush⟩

end Socket

/-! ### Connections -/

namespace Connection

/-- How serving a connection ends. -/
inductive Ending
  | ok
  | badRequest (e : Request.Error)
  | io (text : String)
  | failure (f : Failure)
  deriving DecidableEq, Repr

/-- The wording of an ending that is an error. -/
def Ending.message? : Ending → Option String
  | .ok => none
  | .badRequest e => some ("Parse error: " ++ e.message)
  | .io text => some ("I/O error: " ++ text)
  | .failure _ => none

/-- The response to bytes that are no request. -/
def badRequest (e : Request.Error) : Response :=
  ((Response.new .badRequest).withContentType "text/plain").withText
    ("Error parsing request: " ++ e.message)

variable {σ : Type} [Transport σ]

/-- Writes and flushes a response. -/
def send (r : Response) (s : σ) : Ending × σ :=
  match Transport.writeAll r.bytes s with
  | (.error e, s) => (.io e, s)
  | (.ok (), s) =>
    match Transport.flush s with
    | (.error e, s) => (.io e, s)
    | (.ok (), s) => (.ok, s)

/-- Writes the answer to bytes that are no request. -/
def refuse (e : Request.Error) (s : σ) : Ending × σ :=
  match Transport.writeAll (badRequest e).bytes s with
  | (.error e, s) => (.io e, s)
  | (.ok (), s) => (.badRequest e, s)

/-- Serves one connection: what has been read is served by `serve`, with the peer's address. A peer
that sends nothing gets no answer. -/
def handle {M : Type → Type} [Monad M] (serve : Request → M Outcome)
    (remote : Option SocketAddress) (bufferSize : Nat) (s : σ) : M (Ending × σ) :=
  match Transport.read bufferSize s with
  | (.error e, s) => return (.io e, s)
  | (.ok bytes, s) =>
    if bytes.isEmpty then return (.ok, s)
    else
      match Request.read bytes with
      | .error e => return refuse e s
      | .ok r => do
        match ← serve { r with remote } with
        | .response resp => return send resp s
        | .failure f => return (.failure f, s)

end Connection

end HttpMux
