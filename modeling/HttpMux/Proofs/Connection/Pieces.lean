import HttpMux.Connection
import HttpMux.Proofs.Request.RoundTrip
import HttpMux.Proofs.Site.Coherent

/-!
# `HttpMux.Proofs.Connection.Pieces`: requests that arrive in pieces

Each connection is read once and then answered. That is the design: nothing waits for the rest of a
body, and the length that a request states is not looked at. So a connection sees only the first of
the pieces in which a request arrives, and how far the others matter depends on this piece alone.

* `Connection.answer_handle`: the answer is made from what the first piece reads as.
* `Site.serveFresh_solo`: a mux may answer every request in its own way.
* `Connection.answer_eq_whole_iff`: a request in pieces is answered like the whole by every mux if
  and only if its first piece reads as the whole request. For every other way of cutting a request
  there is a mux that tells the difference.
* `Connection.answer_of_cut_body`: a cut in the body shortens the body.
-/

set_option autoImplicit false

namespace HttpMux

variable {A : App} {S : Type}

/-- A socket on which bytes arrive in the given pieces and nothing fails. -/
def Socket.delivering (pieces : List Bytes) : Socket where
  incoming := pieces
  readError := none
  writeError := none
  flushError := none
  written := []
  sent := []
  reads := 0
  flushes := 0

/-- A socket on which writing does not fail takes everything at once. -/
theorem Socket.writeAll_eq (bytes : Bytes) {s : Socket} (h : s.writeError = none) :
    Transport.writeAll bytes s = (.ok (), { s with written := s.written ++ bytes }) := by
  cases bytes with
  | nil => rw [Transport.writeAll, List.append_nil]
  | cons b bs =>
    have hwrite : Transport.write (b :: bs) s
        = (.ok (bs.length + 1), { s with written := s.written ++ b :: bs }) := by
      show Socket.write (b :: bs) s = _
      rw [Socket.write, h]
      rfl
    rw [Transport.writeAll, hwrite]
    dsimp only
    rw [List.drop_length, Transport.writeAll]

namespace Site

/-- Serves a request on a mux with an empty context. -/
def serveFresh (app : (q : A.Ask) → Change A S (A.Answer q)) (depth : Nat) (id : MuxId)
    (r : Request) : Change A S Outcome := do
  return (← Site.serve app depth id Context.empty r).outcome

/-- What is done to the result of a change does not change the site. -/
theorem run_map {α β : Type} (f : α → β) (m : Change A S α) (s : Site A S) :
    ((f <$> m).run s).1 = f (m.run s).1 := rfl

/-- Serving with an empty context gives the outcome, and leaves the site that serving leaves. -/
theorem serveFresh_run (app : (q : A.Ask) → Change A S (A.Answer q)) (depth : Nat) (id : MuxId)
    (r : Request) (s : Site A S) :
    let served := (Site.serve app depth id Context.empty r).run s
    (serveFresh app depth id r).run s = (served.1.outcome, served.2) := rfl

/-- A mux that has nothing but a handler for the rest, which answers requests by `f`. -/
def solo (f : Request → Outcome) : Site Chain.silent Unit where
  muxes := [⟨Stack.new 0 0, Router.new.withNotFound (.plain fun r => .done (f r))⟩]
  log := []
  issued := 0
  idBase := ""
  elapsed := ""
  view := ()
  state := ()

/-- A mux may answer every request in its own way. -/
theorem serveFresh_solo (f : Request → Outcome) (r : Request) :
    ((serveFresh noReply 1 0 r).run (solo f)).1 = f r := by
  rw [serveFresh_run, serve_run]
  rfl

end Site

namespace Connection

/-! ### Answers -/

/-- What can be seen of serving a connection: how it ends, the bytes that are written, and those of
them that are sent on. -/
structure Answer where
  ending : Ending
  written : Bytes
  sent : Bytes

namespace Answer

/-- The answer that a socket has got. -/
def of (x : Ending × Socket) : Answer := ⟨x.1, x.2.written, x.2.sent⟩

/-- The answer to a request, by what serving it ends in. -/
def reply : Outcome → Answer
  | .response resp => ⟨.ok, resp.bytes, resp.bytes⟩
  | .failure f => ⟨.failure f, [], []⟩

/-- The answer to bytes that are no request. -/
def refusal (e : Request.Error) : Answer := ⟨.badRequest e, (badRequest e).bytes, []⟩

end Answer

section

variable {M : Type → Type} [Monad M] [LawfulMonad M]

/-- The answer to what has been read. -/
def answered (serve : Request → M Outcome) (remote : Option SocketAddress) :
    Except Request.Error Request → M Answer
  | .ok r => Answer.reply <$> serve { r with remote }
  | .error e => return .refusal e

/-- The answer is made from the first piece alone. -/
theorem answer_handle (serve : Request → M Outcome) (remote : Option SocketAddress) {limit : Nat}
    {first : Bytes} (hne : first ≠ []) (hfits : first.length ≤ limit) (rest : List Bytes) :
    Answer.of <$> handle serve remote limit (Socket.delivering (first :: rest))
      = answered serve remote (Request.read first) := by
  have htake : first.take limit = first := List.take_of_length_le hfits
  have hempty : first.isEmpty = false := by simpa using hne
  rw [handle, show Transport.read limit _ = Socket.read limit _ from rfl, Socket.read]
  simp only [Socket.delivering, htake, hempty]
  -- Bytes that are no request are refused, and a request is served.
  cases Request.read first with
  | error e => simp [answered, refuse, Socket.writeAll_eq, Answer.of, Answer.refusal]
  | ok r =>
    rw [answered, map_eq_pure_bind Answer.reply]
    simp only [Bool.false_eq_true, if_false, map_bind]
    refine bind_congr fun outcome => ?_
    cases outcome <;>
      simp [send, Socket.writeAll_eq, Transport.flush, Socket.flush, Answer.of, Answer.reply]

end

/-- What a mux answers on a connection on which bytes arrive in the given pieces. -/
def answer (app : (q : A.Ask) → Site.Change A S (A.Answer q)) (depth : Nat) (id : MuxId)
    (remote : Option SocketAddress) (limit : Nat) (pieces : List Bytes) : Site.Change A S Answer :=
  Answer.of <$> handle (Site.serveFresh app depth id) remote limit (Socket.delivering pieces)

/-- The answer to bytes that arrive in pieces is the same as if they arrived at once, whatever mux
serves them, and the mux is left alike. -/
def LikeWhole (remote : Option SocketAddress) (limit : Nat) (pieces : List Bytes) : Prop :=
  ∀ (A : App) (S : Type) (app : (q : A.Ask) → Site.Change A S (A.Answer q)) (depth : Nat)
    (id : MuxId),
    answer app depth id remote limit pieces = answer app depth id remote limit [pieces.flatten]

/-! ### Telling requests apart -/

/-- What the answer of a mux shows of what has been read. -/
theorem ending_solo (f : Request → Outcome) (remote : Option SocketAddress) {limit : Nat}
    {first : Bytes} (hne : first ≠ []) (hfits : first.length ≤ limit) (rest : List Bytes) :
    ((answer Site.noReply 1 0 remote limit (first :: rest)).run (Site.solo f)).1
      = match Request.read first with
        | .ok r => .reply (f { r with remote })
        | .error e => .refusal e := by
  rw [answer, answer_handle _ _ hne hfits]
  cases Request.read first with
  | ok r =>
    rw [answered, Site.run_map, Site.serveFresh_solo]
  | error e => rfl

/-- If every mux answers bytes like those of a request, then they are read as this request. -/
theorem read_eq_of_likeWhole {first : Bytes} (hne : first ≠ []) {rest : List Bytes} {r : Request}
    (hread : Request.read (first :: rest).flatten = .ok r) {limit : Nat}
    (hfits : (first :: rest).flatten.length ≤ limit) {remote : Option SocketAddress}
    (h : LikeWhole remote limit (first :: rest)) : Request.read first = .ok r := by
  classical
  -- This mux fails in one way on the request, and in another way on all others.
  let f (r' : Request) : Outcome := .failure (if r' = { r with remote } then .silent else .tooDeep)
  have hfirst : first.length ≤ limit := by
    rw [List.flatten_cons, List.length_append] at hfits
    omega
  have hwhole : (first :: rest).flatten ≠ [] := by simp [hne]
  have hanswer := congrArg Answer.ending (congrArg (fun m => (m.run (Site.solo f)).1)
    (h Chain.silent Unit Site.noReply 1 0))
  rw [ending_solo f remote hne hfirst, ending_solo f remote hwhole hfits, hread] at hanswer
  cases hpiece : Request.read first with
  | error e =>
    rw [hpiece] at hanswer
    cases hanswer
  | ok r' =>
    rw [hpiece] at hanswer
    have hcause : (if { r' with remote } = { r with remote } then Failure.silent else .tooDeep)
        = .silent := by
      have hfailure := Ending.failure.inj hanswer
      rwa [if_pos rfl] at hfailure
    have hsame : ({ r' with remote } : Request) = { r with remote } := by
      by_contra hne
      rw [if_neg hne] at hcause
      cases hcause
    -- Reading leaves the address of the peer open.
    have hremote := (Request.wellFormed_of_read hread).remote
    have hremote' := (Request.wellFormed_of_read hpiece).remote
    cases r
    cases r'
    simp only [Request.mk.injEq] at hsame hremote hremote'
    simp [hsame, hremote, hremote']

/-- Take a request that arrives in pieces, of which the first is not empty, and a buffer into which
it fits. Every mux answers it as if it arrived at once if and only if the first piece reads as the
whole request. The condition cannot be weakened: for any other first piece, the mux of
`read_eq_of_likeWhole` tells the difference. -/
theorem answer_eq_whole_iff {first : Bytes} (hne : first ≠ []) {rest : List Bytes} {r : Request}
    (hread : Request.read (first :: rest).flatten = .ok r) {limit : Nat}
    (hfits : (first :: rest).flatten.length ≤ limit) (remote : Option SocketAddress) :
    LikeWhole remote limit (first :: rest) ↔ Request.read first = .ok r := by
  refine ⟨read_eq_of_likeWhole hne hread hfits, fun hfirst A S app depth id => ?_⟩
  have hlength : first.length ≤ limit := by
    rw [List.flatten_cons, List.length_append] at hfits
    omega
  have hwhole : (first :: rest).flatten ≠ [] := by simp [hne]
  -- Both answers are made from what is read, which is the same.
  rw [answer, answer_handle _ _ hne hlength, answer, answer_handle _ _ hwhole hfits, hfirst, hread]

/-- A message with nothing behind its empty line, and the piece of it in front of that line. -/
def bareHead : Bytes := Bytes.ofText "GET / HTTP/1.0\r\n"

/-- For a message without a body, it makes no difference whether the empty line arrives. -/
theorem answer_of_cut_blank :
    (∃ r, Request.read [bareHead, [0x0D, 0x0A]].flatten = .ok r)
      ∧ LikeWhole none 8192 [bareHead, [0x0D, 0x0A]] := by
  have hread : Request.read [bareHead, [0x0D, 0x0A]].flatten
      = .ok ⟨.get, "/", .http10, Dict.empty, [], none⟩ := by rfl
  have hfits : [bareHead, [0x0D, 0x0A]].flatten.length ≤ 8192 := by decide
  exact ⟨⟨_, hread⟩, (answer_eq_whole_iff (by decide) hread hfits none).mpr (by rfl)⟩

/-- A message with a body of two bytes, cut between them. -/
def cutBody : List Bytes := [Bytes.ofText "POST / HTTP/1.0\r\n\r\na", Bytes.ofText "b"]

/-- The handler that sends the body back. -/
def echo (r : Request) : Outcome := .response ((Response.new .ok).withBody r.body)

/-- A cut in the body shortens the body, and a mux that sends it back tells the difference. -/
theorem answer_of_cut_body :
    (∃ r, Request.read cutBody.flatten = .ok r) ∧ cutBody.flatten.length ≤ 8192
      ∧ (∀ piece ∈ cutBody, piece ≠ [])
      ∧ ((answer Site.noReply 1 0 none 8192 cutBody).run (Site.solo echo)).1
          ≠ ((answer Site.noReply 1 0 none 8192 [cutBody.flatten]).run (Site.solo echo)).1 := by
  have hpiece : Request.read (Bytes.ofText "POST / HTTP/1.0\r\n\r\na")
      = .ok ⟨.post, "/", .http10, Dict.empty, Bytes.ofText "a", none⟩ := by rfl
  have hwhole : Request.read cutBody.flatten
      = .ok ⟨.post, "/", .http10, Dict.empty, Bytes.ofText "ab", none⟩ := by rfl
  refine ⟨⟨_, hwhole⟩, by decide, by decide, fun hsame => ?_⟩
  rw [cutBody, ending_solo echo none (by decide) (by decide), hpiece, ← cutBody,
    ending_solo echo none (by decide) (by decide), hwhole] at hsame
  have hbytes := congrArg Answer.written hsame
  exact absurd hbytes (by decide)

end Connection

end HttpMux
