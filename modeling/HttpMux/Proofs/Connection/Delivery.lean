import HttpMux.Proofs.Connection.Pieces

/-!
# `HttpMux.Proofs.Connection.Delivery`: what is asked of a socket, and what has arrived

A connection reads once, writes one answer, and flushes it if it is the response of a mux. The
answer to bytes that are no request is written and not flushed, so a socket that holds back what is
written keeps it.

Sockets are arbitrary here. A socket may take an answer in pieces of any length, and each operation
may fail at any time.

* `Act` and `Watched`: a record of what a socket is asked for. `Connection.handle_watched` says that
  the record changes nothing.
* `Connection.writes_writeAll`: writing goes on until everything is taken or a write fails, by
  induction on the writes.
* `Connection.Course`: all the ways in which a connection can go. `Connection.course_handle` says
  that there is no other.
* `Connection.answered_in_full`: what is known of a socket by the ending of its connection.
* `Connection.refusal_not_sent`: the answer to bytes that are no request is not sent on.
-/

set_option autoImplicit false

namespace HttpMux

variable {A : App} {S σ : Type}

/-! ### Watching a socket -/

/-- What a socket was asked for, with what came of it. -/
inductive Act
  | read (got : Except String Bytes)
  | write (bytes : Bytes) (taken : Except String Nat)
  | flush (result : Except String Unit)

namespace Act

/-- The error of an act that failed. A write that takes nothing has failed. -/
def error? : Act → Option String
  | .read (.error e) => some e
  | .write _ (.error e) => some e
  | .write _ (.ok 0) => some Transport.nothingTaken
  | .flush (.error e) => some e
  | _ => none

/-- The bytes that a socket took. -/
def taken : Act → Bytes
  | .write bytes (.ok n) => bytes.take n
  | _ => []

end Act

/-- A socket with a record of what it was asked for. -/
structure Watched (σ : Type) where
  socket : σ
  acts : List Act

/-- A socket that was asked for nothing so far. -/
def Watched.start (s : σ) : Watched σ := ⟨s, []⟩

section

variable [Transport σ]

instance : Transport (Watched σ) where
  read limit w :=
    let (got, socket) := Transport.read limit w.socket
    (got, ⟨socket, w.acts ++ [.read got]⟩)
  write bytes w :=
    let (taken, socket) := Transport.write bytes w.socket
    (taken, ⟨socket, w.acts ++ [.write bytes taken]⟩)
  flush w :=
    let (result, socket) := Transport.flush w.socket
    (result, ⟨socket, w.acts ++ [.flush result]⟩)

/-- A read is recorded with what it brought. -/
theorem Watched.read_eq (limit : Nat) (w : Watched σ) :
    let x := Transport.read limit w.socket
    Transport.read limit w = (x.1, ⟨x.2, w.acts ++ [.read x.1]⟩) := rfl

/-- A write is recorded with its bytes and with how many of them were taken. -/
theorem Watched.of_write {bytes : Bytes} {w w' : Watched σ} {taken : Except String Nat}
    (h : Transport.write bytes w = (taken, w')) :
    Transport.write bytes w.socket = (taken, w'.socket)
      ∧ w'.acts = w.acts ++ [.write bytes taken] := by
  obtain ⟨rfl, rfl⟩ := Prod.mk.inj h
  exact ⟨rfl, rfl⟩

/-- A flush is recorded with its result. -/
theorem Watched.flush_eq (w : Watched σ) :
    let x := Transport.flush w.socket
    Transport.flush w = (x.1, ⟨x.2, w.acts ++ [.flush x.1]⟩) := rfl

end

namespace Connection

/-- The result of an operation without the record. -/
def unwatched {α : Type} (x : α × Watched σ) : α × σ := (x.1, x.2.socket)

variable [Transport σ]

/-- Writing does the same without a record. -/
theorem writeAll_watched (bytes : Bytes) (w : Watched σ) :
    unwatched (Transport.writeAll bytes w) = Transport.writeAll bytes w.socket := by
  -- The cases of a write: nothing to write, an error, nothing taken, and some of the bytes taken.
  fun_induction Transport.writeAll bytes w with
  | case1 w => rw [Transport.writeAll, unwatched]
  | case2 w b bs e w' hwrite => rw [Transport.writeAll, (Watched.of_write hwrite).1, unwatched]
  | case3 w b bs w' hwrite => rw [Transport.writeAll, (Watched.of_write hwrite).1, unwatched]
  | case4 w b bs n w' hwrite ih =>
    rw [ih]
    conv => rhs; rw [Transport.writeAll, (Watched.of_write hwrite).1]

/-- Sending a response does the same without a record. -/
theorem send_watched (r : Response) (w : Watched σ) : unwatched (send r w) = send r w.socket := by
  have hwrite := writeAll_watched r.bytes w
  rw [send, send, ← hwrite]
  obtain ⟨written, w'⟩ := Transport.writeAll r.bytes w
  cases written with
  | error e => rfl
  | ok _ =>
    dsimp only [unwatched]
    rw [Watched.flush_eq]
    obtain ⟨flushed, socket⟩ := Transport.flush w'.socket
    cases flushed <;> rfl

/-- Answering bytes that are no request does the same without a record. -/
theorem refuse_watched (e : Request.Error) (w : Watched σ) :
    unwatched (refuse e w) = refuse e w.socket := by
  have hwrite := writeAll_watched (badRequest e).bytes w
  rw [refuse, refuse, ← hwrite]
  obtain ⟨written, w'⟩ := Transport.writeAll (badRequest e).bytes w
  cases written <;> rfl

/-- A connection goes the same way without a record. -/
theorem handle_watched {M : Type → Type} [Monad M] [LawfulMonad M] (serve : Request → M Outcome)
    (remote : Option SocketAddress) (limit : Nat) (w : Watched σ) :
    unwatched <$> handle serve remote limit w = handle serve remote limit w.socket := by
  rw [handle, handle, Watched.read_eq]
  obtain ⟨got, socket⟩ := Transport.read limit w.socket
  -- The connection is followed through its branches; in each of them the last step is one of the
  -- above.
  cases got with
  | error e => exact map_pure _ _
  | ok bytes =>
    dsimp only
    split
    · exact map_pure _ _
    · cases Request.read bytes with
      | error e => simp [refuse_watched]
      | ok r =>
        dsimp only
        rw [map_bind]
        refine bind_congr fun outcome => ?_
        cases outcome with
        | response resp => simp [send_watched]
        | failure f => exact map_pure _ _

/-! ### Writing an answer -/

/-- The writes by which bytes are written, with the result. No other act is among them, a write has
failed only if the result is its error, and if all went well, then the bytes have been taken. -/
structure Writes (bytes : Bytes) (result : Except String Unit) (acts : List Act) : Prop where
  only : ∀ a ∈ acts, ∃ part taken, a = .write part taken
  errors : acts.filterMap Act.error? = match result with
    | .ok () => []
    | .error e => [e]
  whole : result = .ok () → acts.flatMap Act.taken = bytes

/-- Writing goes on until everything is taken, or a write fails. -/
theorem writes_writeAll (bytes : Bytes) (w : Watched σ) :
    ∃ acts, (Transport.writeAll bytes w).2.acts = w.acts ++ acts
      ∧ Writes bytes (Transport.writeAll bytes w).1 acts := by
  fun_induction Transport.writeAll bytes w with
  | case1 w => exact ⟨[], (List.append_nil _).symm, List.forall_mem_nil _, rfl, fun _ => rfl⟩
  | case2 w b bs e w' hwrite =>
    exact ⟨[_], (Watched.of_write hwrite).2, by simp, rfl, fun h => by cases h⟩
  | case3 w b bs w' hwrite =>
    exact ⟨[_], (Watched.of_write hwrite).2, by simp, rfl, fun h => by cases h⟩
  | case4 w b bs n w' hwrite ih =>
    obtain ⟨-, hfirst⟩ := Watched.of_write hwrite
    obtain ⟨acts, hacts, honly, herrors, hwhole⟩ := ih
    refine ⟨.write (b :: bs) (.ok (n + 1)) :: acts, ?_, ?_, ?_, fun h => ?_⟩
    · rw [hacts, hfirst, List.append_assoc, List.singleton_append]
    · exact List.forall_mem_cons.mpr ⟨⟨_, _, rfl⟩, honly⟩
    · rw [List.filterMap_cons_none rfl, herrors]
    · -- The part that this write took, and the rest, which the later writes took.
      rw [List.flatMap_cons, Act.taken, hwhole h, List.take_succ_cons, List.cons_append,
        List.take_append_drop]

/-- The acts by which a response is sent, with the ending. -/
inductive Sends (bytes : Bytes) : Ending → List Act → Prop
  | lost {t : String} {writes : List Act} (hwrites : Writes bytes (.error t) writes) :
      Sends bytes (.io t) writes
  | unflushed {t : String} {writes : List Act} (hwrites : Writes bytes (.ok ()) writes) :
      Sends bytes (.io t) (writes ++ [.flush (.error t)])
  | sent {writes : List Act} (hwrites : Writes bytes (.ok ()) writes) :
      Sends bytes .ok (writes ++ [.flush (.ok ())])

/-- Sending a response is writing it and then flushing, until one of them fails. -/
theorem sends_send (r : Response) (w : Watched σ) :
    ∃ acts, (send r w).2.acts = w.acts ++ acts ∧ Sends r.bytes (send r w).1 acts := by
  obtain ⟨writes, hacts, hwrites⟩ := writes_writeAll r.bytes w
  rw [send]
  generalize Transport.writeAll r.bytes w = x at hacts hwrites ⊢
  obtain ⟨written, w'⟩ := x
  cases written with
  | error t => exact ⟨writes, hacts, .lost hwrites⟩
  | ok _ =>
    dsimp only at hacts ⊢
    rw [Watched.flush_eq]
    obtain ⟨flushed, socket⟩ := Transport.flush w'.socket
    cases flushed with
    | error t => exact ⟨_, by rw [← List.append_assoc, ← hacts], .unflushed hwrites⟩
    | ok _ => exact ⟨_, by rw [← List.append_assoc, ← hacts], .sent hwrites⟩

/-- The acts by which bytes that are no request are answered, with the ending. Nothing is
flushed. -/
inductive Refuses (e : Request.Error) : Ending → List Act → Prop
  | lost {t : String} {writes : List Act}
      (hwrites : Writes (badRequest e).bytes (.error t) writes) :
      Refuses e (.io t) writes
  | written {writes : List Act} (hwrites : Writes (badRequest e).bytes (.ok ()) writes) :
      Refuses e (.badRequest e) writes

/-- Bytes that are no request are answered by writing alone. -/
theorem refuses_refuse (e : Request.Error) (w : Watched σ) :
    ∃ acts, (refuse e w).2.acts = w.acts ++ acts ∧ Refuses e (refuse e w).1 acts := by
  obtain ⟨writes, hacts, hwrites⟩ := writes_writeAll (badRequest e).bytes w
  rw [refuse]
  generalize Transport.writeAll (badRequest e).bytes w = x at hacts hwrites ⊢
  obtain ⟨written, w'⟩ := x
  cases written with
  | error t => exact ⟨writes, hacts, .lost hwrites⟩
  | ok _ => exact ⟨writes, hacts, .written hwrites⟩

/-! ### How a connection goes -/

/-- The ways in which a connection can go: what has been read, how the connection ends, what is done
behind the read, and the site that is left. -/
inductive Course (serve : Request → Site.Change A S Outcome) (remote : Option SocketAddress)
    (site : Site A S) : Except String Bytes → Ending → List Act → Site A S → Prop
  | unread (t : String) : Course serve remote site (.error t) (.io t) [] site
  | closed : Course serve remote site (.ok []) .ok [] site
  | refused {bytes : Bytes} {e : Request.Error} {ending : Ending} {acts : List Act}
      (hne : bytes ≠ []) (hread : Request.read bytes = .error e) (hacts : Refuses e ending acts) :
      Course serve remote site (.ok bytes) ending acts site
  | failed {bytes : Bytes} {r : Request} {f : Failure} {site' : Site A S} (hne : bytes ≠ [])
      (hread : Request.read bytes = .ok r)
      (hserve : (serve { r with remote }).run site = (.failure f, site')) :
      Course serve remote site (.ok bytes) (.failure f) [] site'
  | answered {bytes : Bytes} {r : Request} {resp : Response} {ending : Ending} {acts : List Act}
      {site' : Site A S} (hne : bytes ≠ []) (hread : Request.read bytes = .ok r)
      (hserve : (serve { r with remote }).run site = (.response resp, site'))
      (hacts : Sends resp.bytes ending acts) :
      Course serve remote site (.ok bytes) ending acts site'

/-- A connection goes in one of these ways. -/
theorem course_handle (serve : Request → Site.Change A S Outcome) (remote : Option SocketAddress)
    (limit : Nat) (s : σ) (site : Site A S) :
    let run := (handle serve remote limit (Watched.start s)).run site
    let got := (Transport.read limit s).1
    ∃ acts, run.1.2.acts = .read got :: acts
      ∧ Course serve remote site got run.1.1 acts run.2 := by
  simp only [handle, Watched.read_eq, Watched.start]
  obtain ⟨got, socket⟩ := Transport.read limit s
  cases got with
  | error t => exact ⟨[], rfl, .unread t⟩
  | ok bytes =>
    dsimp only
    -- No bytes mean that the peer has closed the connection; they are not read as a request.
    by_cases hempty : bytes = []
    · subst hempty
      exact ⟨[], rfl, .closed⟩
    · rw [if_neg (by simpa using hempty)]
      cases hread : Request.read bytes with
      | error e =>
        obtain ⟨acts, hacts, hrefuses⟩ := refuses_refuse e ⟨socket, [.read (.ok bytes)]⟩
        exact ⟨acts, hacts, .refused hempty hread hrefuses⟩
      | ok r =>
        obtain ⟨⟨outcome, site'⟩, hserve⟩ : ∃ x, (serve { r with remote }).run site = x := ⟨_, rfl⟩
        dsimp only
        rw [StateT.run_bind, hserve]
        cases outcome with
        | response resp =>
          obtain ⟨acts, hacts, hsends⟩ := sends_send resp ⟨socket, [.read (.ok bytes)]⟩
          exact ⟨acts, hacts, .answered hempty hread hserve hsends⟩
        | failure f => exact ⟨[], rfl, .failed hempty hread hserve⟩

/-- What is no request is not served: it makes no difference what would serve it. -/
theorem handle_of_not_read {M : Type → Type} [Monad M] (serve serve' : Request → M Outcome)
    (remote : Option SocketAddress) {limit : Nat} {s : σ} {bytes : Bytes}
    (hgot : (Transport.read limit s).1 = .ok bytes) {e : Request.Error}
    (hread : Request.read bytes = .error e) :
    handle serve remote limit s = handle serve' remote limit s := by
  rw [handle, handle]
  generalize Transport.read limit s = x at hgot
  obtain ⟨got, socket⟩ := x
  obtain rfl : got = .ok bytes := hgot
  dsimp only
  rw [hread]

/-- The error of an ending, if an operation on the socket has failed. -/
def Ending.io? : Ending → Option String
  | .io t => some t
  | _ => none

section

variable {serve : Request → Site.Change A S Outcome} {remote : Option SocketAddress}
  {site site' : Site A S} {got : Except String Bytes} {ending : Ending} {acts : List Act}

/-- The error of the ending is that of an act that failed, and no other act has failed. -/
theorem Course.errors (h : Course serve remote site got ending acts site') :
    (Act.read got :: acts).filterMap Act.error? = ending.io?.toList := by
  -- At most the last operation of a course fails, and its error is the one that is returned.
  cases h with
  | unread t => rfl
  | closed => rfl
  | refused hne hread hacts =>
    rw [List.filterMap_cons_none rfl]
    cases hacts with
    | lost hwrites => exact hwrites.errors
    | written hwrites => exact hwrites.errors
  | failed hne hread hserve => rfl
  | answered hne hread hserve hacts =>
    rw [List.filterMap_cons_none rfl]
    cases hacts with
    | lost hwrites => exact hwrites.errors
    | unflushed hwrites => rw [List.filterMap_append, hwrites.errors]; rfl
    | sent hwrites => rw [List.filterMap_append, hwrites.errors]; rfl

/-- A connection that ends well has sent the response to what was read. -/
theorem Course.of_ok {bytes : Bytes} (h : Course serve remote site (.ok bytes) .ok acts site')
    (hne : bytes ≠ []) :
    ∃ r resp writes, Request.read bytes = .ok r
      ∧ (serve { r with remote }).run site = (.response resp, site')
      ∧ acts = writes ++ [.flush (.ok ())] ∧ Writes resp.bytes (.ok ()) writes := by
  cases h with
  | closed => exact absurd rfl hne
  | refused _ _ hacts => cases hacts
  | answered _ hread hserve hacts =>
    cases hacts with
    | sent hwrites => exact ⟨_, _, _, hread, hserve, rfl, hwrites⟩

/-- A connection that ends with a bad request has written the answer to what was read. -/
theorem Course.of_badRequest {e : Request.Error}
    (h : Course serve remote site got (.badRequest e) acts site') :
    ∃ bytes, got = .ok bytes ∧ bytes ≠ [] ∧ Request.read bytes = .error e
      ∧ Writes (badRequest e).bytes (.ok ()) acts := by
  cases h with
  | refused hne hread hacts =>
    cases hacts with
    | written hwrites => exact ⟨_, rfl, hne, hread, hwrites⟩
  | answered _ _ _ hacts => cases hacts

/-- If nothing has been read, then nothing is done behind the read. -/
theorem Course.of_nothing (h : Course serve remote site got ending acts site')
    (hgot : ∀ bytes, got = .ok bytes → bytes = []) : acts = [] := by
  cases h with
  | unread t => rfl
  | closed => rfl
  | refused hne hread hacts => exact absurd (hgot _ rfl) hne
  | failed hne hread hserve => rfl
  | answered hne hread hserve hacts => exact absurd (hgot _ rfl) hne

/-- A connection ends with a failure if the handlers of the mux have failed, and then nothing is
done behind the read. -/
theorem Course.failure_iff (h : Course serve remote site got ending acts site') (f : Failure) :
    ending = .failure f ↔
      ∃ bytes r, got = .ok bytes ∧ bytes ≠ [] ∧ Request.read bytes = .ok r
        ∧ ((serve { r with remote }).run site).1 = .failure f ∧ acts = [] := by
  -- From left to right only one way ends with a failure. From right to left the request that was
  -- read is the one that was served, so the others are ruled out.
  cases h with
  | unread t => simp
  | closed => simp
  | refused hne hread hacts =>
    refine iff_of_false (fun heq => ?_) fun ⟨bytes, r, hgot, _, hr, _⟩ => ?_
    · subst heq
      cases hacts
    · obtain rfl := Except.ok.inj hgot
      rw [hread] at hr
      cases hr
  | failed hne hread hserve =>
    constructor
    · intro heq
      obtain rfl := Ending.failure.inj heq
      exact ⟨_, _, rfl, hne, hread, congrArg Prod.fst hserve, rfl⟩
    · rintro ⟨bytes, r, hgot, -, hr, hfailure, -⟩
      obtain rfl := Except.ok.inj hgot
      obtain rfl := Except.ok.inj (hread.symm.trans hr)
      rw [hserve] at hfailure
      exact congrArg Ending.failure (Outcome.failure.inj hfailure)
  | answered hne hread hserve hacts =>
    refine iff_of_false (fun heq => ?_) fun ⟨bytes, r, hgot, _, hr, hfailure, _⟩ => ?_
    · subst heq
      cases hacts
    · obtain rfl := Except.ok.inj hgot
      obtain rfl := Except.ok.inj (hread.symm.trans hr)
      rw [hserve] at hfailure
      cases hfailure

end

/-- Take a connection to a mux on any socket, with a record of what it asks of the socket. If
something was read and the connection ends well, then a request was read, the mux answered it, the
whole response was written, and then the socket was flushed. If it ends with a bad request, then
what was read is none, and the mux was not asked, which is to say that anything else in its place
would have done; the whole answer was written, but not flushed. If an operation fails, then the
connection ends with its error, and it ends with an error only if an operation has failed. If
nothing was read, or handlers failed, then nothing is written. -/
theorem answered_in_full (app : (q : A.Ask) → Site.Change A S (A.Answer q)) (depth : Nat)
    (id : MuxId) (remote : Option SocketAddress) (limit : Nat) (s : σ) (site : Site A S) :
    let serve := Site.serveFresh app depth id
    let run := (handle serve remote limit (Watched.start s)).run site
    let ending := run.1.1
    let acts := run.1.2.acts
    let got := (Transport.read limit s).1
    (handle serve remote limit s).run site = ((ending, run.1.2.socket), run.2)
      ∧ (∀ bytes, got = .ok bytes → bytes ≠ [] → ending = .ok →
          ∃ r resp writes, Request.read bytes = .ok r
            ∧ (serve { r with remote }).run site = (.response resp, run.2)
            ∧ acts = .read got :: (writes ++ [.flush (.ok ())])
            ∧ Writes resp.bytes (.ok ()) writes)
      ∧ (∀ e, ending = .badRequest e →
          ∃ bytes writes, got = .ok bytes ∧ bytes ≠ [] ∧ Request.read bytes = .error e
            ∧ (∀ other : Request → Site.Change A S Outcome,
                (handle other remote limit (Watched.start s)).run site = run)
            ∧ acts = .read got :: writes ∧ Writes (badRequest e).bytes (.ok ()) writes)
      ∧ acts.filterMap Act.error? = ending.io?.toList
      ∧ ((∀ bytes, got = .ok bytes → bytes = []) → acts = [.read got])
      ∧ ∀ f, ending = .failure f ↔
          ∃ bytes r, got = .ok bytes ∧ bytes ≠ [] ∧ Request.read bytes = .ok r
            ∧ ((serve { r with remote }).run site).1 = .failure f ∧ acts = [.read got] := by
  intro serve run ending acts got
  obtain ⟨later, hacts, hcourse⟩ := course_handle serve remote limit s site
  change acts = .read got :: later at hacts
  change Course serve remote site got ending later run.2 at hcourse
  refine ⟨?_, fun bytes hgot hne hok => ?_, fun e he => ?_, ?_, fun hgot => ?_, fun f => ?_⟩
  · exact congrArg (fun m => m.run site) (handle_watched serve remote limit (Watched.start s)).symm
  · rw [hgot, hok] at hcourse
    obtain ⟨r, resp, writes, hread, hserve, rfl, hwrites⟩ := hcourse.of_ok hne
    exact ⟨r, resp, writes, hread, hserve, hacts, hwrites⟩
  · rw [he] at hcourse
    obtain ⟨bytes, hgot, hne, hread, hwrites⟩ := hcourse.of_badRequest
    -- The mux is not reached: this is said by putting anything else in its place.
    refine ⟨bytes, later, hgot, hne, hread, fun other => ?_, hacts, hwrites⟩
    have hsame := handle_of_not_read other serve remote (s := Watched.start s) hgot hread
    exact congrArg (fun m => m.run site) hsame
  · rw [hacts]
    exact hcourse.errors
  · rw [hacts, hcourse.of_nothing hgot]
  · rw [hcourse.failure_iff, hacts]
    simp

/-- The response to a request is written whole and then flushed. -/
theorem answered_in_full_bareHead :
    let run := (handle (Site.serveFresh Site.noReply 1 0) none 8192
      (Watched.start (Socket.delivering [bareHead]))).run (Site.solo echo)
    run.1.1 = .ok ∧ ∃ (resp : Response) (writes : List Act),
      run.1.2.acts = .read (.ok bareHead) :: (writes ++ [.flush (.ok ())])
        ∧ Writes resp.bytes (.ok ()) writes := by
  obtain ⟨hrun, hok, -⟩ := answered_in_full Site.noReply 1 0 none 8192
    (Socket.delivering [bareHead]) (Site.solo echo)
  have hread : Request.read bareHead = .ok ⟨.get, "/", .http10, Dict.empty, [], none⟩ := by rfl
  have hgot : (Transport.read 8192 (Socket.delivering [bareHead])).1 = .ok bareHead :=
    congrArg Except.ok (List.take_of_length_le (by decide))
  have hanswer : ((answer Site.noReply 1 0 none 8192 [bareHead]).run (Site.solo echo)).1 = _ :=
    ending_solo echo none (by decide) (by decide) []
  rw [hread, answer, Site.run_map] at hanswer
  -- The two runs are names from here on, so that nothing computes them.
  generalize (handle (Site.serveFresh Site.noReply 1 0) none 8192
    (Watched.start (Socket.delivering [bareHead]))).run (Site.solo echo) = run at hrun hok ⊢
  generalize (handle (Site.serveFresh Site.noReply 1 0) none 8192
    (Socket.delivering [bareHead])).run (Site.solo echo) = unwatchedRun at hrun hanswer
  subst hrun
  have hending : run.1.1 = .ok := congrArg Answer.ending hanswer
  obtain ⟨-, resp, writes, -, -, hacts, hwrites⟩ := hok bareHead hgot (by decide) hending
  rw [hgot] at hacts
  exact ⟨hending, resp, writes, hacts, hwrites⟩

/-- Bytes that are no request. -/
def nonsense : Bytes := Bytes.ofText "INVALID REQUEST"

/-- The answer to bytes that are no request stays on a socket that holds back what is written. -/
theorem refusal_not_sent :
    ∃ e, Request.read nonsense = .error e
      ∧ ((answer Site.noReply 1 0 none 8192 [nonsense]).run (Site.solo echo)).1
          = ⟨.badRequest e, (badRequest e).bytes, []⟩
      ∧ (badRequest e).bytes ≠ [] := by
  have hread : Request.read nonsense = .error (.badRequestLine "INVALID REQUEST") := by rfl
  refine ⟨_, hread, ?_, by decide⟩
  rw [ending_solo echo none (by decide) (by decide), hread]
  rfl

end Connection

end HttpMux
