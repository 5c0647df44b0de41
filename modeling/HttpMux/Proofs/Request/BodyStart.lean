import HttpMux.Proofs.Request.Lines

/-!
# `HttpMux.Proofs.Request.BodyStart`: where the headers end and the body begins

Two scanners decide this. The one looks for two sequences of bytes, and the other takes header
lines up to an empty one.

* `body_follows_headers`: the lines in front of the first empty one are the request line and the
  headers, and the body is a piece of what follows it. It is all of it unless the message is mixed.
* `body_lost_in_mixed`: in a mixed message both scanners can disagree, and then bytes are lost.
-/

set_option autoImplicit false

namespace HttpMux.Request

open Bytes

/-- The body is a piece of the message, up to its end. -/
theorem splitHead_suffix (bs : Bytes) : (splitHead bs).2 <:+ bs := List.drop_suffix _ _

/-- In a message that begins with an empty line in carriage return and line feed, the body begins
behind this line or later. -/
theorem splitHead_blank_suffix (rest : Bytes) : (splitHead (0x0D :: 0x0A :: rest)).2 <:+ rest := by
  rw [splitHead_cons]
  split
  · -- The empty line begins an end of the head, or the scan goes on at its line feed and then
    -- behind it.
    exact List.drop_suffix 2 rest
  · rw [if_neg (by simp [blankAfterFeed]), splitHead_cons, if_neg (by simp [blankAfterReturn])]
    split
    · exact List.drop_suffix 1 rest
    · exact splitHead_suffix rest

/-- The body of a mixed message begins behind its first empty line or later. -/
theorem Layout.splitHead_mixed_body {l : Layout} (hl : l.Valid) (h : l.Mixed) :
    (splitHead l.bytes).2 <:+ l.remainder.body := by
  obtain ⟨rest, hremainder⟩ := Remainder.eq_blank_of_ending? h.2
  rw [splitHead_mixed hl h, hremainder]
  exact splitHead_blank_suffix rest

/-- The lines in front of the first empty one are the request line and the headers. The body is a
piece of what follows it, up to the end, and all of it unless the message is mixed. -/
theorem body_follows_headers {bs : Bytes} {r : Request} (h : read bs = .ok r) :
    ∃ first rest, (Layout.ofBytes bs).contents = (first :: rest).map ofText
      ∧ Spells first rest r
      ∧ r.body <:+ (Layout.ofBytes bs).remainder.body
      ∧ (¬ (Layout.ofBytes bs).Mixed → r.body = (Layout.ofBytes bs).remainder.body) := by
  obtain ⟨first, rest, hcontents, hspells⟩ := exists_spells_of_read h
  have hvalid := Layout.valid_ofBytes bs
  have hne : (Layout.ofBytes bs).contents ≠ [] := by
    rw [hcontents]
    exact List.cons_ne_nil _ _
  obtain ⟨_, _, _, -, -, -, -, -, hbody, -⟩ := read_eq_ok_iff.mp h
  rw [← Layout.bytes_ofBytes bs] at hbody
  -- If the message is not mixed, both scanners stop at the same empty line.
  have hwhole : ¬ (Layout.ofBytes bs).Mixed → r.body = (Layout.ofBytes bs).remainder.body :=
    fun hnot => hbody.trans (Layout.splitHead_body hvalid hnot hne)
  refine ⟨first, rest, hcontents, hspells, ?_, hwhole⟩
  by_cases hmixed : (Layout.ofBytes bs).Mixed
  · rw [hbody]
    exact Layout.splitHead_mixed_body hvalid hmixed
  · exact hwhole hmixed ▸ List.suffix_rfl

/-- Lines with both line ends, an empty line that is a line feed alone, and further empty lines in
the body. -/
def postMessage : Bytes := ofText "POST /a HTTP/1.1\nHost: b\r\n\nfirst\n\nsecond\r\n\r\n"

/-- The message is read with everything behind its empty line as the body. -/
theorem read_postMessage :
    read postMessage = .ok ⟨.post, "/a", .http11, Dict.ofList [("Host", "b")],
      ofText "first\n\nsecond\r\n\r\n", none⟩ := by
  rfl

/-- What follows the first empty line of the message is its body, as the message is not mixed. -/
theorem body_of_postMessage :
    (∃ r, read postMessage = .ok r) ∧ ¬ (Layout.ofBytes postMessage).Mixed
      ∧ (Layout.ofBytes postMessage).remainder.body = ofText "first\n\nsecond\r\n\r\n" := by
  have hnot : ¬ (Layout.ofBytes postMessage).Mixed := by decide +kernel
  obtain ⟨_, _, -, -, -, hbody⟩ := body_follows_headers read_postMessage
  exact ⟨⟨_, read_postMessage⟩, hnot, (hbody hnot).symm⟩

/-- An empty line in carriage return and line feed, behind a line that ends in a line feed alone. -/
def mixedMessage : Bytes := ofText "GET / HTTP/1.0\n\r\nbody"

/-- The message is read without a body. -/
theorem read_mixedMessage :
    read mixedMessage = .ok ⟨.get, "/", .http10, Dict.empty, [], none⟩ := by
  rfl

/-- In a mixed message, header lines end at the first empty line, but the head goes on, and the
bytes behind that line are lost. -/
theorem body_lost_in_mixed :
    ¬ ∀ bs r, read bs = .ok r → r.body = (Layout.ofBytes bs).remainder.body := by
  intro h
  have hbody : (Layout.ofBytes mixedMessage).remainder.body = ofText "body" := by decide +kernel
  have hlost := h mixedMessage _ read_mixedMessage
  rw [hbody] at hlost
  exact absurd hlost (by decide)

end HttpMux.Request
