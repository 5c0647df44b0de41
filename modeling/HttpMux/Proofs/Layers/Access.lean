import HttpMux.Layers.Access
import HttpMux.Proofs.Base64
import HttpMux.Proofs.Chain.Outermost
import HttpMux.Proofs.Headers.Named
import HttpMux.Proofs.Text.Cutting

/-!
# `HttpMux.Proofs.Layers.Access`: who gets past the layer that asks for a password

The header of a request spells a user name and a password, with a colon between them, in base 64.
The text is cut at its first colon, so a password may hold colons and a user name may not. Each step
of the reading can be undone, and only one text spells the bytes of the two. So nothing but the user
name and the password gets past the layer.

* `Script.run_embed`: a script that calls nothing inwards, as part of one that may.
* `authorizationText?_eq_some_iff`: which headers spell a text.
* `Credentials.admits_iff`: which requests the layer lets pass.
* `thread_basicAuth` and `basicAuth_around`: what the layer does with a request.
-/

set_option autoImplicit false

namespace HttpMux

open Text Headers

variable {A : App} {M : Type → Type} [Monad M]

/-- As part of a script that may call inwards, a script that does not still calls nothing. -/
theorem Script.run_embed {I O R : Type} (inner : I → M O) (answer : (q : Question A) → M q.Answer)
    (s : Script A Empty Empty R) :
    (s.embed : Script A I O R).run inner answer = s.run (fun i => i.elim) answer := by
  induction s with
  | done r => rfl
  | inward i k => exact i.elim
  | ask q k ih =>
    rw [embed, run, run]
    simp only [ih]

/-- Bytes are decoded to a text exactly if they are its encoding. -/
theorem Bytes.text?_eq_some_iff {bs : Bytes} {s : String} : text? bs = some s ↔ bs = ofText s := by
  constructor
  · intro h
    exact (ofText_of_text? h).symm
  · rintro rfl
    exact text?_ofText s

namespace Layers

/-! ### Reading the header -/

/-- A header spells a text if it has the encoding of the text behind the scheme, with blanks
around. -/
theorem authorizationText?_eq_some_iff {r : Request} {text : String} :
    authorizationText? r = some text
      ↔ ∃ spelled, r.header? "Authorization" = some ("Basic " ++ spelled)
          ∧ trimChars spelled.toList = Base64.encode (Bytes.ofText text) := by
  simp only [authorizationText?, Option.bind_eq_bind, Option.bind_eq_some_iff,
    dropStart?_eq_some_iff, Base64.decode?_eq_some_iff, Bytes.text?_eq_some_iff]
  constructor
  · rintro ⟨value, hvalue, spelled, rfl, bytes, htrim, rfl⟩
    exact ⟨spelled, hvalue, htrim⟩
  · rintro ⟨spelled, hvalue, htrim⟩
    exact ⟨_, hvalue, spelled, rfl, _, htrim, rfl⟩

namespace Credentials

/-- A request presents the credentials if it has their encoding in a header behind the scheme, with
blanks around. No request presents a user name with a colon. -/
def PresentedBy (k : Credentials A) (r : Request) : Prop :=
  ':' ∉ k.user.toList
    ∧ ∃ e ∈ r.headers.entries, lower e.1 = lower "Authorization"
        ∧ ∃ spelled, e.2 = "Basic " ++ spelled
            ∧ trim spelled
                = String.ofList (Base64.encode (Bytes.ofText (k.user ++ ":" ++ k.password)))

/-- The layer lets a request pass exactly if its header spells the credentials, and the first colon
is the one behind the user name. -/
theorem admits_iff {k : Credentials A} {r : Request} :
    k.admits r = true
      ↔ authorizationText? r = some (k.user ++ ":" ++ k.password) ∧ ':' ∉ k.user.toList := by
  -- The check compares the two parts of the text, cut at its first colon.
  have hcut : k.admits r = true
      ↔ (authorizationText? r).bind (splitFirst? ':') = some (k.user, k.password) := by
    rw [admits]
    split
    · rename_i user password hsplit
      simp [hsplit]
    · rename_i hnone
      simp [hnone]
  rw [hcut, Option.bind_eq_some_iff]
  simp only [splitFirst?_eq_some_iff]
  constructor
  · rintro ⟨text, htext, rfl, hcolon⟩
    exact ⟨htext, hcolon⟩
  · rintro ⟨htext, hcolon⟩
    exact ⟨_, htext, rfl, hcolon⟩

/-- With at most one header to read, the layer lets exactly those requests pass that present the
credentials. -/
theorem admits_iff_presentedBy {k : Credentials A} {r : Request}
    (hone : (named "Authorization" r.headers).length ≤ 1) :
    k.admits r = true ↔ k.PresentedBy r := by
  -- With one header of the name at most, look-up finds it wherever it stands.
  rw [admits_iff, authorizationText?_eq_some_iff, PresentedBy, and_comm]
  refine and_congr_right' ?_
  simp only [Request.header?, value?_eq_some_iff hone, trim, String.ofList_inj]
  constructor
  · rintro ⟨spelled, ⟨e, he, hname, hvalue⟩, htrim⟩
    exact ⟨e, he, hname, spelled, hvalue, htrim⟩
  · rintro ⟨e, he, hname, spelled, hvalue, htrim⟩
    exact ⟨spelled, ⟨e, he, hname, hvalue⟩, htrim⟩

/-- The handler of requests that are turned away. -/
def rejecting (k : Credentials A) : Endpoint A :=
  k.unauthorized.getD (Endpoint.constant Layers.unauthorized)

end Credentials

/-! ### The layer -/

variable [LawfulMonad M]

/-- Around whatever is inside it, the layer either does nothing at all, or calls nothing inwards. -/
theorem thread_basicAuth (k : Credentials A) (answer : (q : Question A) → M q.Answer)
    (inside : Server M) (c : Context) (r : Request) :
    (basicAuth k).layer.thread answer inside c r
      = if k.admits r then inside c r
        else Served.map (fun resp => resp.withHeader "WWW-Authenticate" k.challenge)
          <$> (k.rejecting.script c r).run (fun i => i.elim) answer := by
  simp only [basicAuth, Layer.thread]
  by_cases hadmits : k.admits r = true
  · rw [if_pos hadmits, if_pos hadmits]
    exact bind_pure (inside c r)
  · -- The handler's script is part of that of the layer, and calls nothing inwards there either.
    rw [if_neg hadmits, if_neg hadmits]
    show (Script.bind (Script.embed (k.rejecting.script c r)) _).run _ answer = _
    rw [Script.run_bind, Script.run_embed, map_eq_pure_bind]
    rfl

/-- A request that presents the credentials reaches the inner chain as it is, with its context, and
the layer does nothing else. For any other request nothing of the inner chain is run. Then the
handler of requests that are turned away gets the request and the context, and the challenge is set
in its response; nothing else of the response changes. -/
theorem basicAuth_around {r : Request} (hone : (named "Authorization" r.headers).length ≤ 1)
    (k : Credentials A) (answer : (q : Question A) → M q.Answer) (router : Server M) (s : Stack A)
    (c : Context) :
    let asking := fun resp : Response => resp.withHeader "WWW-Authenticate" k.challenge
    (k.PresentedBy r →
        (s.enclosed (basicAuth k)).serve answer router c r = s.serve answer router c r)
      ∧ (¬ k.PresentedBy r →
        (s.enclosed (basicAuth k)).serve answer router c r
          = Served.map asking <$> (k.rejecting.script c r).run (fun i => i.elim) answer)
      ∧ ∀ resp, (asking resp).status = resp.status
          ∧ (asking resp).body = resp.body
          ∧ others "WWW-Authenticate" (asking resp).headers = others "WWW-Authenticate" resp.headers
          ∧ IsSet "WWW-Authenticate" ("Basic realm=\"" ++ k.realm ++ "\"") resp.headers
              (asking resp).headers := by
  intro asking
  rw [Stack.serve_enclosed, thread_basicAuth, ← Credentials.admits_iff_presentedBy hone]
  refine ⟨fun hadmits => if_pos hadmits, fun hadmits => if_neg hadmits, fun resp => ?_⟩
  exact ⟨rfl, rfl, others_set _ _ _, isSet_set _ _ _⟩

/-- A user name and a password with a colon in it. -/
def colonPassword : Credentials Chain.silent := ⟨"Members", "u", "p:q", none⟩

/-- A request that presents them, with the name of the header in small letters, and blanks. -/
def colonPasswordRequest : Request :=
  ⟨.get, "/", .http11, Dict.ofList [("authorization", "Basic  dTpwOnE= ")], [], none⟩

/-- The request gets past the layer, and a request without the header is asked for it. -/
theorem basicAuth_around_colonPassword :
    (named "Authorization" colonPasswordRequest.headers).length ≤ 1
      ∧ (((Stack.new 0 1).enclosed (basicAuth colonPassword)).serve Chain.silentAnswer everyPage
            Context.empty colonPasswordRequest).outcome = .response (.new .ok)
      ∧ (((Stack.new 0 1).enclosed (basicAuth colonPassword)).serve Chain.silentAnswer everyPage
            Context.empty { colonPasswordRequest with headers := Dict.empty }).outcome
          = .response (unauthorized.withHeader "WWW-Authenticate" "Basic realm=\"Members\"") := by
  have hone : (named "Authorization" colonPasswordRequest.headers).length ≤ 1 := by decide +kernel
  have hpresented : colonPassword.PresentedBy colonPasswordRequest :=
    ⟨by decide, _, List.mem_singleton_self _, by decide +kernel, " dTpwOnE= ", rfl,
      by decide +kernel⟩
  obtain ⟨hpasses, -, -⟩ := basicAuth_around hone colonPassword Chain.silentAnswer everyPage
    (Stack.new 0 1) Context.empty
  -- Without a header nothing is presented.
  have hmissing :
      ¬ colonPassword.PresentedBy { colonPasswordRequest with headers := Dict.empty } := by
    rintro ⟨-, e, he, -⟩
    cases he
  obtain ⟨-, hturned, -⟩ := basicAuth_around
    (r := { colonPasswordRequest with headers := Dict.empty }) (by decide +kernel) colonPassword
    Chain.silentAnswer everyPage (Stack.new 0 1) Context.empty
  refine ⟨hone, ?_, ?_⟩
  · rw [hpasses hpresented]
    rfl
  · rw [hturned hmissing]
    rfl

end Layers

end HttpMux
