import HttpMux.Proofs.Chain.Outermost
import HttpMux.Proofs.Headers.Named
import HttpMux.Proofs.Layers.TagList

/-!
# `HttpMux.Proofs.Layers.EntityTag`: responses for clients that have the body

A client says which bodies it has: all of them, or those of some tags. The layer adds a tag to every
response that reports success, and leaves out a body that the client has. The decision is the right
one for every list of tags, unless a tag in it has an asterisk between two commas. Then the list is
taken for one of all tags.

* `isTag_tagOf`: tags of bodies have two quotes and no comma in them.
* `Claimed`: what a client says that it has, and how it is said in a header.
* `isFresh_iff`: for which claims a body is left out.
* `NotModified` and `Tagged`: what a response becomes.
* `thread_entityTag` and `entityTag_around`: what the layer does with every response of the inner
  chain.
* `not_modified_of_another_tag`: a list without the tag that leaves the body out.
-/

set_option autoImplicit false

namespace HttpMux

open Text Headers

namespace Layers

variable {A : App} {M : Type → Type} [Monad M] [LawfulMonad M]

/-! ### Tags of bodies -/

/-- Hexadecimal digits are no quotes and no commas. -/
theorem ne_of_mem_hexDigits {b : UInt8} {c : Char} (hc : c ∈ Bytes.hexDigits b) :
    c ≠ '"' ∧ c ≠ ',' := by
  have hdigit : ∀ n < 16, Nat.digitChar n ≠ '"' ∧ Nat.digitChar n ≠ ',' := by decide
  have hb := b.toNat_lt
  rw [Bytes.hexDigits, List.mem_cons, List.mem_singleton] at hc
  rcases hc with rfl | rfl
  · exact hdigit _ (by omega)
  · exact hdigit _ (by omega)

/-- The tag of a body has its two quotes around hexadecimal digits, so it is a tag. -/
theorem isTag_tagOf (body : Bytes) : IsTag (tagOf body) := by
  have hdigits : ∀ c ∈ (Md5.digest body).flatMap Bytes.hexDigits, c ≠ '"' ∧ c ≠ ',' := by
    intro c hc
    obtain ⟨b, -, hb⟩ := List.mem_flatMap.mp hc
    exact ne_of_mem_hexDigits hb
  have htag : (tagOf body).toList
      = '"' :: ((Md5.digest body).flatMap Bytes.hexDigits ++ ['"']) := by
    simp [tagOf, Bytes.hex]
  -- Only the two quotes around the digits count, whatever the digest is.
  generalize (Md5.digest body).flatMap Bytes.hexDigits = digits at hdigits htag
  have hquote : '"' ∉ digits := fun hmem => (hdigits _ hmem).1 rfl
  have hcomma : ',' ∉ digits := fun hmem => (hdigits _ hmem).2 rfl
  constructor
  · rw [htag, List.count_cons_self, List.count_append, List.count_eq_zero_of_not_mem hquote,
      List.count_singleton_self]
  · rw [htag]
    simp [hcomma]

/-! ### What a client says that it has -/

/-- What a client says that it has: no body, every body, or the bodies of some tags. -/
inductive Claimed
  | nothing
  | anything
  | tags (es : List TagEntry)

namespace Claimed

/-- How it is said: without a header, by an asterisk, or by a list of tags. -/
def StatedBy : Claimed → Option String → Prop
  | nothing, value => value = none
  | anything, value => value = some "*"
  | tags es, value => (∀ e ∈ es, e.Valid) ∧ value = some (TagEntry.list es)

instance (claimed : Claimed) (value : Option String) : Decidable (claimed.StatedBy value) :=
  match claimed with
  | nothing => inferInstanceAs (Decidable (value = none))
  | anything => inferInstanceAs (Decidable (value = some "*"))
  | tags es => inferInstanceAs (Decidable ((∀ e ∈ es, e.Valid) ∧ value = some (TagEntry.list es)))

/-- Whether the client says that it has the body of a tag. -/
def Names (tag : String) : Claimed → Prop
  | nothing => False
  | anything => True
  | tags es => ∃ e ∈ es, e.quoted = tag.toList

/-- Whether there is an asterisk between two commas in one of the tags. -/
def HidesAsterisk : Claimed → Prop
  | nothing => False
  | anything => False
  | tags es => ∃ e ∈ es, e.HidesAsterisk

end Claimed

/-- The client is taken to have a body exactly if it says so, or if an asterisk in one of its tags
looks like that. -/
theorem isFresh_iff {tag : String} (htag : IsTag tag) {r : Request} {claimed : Claimed}
    (hstated : claimed.StatedBy (r.header? "If-None-Match")) :
    isFresh r tag = true ↔ claimed.Names tag ∨ claimed.HidesAsterisk := by
  rw [isFresh]
  -- An asterisk alone is a list of one piece, and lists of tags are cut into pieces at each comma.
  cases claimed with
  | nothing =>
    rw [Claimed.StatedBy] at hstated
    simp [hstated, Claimed.Names, Claimed.HidesAsterisk]
  | anything =>
    rw [Claimed.StatedBy] at hstated
    have hpieces : (pieces ',' "*").map trim = ["*"] := by decide +kernel
    simp [hstated, hpieces, meansTag, Claimed.Names]
  | tags es =>
    obtain ⟨hvalid, hlist⟩ := hstated
    rw [hlist]
    exact any_meansTag_list_iff htag hvalid

/-! ### What a response becomes -/

/-- Instead of a response with a tag, one without its body and its content type. -/
structure NotModified (tag : String) (resp out : Response) : Prop where
  status : out.status = .notModified
  body : out.body = []
  length : IsSet "Content-Length" "0" resp.headers out.headers
  noType : (named "Content-Type" resp.headers).length ≤ 1 → named "Content-Type" out.headers = []
  tag : IsSet "ETag" tag resp.headers out.headers
  others : ∀ name, lower name ∉ ["content-length", "content-type", "etag"] →
    named name out.headers = named name resp.headers

/-- The same response, but with a tag. -/
structure Tagged (tag : String) (resp out : Response) : Prop where
  status : out.status = resp.status
  body : out.body = resp.body
  tag : IsSet "ETag" tag resp.headers out.headers
  others : others "ETag" out.headers = others "ETag" resp.headers

/-- Without its body and its content type, and with the tag, a response is as it should be. -/
theorem notModified_withHeader (tag : String) (resp : Response) :
    NotModified tag resp
      (({ resp.withBody [] with status := .notModified }.withoutHeader "Content-Type").withHeader
        "ETag" tag) := by
  have hlength : lower "Content-Length" = "content-length" := by decide +kernel
  have htype : lower "Content-Type" = "content-type" := by decide +kernel
  have hetag : lower "ETag" = "etag" := by decide +kernel
  -- The headers: the length is set, the content type is removed, the tag is set.
  have hheaders : (({ resp.withBody [] with status := .notModified }.withoutHeader
      "Content-Type").withHeader "ETag" tag).headers
        = ((resp.headers.set "Content-Length" "0").without "Content-Type").set "ETag" tag := rfl
  -- The three names differ, so none of these changes touches what another one has set.
  refine ⟨rfl, rfl, ?_, fun hone => ?_, ?_, fun name hname => ?_⟩
  · rw [hheaders]
    refine (isSet_set resp.headers "Content-Length" "0").congr rfl ?_
    rw [named_set_of_ne (by simp [hlength, hetag]), named_without_of_ne (by simp [hlength, htype])]
  · rw [hheaders, named_set_of_ne (by simp [htype, hetag])]
    refine named_without_of_length_le ?_
    rw [named_set_of_ne (by simp [hlength, htype])]
    exact hone
  · rw [hheaders]
    refine (isSet_set _ "ETag" tag).congr ?_ rfl
    rw [named_without_of_ne (by simp [htype, hetag]), named_set_of_ne (by simp [hlength, hetag])]
  · simp only [List.mem_cons, List.not_mem_nil, or_false, not_or] at hname
    rw [hheaders, named_set_of_ne (by rw [hetag]; exact hname.2.2),
      named_without_of_ne (by rw [htype]; exact hname.2.1),
      named_set_of_ne (by rw [hlength]; exact hname.1)]

variable {r : Request} {resp : Response}

/-- A response that reports success loses its body if the client has it. -/
theorem notModified_of_isFresh (hresp : resp.status.isSuccess)
    (hfresh : isFresh r (tagOf resp.body) = true) :
    NotModified (tagOf resp.body) resp (tagged r resp) := by
  rw [tagged, if_pos hresp]
  simp only [hfresh, if_true]
  exact notModified_withHeader (tagOf resp.body) resp

/-- A response that reports success keeps its body if the client does not have it. -/
theorem tagged_of_not_isFresh (hresp : resp.status.isSuccess)
    (hfresh : ¬ isFresh r (tagOf resp.body) = true) :
    Tagged (tagOf resp.body) resp (tagged r resp) := by
  rw [tagged, if_pos hresp]
  simp only [hfresh, Bool.false_eq_true, if_false]
  exact ⟨rfl, rfl, isSet_set _ _ _, others_set _ _ _⟩

/-! ### The layer -/

/-- Around whatever is inside it, the layer hands the request inwards as it is, and adds a tag to
what comes back. -/
theorem thread_entityTag (answer : (q : Question A) → M q.Answer) (inside : Server M) (c : Context)
    (r : Request) :
    (entityTag.layer : Layer A).thread answer inside c r = Served.map (tagged r) <$> inside c r :=
  Layer.thread_plain_once answer inside id tagged c r

/-- The layer hands the request inwards as it is. A response that does not report success comes back
unchanged. Any other response comes back with the tag of its body, and without the body exactly if
the client says that it has the body of this tag, or names a tag with an asterisk between two
commas. -/
theorem entityTag_around (answer : (q : Question A) → M q.Answer) (router : Server M) (s : Stack A)
    (c : Context) (r : Request) :
    (s.enclosed entityTag).serve answer router c r
        = Served.map (tagged r) <$> s.serve answer router c r
      ∧ ∀ resp : Response,
        (¬ resp.status.isSuccess → tagged r resp = resp)
        ∧ (resp.status.isSuccess →
            ∀ claimed : Claimed, claimed.StatedBy (r.header? "If-None-Match") →
              ((claimed.Names (tagOf resp.body) ∨ claimed.HidesAsterisk →
                  NotModified (tagOf resp.body) resp (tagged r resp))
              ∧ (¬ (claimed.Names (tagOf resp.body) ∨ claimed.HidesAsterisk) →
                  Tagged (tagOf resp.body) resp (tagged r resp)))) := by
  refine ⟨?_, fun resp => ⟨fun hresp => ?_, fun hresp claimed hstated => ?_⟩⟩
  · rw [Stack.serve_enclosed, thread_entityTag]
  · rw [tagged, if_neg hresp]
  · have hfresh := isFresh_iff (isTag_tagOf resp.body) hstated
    exact ⟨fun hnamed => notModified_of_isFresh hresp (hfresh.mpr hnamed),
      fun hnamed => tagged_of_not_isFresh hresp (mt hfresh.mp hnamed)⟩

/-- A weak tag with a comma in it, and the tag of a body without bytes. -/
def laterTag : Claimed :=
  .tags [⟨[], true, "a,b".toList, []⟩,
    ⟨[' '], false, "d41d8cd98f00b204e9800998ecf8427e".toList, []⟩]

/-- A request with these tags. -/
def laterTagRequest : Request :=
  ⟨.get, "/", .http10,
    Dict.ofList [("if-none-match", "W/\"a,b\", \"d41d8cd98f00b204e9800998ecf8427e\"")], [], none⟩

/-- The tag is found behind another one with a comma in it. -/
theorem entityTag_around_laterTag :
    laterTag.StatedBy (laterTagRequest.header? "If-None-Match")
      ∧ NotModified (tagOf []) (Response.new .ok) (tagged laterTagRequest (Response.new .ok)) := by
  have hstated : laterTag.StatedBy (laterTagRequest.header? "If-None-Match") := by decide +kernel
  have hnamed : laterTag.Names (tagOf []) :=
    ⟨_, List.mem_cons_of_mem _ List.mem_cons_self, by decide +kernel⟩
  obtain ⟨-, hresponse⟩ := entityTag_around (A := Chain.silent) (M := Id) Chain.silentAnswer
    (fun c _ => ⟨c, .response (.new .ok)⟩) (Stack.new 0 1) Context.empty laterTagRequest
  obtain ⟨-, hsuccess⟩ := hresponse (.new .ok)
  exact ⟨hstated, (hsuccess (by decide) laterTag hstated).1 (Or.inl hnamed)⟩

/-! ### An asterisk between commas -/

/-- One tag, with an asterisk between two commas in it. -/
def asteriskTag : Claimed := .tags [⟨[], false, "a,*,b".toList, []⟩]

/-- A request with this tag. -/
def asteriskRequest : Request :=
  ⟨.get, "/", .http10, Dict.ofList [("If-None-Match", "\"a,*,b\"")], [], none⟩

/-- The tag is not that of any body, but every body is left out. -/
theorem not_modified_of_another_tag :
    asteriskTag.StatedBy (asteriskRequest.header? "If-None-Match")
      ∧ ∀ resp : Response, resp.status.isSuccess →
          ¬ asteriskTag.Names (tagOf resp.body)
            ∧ (tagged asteriskRequest resp).status = .notModified
            ∧ (tagged asteriskRequest resp).body = [] := by
  have hstated : asteriskTag.StatedBy (asteriskRequest.header? "If-None-Match") := by
    decide +kernel
  have hhidden : asteriskTag.HidesAsterisk :=
    ⟨_, List.mem_singleton_self _, by decide +kernel⟩
  refine ⟨hstated, fun resp hresp => ⟨?_, ?_⟩⟩
  · rintro ⟨e, he, hquoted⟩
    obtain rfl := List.mem_singleton.mp he
    refine (isTag_tagOf resp.body).noComma (hquoted ▸ ?_)
    decide +kernel
  · have hfresh := (isFresh_iff (isTag_tagOf resp.body) hstated).mpr (Or.inr hhidden)
    have hout := notModified_of_isFresh hresp hfresh
    exact ⟨hout.status, hout.body⟩

end Layers

end HttpMux
