import HttpMux.Proofs.Layers.EntityTag
import HttpMux.Proofs.Request.Lookup

/-!
# `HttpMux.Proofs.Layers.NoCache`: requests without conditions

The layer takes headers away before it hands a request inwards, one for each name that asks for a
response under a condition. A name with one header is gone then, and a tag that an inner layer adds
never leaves out a body. A name with several spellings loses one of them.

* `Headers.named_foldl_without`: of each of some names, removal takes the first header away.
* `Headers.filter_foldl_without`: the headers of all other names stay.
* `Layers.thread_noCache`: the layer around whatever is inside it.
* `Layers.unconditional_inside`: which request reaches the inside of the layer.
* `Layers.condition_left_of_two_spellings`: a condition that reaches it.
-/

set_option autoImplicit false

namespace HttpMux

open Text

/-! ### Taking several names away -/

namespace Headers

variable {h : Headers} {name other : String}

/-- Spellings of one name have the same headers. -/
theorem named_congr (hname : lower name = lower other) : named name h = named other h := by
  rw [named, named, hname]

/-- Removing a header leaves the headers sorted. -/
theorem sorted_without (hh : h.Sorted) (name : String) : (h.without name).Sorted := by
  rw [without]
  split
  · exact hh.erase _
  · exact hh

/-- Of each of some names that do not agree with each other, the first header is taken away. -/
theorem named_foldl_without (hh : h.Sorted) {names : List String}
    (hnames : (names.map lower).Nodup) (name : String) :
    named name (names.foldl without h)
      = if lower name ∈ names.map lower then (named name h).tail else named name h := by
  -- The headers change with each removal, so the statement is about any sorted headers.
  induction names generalizing h with
  | nil => simp
  | cons n names ih =>
    rw [List.map_cons, List.nodup_cons] at hnames
    rw [List.foldl_cons, ih (sorted_without hh n) hnames.2, List.map_cons]
    by_cases hname : lower name = lower n
    · -- The name is not among the later ones, so this is the only removal of it.
      have hlater : lower name ∉ names.map lower := hname ▸ hnames.1
      rw [if_neg hlater, if_pos (by simp [hname]), named_congr hname, named_congr hname,
        named_without (hh.keys_ne (.refl _))]
    · have hmem : lower name ∈ lower n :: names.map lower ↔ lower name ∈ names.map lower := by
        simp [hname]
      simp only [hmem, named_without_of_ne hname]

/-- The headers of all other names stay. -/
theorem filter_foldl_without (h : Headers) (names : List String) :
    ((names.foldl without h).entries.filter fun e => lower e.1 ∉ names.map lower)
      = h.entries.filter fun e => lower e.1 ∉ names.map lower := by
  -- A removal is not seen among names that are not removed, nor are those before it.
  suffices hall : ∀ gone : List String, names ⊆ gone →
      ((names.foldl without h).entries.filter fun e => lower e.1 ∉ gone.map lower)
        = h.entries.filter fun e => lower e.1 ∉ gone.map lower from hall names (List.Subset.refl _)
  intro gone hgone
  induction names generalizing h with
  | nil => rfl
  | cons n names ih =>
    obtain ⟨hn, hnames⟩ := List.cons_subset.mp hgone
    have hkept : ∀ h : Headers, (h.entries.filter fun e => lower e.1 ∉ gone.map lower)
        = (others n h).filter fun e => lower e.1 ∉ gone.map lower := by
      intro h
      rw [others, List.filter_filter]
      refine List.filter_congr fun e _ => ?_
      by_cases he : lower e.1 = lower n
      · simp [he, List.mem_map_of_mem hn]
      · simp [he]
    rw [List.foldl_cons, ih _ hnames, hkept, others_without, ← hkept]

end Headers

open Headers

namespace Layers

variable {A : App} {M : Type → Type} [Monad M] [LawfulMonad M]

/-! ### The layer -/

/-- Around whatever is inside it, the layer hands the request inwards without conditions. -/
theorem thread_noCache (answer : (q : Question A) → M q.Answer) (inside : Server M) (c : Context)
    (r : Request) :
    (noCache.layer : Layer A).thread answer inside c r
      = Served.map uncacheable <$> inside c (unconditional r) :=
  Layer.thread_plain_once answer inside unconditional (fun _ => uncacheable) c r

/-! ### Requests without conditions -/

/-- Whether a name is one of those that ask for a response under a condition, in any spelling. -/
def IsConditional (name : String) : Prop := lower name ∈ conditionalHeaders.map lower

instance (name : String) : Decidable (IsConditional name) :=
  inferInstanceAs (Decidable (_ ∈ _))

/-- Removing several headers of a request changes its headers and nothing else. -/
theorem foldl_withoutHeader (names : List String) (r : Request) :
    names.foldl Request.withoutHeader r
      = { r with headers := names.foldl Headers.without r.headers } := by
  induction names generalizing r with
  | nil => rfl
  | cons n names ih => rw [List.foldl_cons, ih, List.foldl_cons, Request.withoutHeader]

/-- The headers without conditions are those after removing each conditional name once. -/
theorem headers_unconditional (r : Request) :
    (unconditional r).headers = conditionalHeaders.foldl Headers.without r.headers := by
  rw [unconditional, foldl_withoutHeader]

/-- Nothing but the headers changes. -/
theorem unconditional_eq (r : Request) :
    unconditional r = { r with headers := (unconditional r).headers } := by
  rw [headers_unconditional, unconditional, foldl_withoutHeader]

/-- No two of the conditional names are spellings of one name. -/
theorem nodup_conditionalHeaders : (conditionalHeaders.map lower).Nodup := by decide +kernel

/-- Of each conditional name, the first header is taken away. -/
theorem named_unconditional {r : Request} (hr : r.headers.Sorted) {name : String}
    (hname : IsConditional name) :
    named name (unconditional r).headers = (named name r.headers).tail := by
  rw [headers_unconditional, named_foldl_without hr nodup_conditionalHeaders]
  exact if_pos (show lower name ∈ conditionalHeaders.map lower from hname)

/-- No condition is left exactly if each conditional name had at most one header. -/
theorem no_condition_iff {r : Request} (hr : r.headers.Sorted) :
    (∀ e ∈ (unconditional r).headers.entries, ¬ IsConditional e.1)
      ↔ ∀ name ∈ conditionalHeaders, (named name r.headers).length ≤ 1 := by
  -- A header that is left is one of the tail of its name, so it is left exactly if there was
  -- another one.
  constructor
  · intro hnone name hname
    have hconditional : IsConditional name := List.mem_map_of_mem hname
    have hnil : named name (unconditional r).headers = [] := by
      refine List.eq_nil_iff_forall_not_mem.mpr fun e he => ?_
      obtain ⟨hmem, hlower⟩ := mem_named_iff.mp he
      refine hnone e hmem ?_
      rw [IsConditional, hlower]
      exact hconditional
    rw [named_unconditional hr hconditional, ← List.length_eq_zero_iff, List.length_tail] at hnil
    omega
  · intro hone e he hconditional
    obtain ⟨name, hname, hlower⟩ := List.mem_map.mp hconditional
    have hmem : e ∈ named name (unconditional r).headers := mem_named_iff.mpr ⟨he, hlower.symm⟩
    rw [named_unconditional hr (List.mem_map_of_mem hname)] at hmem
    have hlength := List.length_pos_of_mem hmem
    have hle := hone name hname
    rw [List.length_tail] at hlength
    omega

/-- Setting headers leaves the status and the body. -/
theorem foldl_withHeader_frame (fields : List (String × String)) (resp : Response) :
    (fields.foldl (fun r (k, v) => r.withHeader k v) resp).status = resp.status
      ∧ (fields.foldl (fun r (k, v) => r.withHeader k v) resp).body = resp.body := by
  induction fields generalizing resp with
  | nil => exact ⟨rfl, rfl⟩
  | cons e fields ih => exact ih (resp.withHeader e.1 e.2)

/-- Forbidding caches to keep a response leaves its status and its body. -/
theorem uncacheable_frame (resp : Response) :
    (uncacheable resp).status = resp.status ∧ (uncacheable resp).body = resp.body :=
  foldl_withHeader_frame noCacheHeaders resp

/-- A request without a list of tags is never answered without its body. -/
theorem tagged_of_header?_eq_none {r : Request} (hr : r.header? "If-None-Match" = none)
    (resp : Response) :
    (tagged r resp).status = resp.status ∧ (tagged r resp).body = resp.body := by
  by_cases hresp : resp.status.isSuccess
  · have hstated : Claimed.nothing.StatedBy (r.header? "If-None-Match") := hr
    have hfresh : ¬ isFresh r (tagOf resp.body) = true := by
      rw [isFresh_iff (isTag_tagOf resp.body) hstated]
      simp [Claimed.Names, Claimed.HidesAsterisk]
    have hout := tagged_of_not_isFresh hresp hfresh
    exact ⟨hout.status, hout.body⟩
  · rw [tagged, if_neg hresp]
    exact ⟨rfl, rfl⟩

/-- The request that the layer hands to the inner chain has the method, the target, the version, the
body and the remote address of the request, and all headers that are not conditional. Of each
conditional name one header is taken away, so no conditional header is left exactly if no
conditional name has several. If there is at most one list of tags, then a layer for tags directly
inside leaves every response its status and its body. -/
theorem unconditional_inside {r : Request} (hr : r.headers.Sorted)
    (answer : (q : Question A) → M q.Answer) (router : Server M) (s : Stack A) (c : Context) :
    let inward := unconditional r
    (s.enclosed noCache).serve answer router c r
        = Served.map uncacheable <$> s.serve answer router c inward
      ∧ inward = { r with headers := inward.headers }
      ∧ (inward.headers.entries.filter fun e => ¬ IsConditional e.1)
          = (r.headers.entries.filter fun e => ¬ IsConditional e.1)
      ∧ (∀ name, IsConditional name →
          (named name inward.headers).length = (named name r.headers).length - 1)
      ∧ ((∀ e ∈ inward.headers.entries, ¬ IsConditional e.1)
          ↔ ∀ name ∈ conditionalHeaders, (named name r.headers).length ≤ 1)
      ∧ ((named "If-None-Match" r.headers).length ≤ 1 →
          ∃ change : Response → Response,
            ((s.enclosed entityTag).enclosed noCache).serve answer router c r
                = Served.map change <$> s.serve answer router c inward
              ∧ ∀ resp, (change resp).status = resp.status ∧ (change resp).body = resp.body) := by
  intro inward
  refine ⟨?_, unconditional_eq r, ?_, fun name hname => ?_, no_condition_iff hr, fun hone => ?_⟩
  · rw [Stack.serve_enclosed, thread_noCache]
  · simp only [inward, headers_unconditional, IsConditional]
    exact filter_foldl_without r.headers conditionalHeaders
  · rw [named_unconditional hr hname, List.length_tail]
  · -- With at most one list of tags none is left, and then a layer for tags has nothing to compare
    -- with.
    have hconditional : IsConditional "If-None-Match" := by decide +kernel
    have hnone : inward.header? "If-None-Match" = none := by
      refine value?_of_named_eq_nil ?_
      rw [named_unconditional hr hconditional, ← List.length_eq_zero_iff, List.length_tail]
      omega
    refine ⟨fun resp => uncacheable (tagged inward resp), ?_, fun resp => ?_⟩
    · rw [Stack.serve_enclosed, thread_noCache, Stack.serve_enclosed, thread_entityTag,
        Functor.map_map]
      simp only [Served.map_map]
      rfl
    · obtain ⟨hstatus, hbody⟩ := tagged_of_header?_eq_none hnone resp
      obtain ⟨hstatus', hbody'⟩ := uncacheable_frame (tagged inward resp)
      exact ⟨hstatus'.trans hstatus, hbody'.trans hbody⟩

/-- A request with two conditions, in spellings of their own, and another header. -/
def conditionalRequest : Request :=
  ⟨.get, "/", .http10, Dict.ofList [("A", "b"), ("IF-MATCH", "*"), ("if-none-match", "*")], [],
    none⟩

/-- Both conditions are taken away. -/
theorem unconditional_conditionalRequest :
    conditionalRequest.headers.Sorted
      ∧ ∀ e ∈ (unconditional conditionalRequest).headers.entries, ¬ IsConditional e.1 := by
  have hsorted : conditionalRequest.headers.Sorted := Dict.sorted_ofList _
  obtain ⟨-, -, -, -, hnone, -⟩ := unconditional_inside (A := Chain.silent) (M := Id) hsorted
    Chain.silentAnswer (fun c _ => ⟨c, .response (.new .ok)⟩) (Stack.new 0 1) Context.empty
  exact ⟨hsorted, hnone.mpr (by decide +kernel)⟩

/-- Of a condition in two spellings one reaches the inside, and a layer for tags that is there
leaves out the body of every response that reports success. -/
theorem condition_left_of_two_spellings :
    Request.read Request.twoSpellings = .ok Request.twoSpellingsRequest
      ∧ (unconditional Request.twoSpellingsRequest).headers.entries = [("if-none-match", "*")]
      ∧ ∀ resp : Response, resp.status.isSuccess →
          (tagged (unconditional Request.twoSpellingsRequest) resp).status = .notModified
            ∧ (tagged (unconditional Request.twoSpellingsRequest) resp).body = [] := by
  have hentries : (unconditional Request.twoSpellingsRequest).headers.entries
      = [("if-none-match", "*")] := by
    decide +kernel
  refine ⟨Request.read_twoSpellings, hentries, fun resp hresp => ?_⟩
  have hstated : Claimed.anything.StatedBy
      ((unconditional Request.twoSpellingsRequest).header? "If-None-Match") := by
    decide +kernel
  have hfresh := (isFresh_iff (isTag_tagOf resp.body) hstated).mpr (Or.inl trivial)
  have hout := notModified_of_isFresh hresp hfresh
  exact ⟨hout.status, hout.body⟩

end Layers

end HttpMux
