import HttpMux.Proofs.Route.Table

/-!
# `HttpMux.Proofs.Route.Pruning`: routes of regular expressions that are not tried

A route is tried only if the path begins with the text of its pattern. For a regular expression that
text is worked out from the expression, and no match is lost by it.

* `Route.SafelyPruned`: routes that are read from the source of a regular expression, and all others
  that are known to be sound.
* `Regular.leadingText_sound`: every match of an expression begins with its leading text, so every
  path that a pattern accepts does, and trying only the routes whose text the path begins with sends
  each request where trying all of them in order does.
-/

set_option autoImplicit false

namespace HttpMux

open Regex (ByteTree Look Tree)

/-- The route has a regular expression that was read from a source, whatever properties it may have
named, or it has a sound pattern. -/
def Route.SafelyPruned {A : App} (x : Route A) : Prop :=
  (∃ source properties p,
      Regular.ofSource? source properties = some p ∧ x.pattern = .regular p)
    ∨ x.pattern.Sound

/-- A pattern that was read from a source accepts only paths that begin with its text. -/
theorem Route.SafelyPruned.sound {A : App} {x : Route A} (h : x.SafelyPruned) :
    x.pattern.Sound := by
  rcases h with ⟨source, properties, p, hp, hx⟩ | hsound
  · rw [hx]
    exact fun _ _ _ haccepts => Regular.isPrefixOf_of_accepts hp haccepts
  · exact hsound

/-- Every match of an expression at the start of a path begins with the leading text, wherever
conditions hold. An expression on characters has the leading text of the expression on their bytes.
A path that a pattern accepts has such a match, so it begins with the text that was worked out from
the source, whatever sets of characters the properties are that the source may name. In a table with
such patterns, the first route that takes a request is never left out: the request goes where it
goes if all routes are tried in order. -/
theorem Regular.leadingText_sound :
    (∀ (holds : Look → Bytes → Bytes → Prop) (t : ByteTree) (matched behind : Bytes),
        t.Matches holds [] matched behind →
          Bytes.ofText t.leadingText <+: matched ++ behind)
      ∧ (∀ t : Tree, t.bytes.leadingText = t.leadingText)
      ∧ (∀ (source : String) (properties : Regex.Properties) (p : Regular),
        ofSource? source properties = some p →
          p.literalStart = p.regex.tree.leadingText
            ∧ ∀ path : String, p.accepts path →
                (∃ matched behind, Bytes.ofText path = matched ++ behind
                    ∧ p.regex.tree.bytes.Matches Look.HoldsBetween [] matched behind)
                  ∧ Bytes.ofText p.literalStart <+: Bytes.ofText path)
      ∧ ∀ (A : App) (rt : Router A) (v : A.View) (c : Context) (r : Request),
          rt.ready = Machine.ofRoutes rt.routes → (∀ x ∈ rt.routes, x.SafelyPruned) →
            rt.dispatch v c r = Dispatch.ofRoutes v r c rt.routes := by
  refine ⟨fun holds t matched behind h => h.isPrefix.trans (List.prefix_append _ _),
    Tree.leadingText_bytes, fun source properties p hp => ⟨?_, fun path h => ?_⟩,
    fun A rt v c r hready hroutes => ?_⟩
  · rw [ofSource?, Option.map_eq_some_iff] at hp
    obtain ⟨regex, -, rfl⟩ := hp
    rfl
  · exact ⟨matches_of_accepts h, List.isPrefixOf_iff_prefix.mp (isPrefixOf_of_accepts hp h)⟩
  · -- Routes that are left out cannot take the request, as their texts are not in front of the
    -- path.
    have hsound : ∀ x ∈ rt.routes, x.pattern.Sound := fun x hx => (hroutes x hx).sound
    rw [Router.dispatch_of_ready hready, Dispatch.ofRoutes_filter_of_sound hsound]

-- A source may name properties, and the text in front of them is found all the same.
example :
    let properties := fun query => if query = "Nd" then some Regex.CharSet.digits else none
    (Regular.ofSource? "^/hello/(?P<year>\\p{Nd}+)$" properties).map Regular.literalStart
      = some "/hello/" := by decide +kernel

end HttpMux
