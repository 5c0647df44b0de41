import HttpMux.Mux
import HttpMux.Proofs.Regex.Matcher
import Mathlib.Data.List.Basic

/-!
# `HttpMux.Proofs.Pattern.LiteralStart`: accepted paths begin with the text of their pattern

The router never tries a route whose text the path does not begin with. That is right for every
pattern that can be registered.

* `Pattern.Sound`: every path that the pattern accepts begins with its text.
* `Placeholder.isPrefixOf_of_accepts`: placeholder patterns are sound.
* `Regular.matches_of_accepts`: what a regular expression accepts has a match by the rules.
* `Regular.isPrefixOf_of_accepts`: so regular expressions that are read from their source are sound.
* `Offer.sound`: so is every pattern that a route can be registered with. An application answers
  for patterns of its own.
-/

set_option autoImplicit false

namespace HttpMux

variable {View : Type}

/-- Every path that the pattern accepts begins with its text. -/
def Pattern.Sound (p : Pattern View) : Prop :=
  ∀ v r c, p.accepts v r c → (Bytes.ofText p.literalStart).isPrefixOf (Bytes.ofText r.urlPath)

/-- A path that a placeholder pattern accepts begins with its first literal. -/
theorem Placeholder.isPrefixOf_of_accepts {p : Placeholder} {path : String}
    (h : p.accepts path) : (Bytes.ofText p.literalStart).isPrefixOf (Bytes.ofText path) := by
  rw [accepts, spans?] at h
  rw [literalStart]
  cases hslots : p.slots with
  | nil =>
    -- Without placeholders the only literal is the last one.
    rw [hslots, spansFrom?, Option.isSome_map, restSpan?] at h
    split at h
    · split at h
      · assumption
      · cases h
    · split at h
      · rename_i heq
        rw [heq]
        exact List.isPrefixOf_iff_prefix.mpr (List.prefix_refl _)
      · cases h
  | cons s slots =>
    rw [hslots, spansFrom?] at h
    -- The first literal is taken off the path before anything else.
    cases hbehind : (Bytes.ofText s.literal).isPrefixOf? (Bytes.ofText path) with
    | none => simp [hbehind] at h
    | some behind =>
      have happend := List.append_eq_of_isPrefixOf?_eq_some hbehind
      exact List.isPrefixOf_iff_prefix.mpr ⟨behind, happend⟩

/-- In a path that a regular expression accepts, its tree has a match at the start. -/
theorem Regular.matches_of_accepts {p : Regular} {path : String} (h : p.accepts path) :
    ∃ matched behind, Bytes.ofText path = matched ++ behind
      ∧ p.regex.tree.bytes.Matches Regex.Look.HoldsBetween [] matched behind := by
  obtain ⟨front, rest, hpath, hmatch⟩ := Regex.Tree.matches_of_borders? h
  refine ⟨Bytes.ofChars front, Bytes.ofChars rest, ?_, hmatch⟩
  rw [Bytes.ofText_eq, hpath, Bytes.ofChars_append]

/-- A path that a regular expression accepts begins with the leading text of the expression. -/
theorem Regular.isPrefixOf_of_accepts {source : String} {properties : Regex.Properties}
    {p : Regular} (hp : Regular.ofSource? source properties = some p) {path : String}
    (h : p.accepts path) :
    (Bytes.ofText p.literalStart).isPrefixOf (Bytes.ofText path) := by
  rw [ofSource?, Option.map_eq_some_iff] at hp
  obtain ⟨regex, -, rfl⟩ := hp
  obtain ⟨matched, behind, hpath, hmatch⟩ := matches_of_accepts h
  rw [List.isPrefixOf_iff_prefix, hpath, ← Regex.Tree.leadingText_bytes]
  exact hmatch.isPrefix.trans (List.prefix_append _ _)

/-! ### Patterns that can be registered -/

/-- What a route can be registered with: the text of a placeholder pattern, the source of a regular
expression with the properties that it may name, a ready expression, or a pattern of the
application's own, which must be sound. -/
inductive Offer (View : Type)
  | text (raw : String)
  | expression (source : String) (properties : Regex.Properties)
  | built (regex : Regex)
  | own (p : OwnPattern View) (sound : (Pattern.own p).Sound)

namespace Offer

/-- What a registration is called with; nothing if the source is no regular expression. -/
def source? : Offer View → Option (PatternSource View)
  | text raw => some (.text raw)
  | expression source properties =>
    (Regular.ofSource? source properties).map fun p => .ready (.regular p)
  | built regex => some (.ready (.regular (.ofRegex regex)))
  | own p _ => some (.ready (.own p))

/-- The pattern of the route; nothing if the text that should spell it has a flaw. -/
def pattern? (o : Offer View) : Option (Pattern View) :=
  o.source?.bind fun source => source.resolve.toOption

/-- Every pattern that a route can be registered with is sound. -/
theorem sound {o : Offer View} {p : Pattern View} (h : o.pattern? = some p) : p.Sound := by
  intro v r c haccepts
  match o with
  | text raw =>
    simp only [pattern?, source?, Option.bind_some, PatternSource.resolve] at h
    split at h
    · cases h
      exact Placeholder.isPrefixOf_of_accepts haccepts
    · cases h
  | expression source properties =>
    simp only [pattern?, source?, Option.bind_eq_some_iff, Option.map_eq_some_iff] at h
    obtain ⟨_, ⟨regular, hregular, rfl⟩, h⟩ := h
    cases h
    exact Regular.isPrefixOf_of_accepts hregular haccepts
  | built regex =>
    -- The text of a ready expression is empty, so nothing is claimed.
    cases h
    rfl
  | own _ hsound =>
    cases h
    exact hsound v r c haccepts

end Offer

end HttpMux
