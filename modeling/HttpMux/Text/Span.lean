import HttpMux.Bytes

/-!
# `HttpMux.Text.Span`: parts of a text given by byte offsets

- `Span.Fits`: the offsets are in order, in bounds and between characters.
- `Text.cut`: the part of a text that a span covers.
-/

set_option autoImplicit false

namespace HttpMux

/-- The part of a byte sequence from offset `start` up to offset `stop`. -/
structure Span where
  start : Nat
  stop : Nat
  deriving DecidableEq, Repr

namespace Span

/-- The bytes that a span covers. -/
def bytesOf (sp : Span) (bs : Bytes) : Bytes := (bs.drop sp.start).take (sp.stop - sp.start)

/-- Whether a span of a text begins and ends between characters, in order and in bounds. -/
def Fits (sp : Span) (s : String) : Prop :=
  sp.start ≤ sp.stop ∧ String.Pos.Raw.IsValid s ⟨sp.start⟩ ∧ String.Pos.Raw.IsValid s ⟨sp.stop⟩

end Span

/-- The part of a text that a span covers; nothing if the span does not fit. -/
def Text.cut (s : String) (sp : Span) : String :=
  (Bytes.text? (sp.bytesOf (Bytes.ofText s))).getD ""

end HttpMux
