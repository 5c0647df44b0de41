/-!
# `HttpMux.Text.Case`: comparing ASCII letters without regard to case

- `Text.sameName`: two names that differ only in the case of ASCII letters.
-/

set_option autoImplicit false

namespace HttpMux.Text

/-- The text with its ASCII capital letters made small. -/
def lower (s : String) : String := String.ofList (s.toList.map Char.toLower)

/-- Whether two names agree up to the case of ASCII letters. -/
def sameName (s t : String) : Bool := s.toList.map Char.toLower == t.toList.map Char.toLower

/-- Two names agree up to case exactly if they are the same in small letters. -/
theorem sameName_iff {s t : String} : sameName s t = true ↔ lower s = lower t := by
  simp [sameName, lower, String.ext_iff]

end HttpMux.Text
