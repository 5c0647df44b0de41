import HttpMux.Dict
import HttpMux.Text.Case

/-!
# `HttpMux.Headers`: header fields

Headers are kept under the exact spelling of their names. They are looked up without regard to the
case of ASCII letters; of several spellings of a name the first in order is found.

- `Headers.take_eq`: taking a header away gives the value that look-up finds.
-/

set_option autoImplicit false

namespace HttpMux

/-- Header values by name. -/
abbrev Headers := Dict String

namespace Headers

/-- The stored spelling of a name. -/
def spelling? (h : Headers) (name : String) : Option String :=
  h.findKey? fun k => Text.sameName k name

/-- The value of the header with the given name. -/
def value? (h : Headers) (name : String) : Option String :=
  (h.spelling? name).bind h.get?

/-- Whether there is a header with the given name. -/
def has (h : Headers) (name : String) : Bool := (h.spelling? name).isSome

/-- The headers without one of the given name. -/
def without (h : Headers) (name : String) : Headers :=
  match h.spelling? name with
  | some k => h.erase k
  | none => h

/-- Takes a header away: its value, if there was one, and the other headers. -/
def take (h : Headers) (name : String) : Option String × Headers :=
  match h.spelling? name with
  | some k => (h.get? k, h.erase k)
  | none => (none, h)

/-- The headers with one set under the given spelling, in place of one of that name. -/
def set (h : Headers) (name value : String) : Headers := (h.without name).insert name value

/-- Taking a header away gives its value, as look-up finds it, and the headers without it. -/
theorem take_eq (h : Headers) (name : String) : h.take name = (h.value? name, h.without name) := by
  rw [take, value?, without]
  cases h.spelling? name <;> rfl

end Headers

end HttpMux
