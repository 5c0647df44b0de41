import HttpMux.Method
import HttpMux.Text.Quoted

/-!
# `HttpMux.MethodSet`: sets of request methods

A set is given by its members. It is shown as the names of its members in alphabetical order.
-/

set_option autoImplicit false

namespace HttpMux

/-- A set of methods, given by its membership test. -/
@[ext]
structure MethodSet where
  contains : Method → Bool

namespace MethodSet

/-- The set without members. -/
def empty : MethodSet := ⟨fun _ => false⟩

/-- The set of all methods. -/
def all : MethodSet := ⟨fun _ => true⟩

/-- The set with one member. -/
def of (m : Method) : MethodSet := ⟨fun x => x = m⟩

/-- The set with one member more. -/
def insert (s : MethodSet) (m : Method) : MethodSet := ⟨fun x => x = m || s.contains x⟩

/-- The members of either set. -/
def union (s t : MethodSet) : MethodSet := ⟨fun x => s.contains x || t.contains x⟩

/-- The set of the methods in a list. -/
def ofList (ms : List Method) : MethodSet := ms.foldl insert empty

/-- The members in alphabetical order. -/
def toList (s : MethodSet) : List Method := Method.all.filter s.contains

/-- Whether there is no member. -/
def isEmpty (s : MethodSet) : Bool := s.toList.isEmpty

/-- The names of the members in alphabetical order. -/
def names (s : MethodSet) : List String := s.toList.map Method.name

/-- How a set is shown. -/
def text (s : MethodSet) : String := Text.quotedSet s.names

instance : DecidableEq MethodSet := fun s t =>
  if h : ∀ m ∈ Method.all, s.contains m = t.contains m then
    .isTrue (MethodSet.ext (funext fun m => h m m.mem_all))
  else .isFalse fun e => h fun _ _ => e ▸ rfl

/-- The list of a set has the members of the set. -/
@[simp]
theorem mem_toList {s : MethodSet} {m : Method} : m ∈ s.toList ↔ s.contains m = true := by
  simp [toList, Method.mem_all]

/-- A set is empty if no method is a member. -/
theorem isEmpty_iff {s : MethodSet} : s.isEmpty = true ↔ ∀ m, s.contains m = false := by
  simp [isEmpty, toList, List.filter_eq_nil_iff, Method.mem_all]

end MethodSet

end HttpMux
