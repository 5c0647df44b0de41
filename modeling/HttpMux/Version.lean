/-!
# `HttpMux.Version`: protocol versions

- `Version.ofName?_name` and `Version.name_of_ofName?`: a version is found under its name alone.
-/

set_option autoImplicit false

namespace HttpMux

/-- A version of the protocol. The later one is the default. -/
inductive Version
  | http10
  | http11
  deriving DecidableEq, Repr

instance : Inhabited Version := ⟨.http11⟩

namespace Version

/-- The name of a version, as it stands in a request line. -/
def name : Version → String
  | http10 => "HTTP/1.0"
  | http11 => "HTTP/1.1"

/-- The version with the given name. -/
def ofName? (s : String) : Option Version := [http10, http11].find? (·.name = s)

/-- A version is found under its name. -/
theorem ofName?_name (v : Version) : ofName? v.name = some v := by cases v <;> decide

/-- No version is found under another name than its own. -/
theorem name_of_ofName? {s : String} {v : Version} (h : ofName? s = some v) : v.name = s := by
  simpa using List.find?_some h

end Version

end HttpMux
