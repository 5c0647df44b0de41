/-!
# `HttpMux.Method`: request methods

There are nine methods. `Method.all` lists them in alphabetical order, which is also the order in
which sets of methods are shown.

- `Method.ofName?_name`: a method is found under its name.
- `Method.name_of_ofName?`: and under no other text.
-/

set_option autoImplicit false

namespace HttpMux

/-- A request method. -/
inductive Method
  | connect
  | delete
  | get
  | head
  | options
  | patch
  | post
  | put
  | trace
  deriving DecidableEq, Repr, Inhabited

namespace Method

/-- Every method, in alphabetical order. -/
def all : List Method := [connect, delete, get, head, options, patch, post, put, trace]

/-- The name of a method, as it stands in a request line. -/
def name : Method → String
  | connect => "CONNECT"
  | delete => "DELETE"
  | get => "GET"
  | head => "HEAD"
  | options => "OPTIONS"
  | patch => "PATCH"
  | post => "POST"
  | put => "PUT"
  | trace => "TRACE"

/-- The method with the given name. -/
def ofName? (s : String) : Option Method := all.find? (·.name = s)

/-- The place of a method in `all`. -/
def index : Method → Nat
  | connect => 0
  | delete => 1
  | get => 2
  | head => 3
  | options => 4
  | patch => 5
  | post => 6
  | put => 7
  | trace => 8

/-- Every method is listed. -/
theorem mem_all (m : Method) : m ∈ all := by cases m <;> decide

/-- A method stands at its place. -/
theorem getElem?_all_index (m : Method) : all[m.index]? = some m := by cases m <;> rfl

/-- A method is found under its name. -/
theorem ofName?_name (m : Method) : ofName? m.name = some m := by cases m <;> decide

/-- No method is found under another name than its own. -/
theorem name_of_ofName? {s : String} {m : Method} (h : ofName? s = some m) : m.name = s := by
  simpa using List.find?_some h

end Method

end HttpMux
