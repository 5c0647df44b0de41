import HttpMux.Address
import HttpMux.Bytes
import HttpMux.Headers
import HttpMux.Method
import HttpMux.Text.Split
import HttpMux.Version

/-!
# `HttpMux.Request.Basic`: requests

The target of a request is a path with an optional query behind the first question mark. Routes
look at the path alone.
-/

set_option autoImplicit false

namespace HttpMux

/-- A request. -/
structure Request where
  method : Method
  target : String
  version : Version
  headers : Headers
  body : Bytes
  remote : Option SocketAddress

namespace Request

/-- The part of the target before its first question mark. -/
def urlPath (r : Request) : String :=
  match Text.splitFirst? '?' r.target with
  | some (path, _) => path
  | none => r.target

/-- The part of the target after its first question mark. -/
def query? (r : Request) : Option String := (Text.splitFirst? '?' r.target).map Prod.snd

/-- The request with another path and the same query. -/
def withUrlPath (r : Request) (path : String) : Request :=
  { r with target := match r.query? with
      | some q => path ++ "?" ++ q
      | none => path }

/-- The value of the header with the given name. -/
def header? (r : Request) (name : String) : Option String := r.headers.value? name

/-- The request without a header of the given name. -/
def withoutHeader (r : Request) (name : String) : Request :=
  { r with headers := r.headers.without name }

/-- Takes a header away: its value, if there was one, and the request without it. -/
def takeHeader (r : Request) (name : String) : Option String × Request :=
  let (value, headers) := r.headers.take name
  (value, { r with headers })

/-- Whether the content type says JSON. -/
def isJson (r : Request) : Bool :=
  match r.header? "Content-Type" with
  | some t => Text.hasStart "application/json" t
  | none => false

end Request

end HttpMux
