import HttpMux.Bytes
import HttpMux.Headers
import HttpMux.Json.Printer
import HttpMux.Status

/-!
# `HttpMux.Response.Basic`: responses

A new response names the server and has an empty body. Setting the body sets its length too. A
header is set in place of one whose name differs only in case.
-/

set_option autoImplicit false

namespace HttpMux

/-- A response. -/
structure Response where
  status : Status
  headers : Headers
  body : Bytes

namespace Response

/-- A response without a body. -/
def new (status : Status) : Response :=
  ⟨status, Dict.empty.insert "Server" "microweb-rs", []⟩

/-- The value of the header with the given name. -/
def header? (r : Response) (name : String) : Option String := r.headers.value? name

/-- The response with a header set, in place of one of that name. -/
def withHeader (r : Response) (name value : String) : Response :=
  { r with headers := r.headers.set name value }

/-- The response without a header of the given name. -/
def withoutHeader (r : Response) (name : String) : Response :=
  { r with headers := r.headers.without name }

/-- Takes a header away: its value, if there was one, and the response without it. -/
def takeHeader (r : Response) (name : String) : Option String × Response :=
  let (value, headers) := r.headers.take name
  (value, { r with headers })

/-- The response with the given body and its length. -/
def withBody (r : Response) (body : Bytes) : Response :=
  { r with body := body }.withHeader "Content-Length" (toString body.length)

/-- The response with a text as its body. -/
def withText (r : Response) (s : String) : Response := r.withBody (Bytes.ofText s)

/-- The response with the given content type. -/
def withContentType (r : Response) (t : String) : Response := r.withHeader "Content-Type" t

/-- The response with a JSON value as its body. -/
def withJson (r : Response) (v : Json) : Response :=
  (r.withContentType "application/json").withText v.render

/-- A response that spells out its status. -/
def ofStatus (status : Status) : Response :=
  ((new status).withContentType "text/plain; charset=utf-8").withText (status.phrase ++ "\n")

/-- Taking a header away gives its value, as look-up finds it, and the response without it. -/
theorem takeHeader_eq (r : Response) (name : String) :
    r.takeHeader name = (r.header? name, r.withoutHeader name) := by
  rw [takeHeader, Headers.take_eq]
  rfl

end Response

end HttpMux
