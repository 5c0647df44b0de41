import HttpMux.Response.Basic

/-!
# `HttpMux.Response.Wire`: responses as they are sent

A status line, a line for each header, and an empty line come before the body. Every line ends in
carriage return and line feed. The length of the body is sent even if no header gives it.
-/

set_option autoImplicit false

namespace HttpMux.Response

/-- The end of a line. -/
def lineEnd : String := "\r\n"

/-- The line of a header. -/
def headerLine (name value : String) : String := name ++ ": " ++ value ++ lineEnd

/-- The header lines of a response: its headers in the given order, and the length of its body if
none of them is a length. -/
def headerLines (r : Response) (headers : List (String × String)) : List String :=
  headers.map (fun (k, v) => headerLine k v) ++
    match r.header? "Content-Length" with
    | some _ => []
    | none => [headerLine "Content-Length" (toString r.body.length)]

/-- The bytes of a response whose headers are sent in the given order. -/
def bytesInOrder (r : Response) (headers : List (String × String)) : Bytes :=
  Bytes.ofText ("HTTP/1.1 " ++ r.status.text ++ lineEnd ++
    String.join (r.headerLines headers) ++ lineEnd) ++ r.body

/-- The bytes of a response. -/
def bytes (r : Response) : Bytes := r.bytesInOrder r.headers.entries

end HttpMux.Response
