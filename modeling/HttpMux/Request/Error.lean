import HttpMux.Text.Quoted

/-!
# `HttpMux.Request.Error`: why bytes are no request

An error names its cause and, where there is one, the text at fault.
-/

set_option autoImplicit false

namespace HttpMux.Request

/-- What is wrong with the head of a request. -/
inductive Error
  | empty
  | badEncoding
  | badRequestLine (line : String)
  | badMethod (name : String)
  | badTarget (target : String)
  | badVersion (name : String)
  | badHeader (line : String)
  | missingHost
  deriving DecidableEq, Repr

/-- The wording of an error. -/
def Error.message : Error → String
  | .empty => "http: empty request"
  | .badEncoding => "http: request head is not valid UTF-8"
  | .badRequestLine line => "http: malformed request line " ++ Text.quoted line
  | .badMethod name => "http: unsupported method " ++ Text.quoted name
  | .badTarget target =>
    "http: request target " ++ Text.quoted target ++ " is not an absolute path"
  | .badVersion name => "http: unsupported version " ++ Text.quoted name
  | .badHeader line => "http: malformed header line " ++ Text.quoted line
  | .missingHost => "http: HTTP/1.1 request without a Host header"

end HttpMux.Request
