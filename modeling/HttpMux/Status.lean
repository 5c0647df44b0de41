/-!
# `HttpMux.Status`: status codes with their reason phrases

- `Status.ofCode?_code`: a status is found under its number.
-/

set_option autoImplicit false

namespace HttpMux

/-- The outcome that a response reports. -/
inductive Status
  | ok
  | created
  | accepted
  | noContent
  | movedPermanently
  | found
  | notModified
  | badRequest
  | unauthorized
  | forbidden
  | notFound
  | methodNotAllowed
  | internalServerError
  | notImplemented
  | badGateway
  | serviceUnavailable
  deriving DecidableEq, Repr, Inhabited

namespace Status

/-- Every status, by ascending number. -/
def all : List Status :=
  [ok, created, accepted, noContent, movedPermanently, found, notModified, badRequest,
   unauthorized, forbidden, notFound, methodNotAllowed, internalServerError, notImplemented,
   badGateway, serviceUnavailable]

/-- The number of a status. -/
def code : Status → Nat
  | ok => 200
  | created => 201
  | accepted => 202
  | noContent => 204
  | movedPermanently => 301
  | found => 302
  | notModified => 304
  | badRequest => 400
  | unauthorized => 401
  | forbidden => 403
  | notFound => 404
  | methodNotAllowed => 405
  | internalServerError => 500
  | notImplemented => 501
  | badGateway => 502
  | serviceUnavailable => 503

/-- The reason phrase of a status. -/
def phrase : Status → String
  | ok => "OK"
  | created => "Created"
  | accepted => "Accepted"
  | noContent => "No Content"
  | movedPermanently => "Moved Permanently"
  | found => "Found"
  | notModified => "Not Modified"
  | badRequest => "Bad Request"
  | unauthorized => "Unauthorized"
  | forbidden => "Forbidden"
  | notFound => "Not Found"
  | methodNotAllowed => "Method Not Allowed"
  | internalServerError => "Internal Server Error"
  | notImplemented => "Not Implemented"
  | badGateway => "Bad Gateway"
  | serviceUnavailable => "Service Unavailable"

/-- The status with the given number. -/
def ofCode? (n : Nat) : Option Status := all.find? (·.code = n)

/-- The number and the phrase, as they stand in a status line. -/
def text (s : Status) : String := toString s.code ++ " " ++ s.phrase

/-- Whether the request succeeded. -/
def isSuccess (s : Status) : Bool := 200 ≤ s.code && s.code < 300

/-- Whether the client is at fault. -/
def isClientError (s : Status) : Bool := 400 ≤ s.code && s.code < 500

/-- Whether the server is at fault. -/
def isServerError (s : Status) : Bool := 500 ≤ s.code

/-- A status is found under its number. -/
theorem ofCode?_code (s : Status) : ofCode? s.code = some s := by cases s <;> decide

end Status

end HttpMux
