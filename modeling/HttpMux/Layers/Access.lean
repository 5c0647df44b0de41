import HttpMux.Base64
import HttpMux.Layers.Calls
import HttpMux.Text.Blank

/-!
# `HttpMux.Layers.Access`: who may be served

- `Layers.basicAuth`: asks for a user name and a password.
-/

set_option autoImplicit false

namespace HttpMux.Layers

variable {A : App}

/-- What a client must know, the realm that it is asked for, and the handler of requests that are
turned away, if there is one. -/
structure Credentials (A : App) where
  realm : String
  user : String
  password : String
  unauthorized : Option (Endpoint A)

/-- The text that an authorization header spells in base 64. -/
def authorizationText? (r : Request) : Option String := do
  let value ← r.header? "Authorization"
  let encoded ← Text.dropStart? "Basic " value
  let bytes ← Base64.decode? (Text.trimChars encoded.toList)
  Bytes.text? bytes

/-- Whether a request carries the user name and the password. -/
def Credentials.admits (k : Credentials A) (r : Request) : Bool :=
  match (authorizationText? r).bind (Text.splitFirst? ':') with
  | some (user, password) => user = k.user && password = k.password
  | none => false

/-- The header value that asks for a user name and a password. -/
def Credentials.challenge (k : Credentials A) : String := "Basic realm=\"" ++ k.realm ++ "\""

/-- The response to a request that is turned away. -/
def unauthorized : Response :=
  ((Response.new .unauthorized).withContentType "text/plain; charset=utf-8").withText
    "You are not authorized to access this resource."

/-- Turns away requests without the right user name and password, and asks for them. -/
def basicAuth (k : Credentials A) : Middleware A :=
  ⟨"basic_auth", .context fun c r =>
    if k.admits r then forward c r
    else do
      let rejected := k.unauthorized.getD (Endpoint.constant unauthorized)
      let served ← (rejected.script c r).embed
      return { served with
        outcome := served.outcome.map fun resp => resp.withHeader "WWW-Authenticate" k.challenge }⟩

end HttpMux.Layers
