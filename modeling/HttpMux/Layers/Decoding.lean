import HttpMux.FormUrlencoded
import HttpMux.Json.Reader
import HttpMux.Layers.Calls

/-!
# `HttpMux.Layers.Decoding`: request data as JSON values

- `Layers.parseJson`: decodes a JSON body.
- `Layers.urlQuery`: decodes the query.
-/

set_option autoImplicit false

namespace HttpMux.Layers

variable {A : App}

/-- The environment key of a decoded body. -/
def parsedJsonKey : String := "parsedJSON"

/-- The response to a body that is no JSON text. -/
def badJson (e : Json.Error) : Response :=
  ((Response.new .badRequest).withContentType "text/plain; charset=utf-8").withText
    (e.message ++ "\n")

/-- Decodes the body of a request whose content type is JSON. A body that cannot be decoded is
answered here. -/
def parseJson : Middleware A :=
  ⟨"parse_json", .context fun c r =>
    if r.isJson then
      match Json.parse r.body with
      | .ok v => forward (c.withValue parsedJsonKey v) r
      | .error e => return ⟨c, .response (badJson e)⟩
    else forward c r⟩

/-- The environment key of a decoded query. -/
def urlQueryKey : String := "urlquery"

/-- The query of a request up to the first `#`; empty if there is none. -/
def queryText (r : Request) : String :=
  let query := r.query?.getD ""
  match Text.splitFirst? '#' query with
  | some (q, _) => q
  | none => query

/-- The values of each name in the order in which they occur. -/
def grouped (pairs : List (String × String)) : Dict (List String) :=
  pairs.foldl (fun d (k, v) => d.insert k ((d.get? k).getD [] ++ [v])) Dict.empty

/-- The names of a query with their values. -/
def queryValues (r : Request) : Json :=
  .object ((grouped (FormUrlencoded.decode (Bytes.ofText (queryText r)))).map
    fun _ vs => .array (vs.map .string))

/-- Puts the decoded query into the environment. -/
def urlQuery : Middleware A :=
  ⟨"url_query", .context fun c r => forward (c.withValue urlQueryKey (queryValues r)) r⟩

end HttpMux.Layers
