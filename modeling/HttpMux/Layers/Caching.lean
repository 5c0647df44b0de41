import HttpMux.Digest.Md5
import HttpMux.Layers.Calls
import HttpMux.Text.Blank

/-!
# `HttpMux.Layers.Caching`: what clients and proxies may keep

- `Layers.noCache`: makes every response uncacheable.
- `Layers.entityTag`: tags responses, and leaves out a body that the client has.
-/

set_option autoImplicit false

namespace HttpMux.Layers

variable {A : App}

/-! ### No caching -/

/-- The headers that forbid caching. -/
def noCacheHeaders : List (String × String) :=
  [("Expires", "Thu, 01 Jan 1970 00:00:00 UTC"),
   ("Cache-Control", "no-cache, private, max-age=0"),
   ("Pragma", "no-cache"),
   ("X-Accel-Expires", "0")]

/-- The request headers that ask for a response only under a condition. -/
def conditionalHeaders : List String :=
  ["ETag", "If-Modified-Since", "If-Match", "If-None-Match", "If-Range", "If-Unmodified-Since"]

/-- The request without a header of each conditional name. -/
def unconditional (r : Request) : Request := conditionalHeaders.foldl Request.withoutHeader r

/-- The response with the headers that forbid caching. -/
def uncacheable (r : Response) : Response :=
  noCacheHeaders.foldl (fun r (k, v) => r.withHeader k v) r

/-- Strips the conditions from the request and forbids caching of the response. -/
def noCache : Middleware A :=
  ⟨"no_cache", .plain fun r => do return (← Script.call (unconditional r)).map uncacheable⟩

/-! ### Entity tags -/

/-- The quoted tag of a body. -/
def tagOf (body : Bytes) : String := "\"" ++ (Md5.digest body).hex ++ "\""

/-- The text without marks of a weak tag in front. -/
def withoutWeakMarks : List Char → List Char
  | 'W' :: '/' :: cs => withoutWeakMarks cs
  | cs => cs

/-- Whether an entry of a list of tags stands for the tag. -/
def meansTag (tag entry : String) : Bool :=
  entry = "*" || String.ofList (withoutWeakMarks entry.toList) = tag

/-- Whether the client has the body with the given tag. -/
def isFresh (r : Request) (tag : String) : Bool :=
  match r.header? "If-None-Match" with
  | some list => ((Text.pieces ',' list).map Text.trim).any (meansTag tag)
  | none => false

/-- The response with a tag; without its body if the client has it. -/
def tagged (r : Request) (resp : Response) : Response :=
  if resp.status.isSuccess then
    let tag := tagOf resp.body
    if isFresh r tag then
      ({ resp.withBody [] with status := .notModified }.withoutHeader "Content-Type").withHeader
        "ETag" tag
    else resp.withHeader "ETag" tag
  else resp

/-- Tags responses that report success. -/
def entityTag : Middleware A :=
  ⟨"etag", .plain fun r => do return (← Script.call r).map (tagged r)⟩

end HttpMux.Layers
