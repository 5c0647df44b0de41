import HttpMux.Pattern.Placeholder
import HttpMux.Pattern.Regular
import HttpMux.Request.Basic

/-!
# `HttpMux.Pattern.Basic`: patterns of routes

A pattern accepts requests, and binds parameters of those it accepts. Placeholder patterns and
regular expressions look only at the URL path. A pattern of the application's own may also look at
the context and at the application's state, whose type is `View`.

Every pattern names a text that it takes its paths to begin with. The router relies on it.
-/

set_option autoImplicit false

namespace HttpMux

/-- A pattern of the application's own: how it is shown, the text its paths begin with, which
requests it accepts, and how it changes the context. -/
structure OwnPattern (View : Type) where
  text : String
  literalStart : String
  accepts : View → Request → Context → Bool
  bind : Request → Context → Context

/-- A pattern of a route. -/
inductive Pattern (View : Type)
  | placeholder (p : Placeholder)
  | regular (p : Regular)
  | own (p : OwnPattern View)

namespace Pattern

variable {View : Type}

/-- The text that every accepted path begins with. -/
def literalStart : Pattern View → String
  | placeholder p => p.literalStart
  | regular p => p.literalStart
  | own p => p.literalStart

/-- Whether the pattern accepts a request. -/
def accepts (v : View) (r : Request) (c : Context) : Pattern View → Bool
  | placeholder p => p.accepts r.urlPath
  | regular p => p.accepts r.urlPath
  | own p => p.accepts v r c

/-- The context with the parameters of a request bound; unchanged if it does not match. -/
def bind (r : Request) (c : Context) : Pattern View → Context
  | placeholder p => ((p.match? r.urlPath).map c.withParams).getD c
  | regular p => ((p.match? r.urlPath).map c.withParams).getD c
  | own p => p.bind r c

/-- How a pattern is shown. -/
def text : Pattern View → String
  | placeholder p => p.text
  | regular p => p.text
  | own p => p.text

end Pattern

end HttpMux
