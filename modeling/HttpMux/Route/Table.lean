import HttpMux.Handler
import HttpMux.MethodSet
import HttpMux.Pattern.Basic

/-!
# `HttpMux.Route.Table`: routes and their order

A table keeps its routes sorted by the texts that their paths begin with, as far as that does not
change which of two routes comes first where both could match. A new route moves ahead of routes
with greater texts, but never ahead of one with the same text, with a shorter text that its own
text begins with, or with a longer text that begins with its own.
-/

set_option autoImplicit false

namespace HttpMux

/-- A route: a pattern, the methods that it accepts, and the handler of its requests. -/
structure Route (A : App) where
  pattern : Pattern A.View
  methods : MethodSet
  endpoint : Endpoint A

namespace Route

variable {A : App}

/-- The text that every path of the route begins with. -/
def start (r : Route A) : Bytes := Bytes.ofText r.pattern.literalStart

/-- Whether a new route with the given text stays behind a route of the table. -/
def staysAhead (text : Bytes) (r : Route A) : Bool := r.start ≤ text || text.isPrefixOf r.start

/-- The table with a route added. -/
def insert (r : Route A) (table : List (Route A)) : List (Route A) :=
  let (behind, ahead) := table.reverse.span fun x => !x.staysAhead r.start
  ahead.reverse ++ r :: behind.reverse

/-- What is logged when a route is added. -/
def addedLine (r : Route A) : LogLine :=
  ⟨.debug, "web: adding route " ++ r.pattern.text ++ " for " ++ r.methods.text⟩

end Route

end HttpMux
