/-!
# `HttpMux.Log`: what is reported while requests are served
-/

set_option autoImplicit false

namespace HttpMux

/-- How important a report is. -/
inductive LogLevel
  | trace
  | debug
  | info
  | warn
  | error
  deriving DecidableEq, Repr

/-- The name of a level. -/
def LogLevel.name : LogLevel → String
  | .trace => "TRACE"
  | .debug => "DEBUG"
  | .info => "INFO"
  | .warn => "WARN"
  | .error => "ERROR"

/-- A line of the log. -/
structure LogLine where
  level : LogLevel
  text : String
  deriving DecidableEq, Repr

end HttpMux
