import HttpMux.Layers.Calls
import HttpMux.Text.Quoted

/-!
# `HttpMux.Layers.Reporting`: logging requests and failures

- `Layers.logger`: logs the start and the end of every request.
- `Layers.recoverer`: turns a failure into a response.
-/

set_option autoImplicit false

namespace HttpMux.Layers

variable {A : App}

/-- The line that is logged when a request starts. -/
def startedText (c : Context) (r : Request) : String :=
  logTag c ++ "Started " ++ r.method.name ++ " " ++ Text.quoted r.target ++ " from " ++
    ((r.remote.map SocketAddress.text).getD "unknown")

/-- The line that is logged when a request ends, under the tag it started with. -/
def returningText (tag : String) (status : Status) (elapsed : String) : String :=
  tag ++ "Returning " ++ toString status.code ++ " in " ++ elapsed

/-- How important the end of a request is. -/
def returningLevel (status : Status) : LogLevel := if status.isServerError then .warn else .info

/-- Logs the start of a request, and its end if there is a response. -/
def logger : Middleware A :=
  ⟨"logger", .context fun c r => do
    Script.log .info (startedText c r)
    let served ← forward c r
    match served.outcome with
    | .response resp =>
      let elapsed ← Script.question .elapsed
      Script.log (returningLevel resp.status) (returningText (logTag c) resp.status elapsed)
    | .failure _ => pure ()
    return served⟩

/-- How a failure is described in the log. -/
def failureText : Failure → String
  | .text s => s
  | .silent => "Box<dyn Any>"
  | .tooDeep => "muxes are nested too deeply"

/-- Logs a failure and answers it as an error of the server. The context keeps what was written. -/
def recoverer : Middleware A :=
  ⟨"recoverer", .context fun c r => do
    let served ← forward c r
    match served.outcome with
    | .response _ => return served
    | .failure f =>
      Script.log .error (logTag served.context ++ "panic: " ++ failureText f)
      return { served with outcome := .response (Response.ofStatus .internalServerError) }⟩

end HttpMux.Layers
