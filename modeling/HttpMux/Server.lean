import HttpMux.Connection

/-!
# `HttpMux.Server`: a mux behind an address

- `ServerConfig.default`: where a server listens and how much it takes on.
- `Site.start`: what a server does before it accepts connections.
-/

set_option autoImplicit false

namespace HttpMux

/-- Where a server listens, how many connections it serves at once, and how many bytes it reads of a
request. -/
structure ServerConfig where
  address : SocketAddress
  maxConnections : Nat
  bufferSize : Nat

/-- The configuration of a server unless told otherwise. -/
def ServerConfig.default : ServerConfig := ⟨⟨.v4 ⟨127, 0, 0, 1⟩, 8080, 0⟩, 1024, 8192⟩

namespace Site

variable {A : App} {S : Type}

/-- The lines that list the routes and the layers of a mux. -/
def listing (m : Mux A) : List LogLine :=
  ⟨.info, "Registered routes:"⟩ ::
    m.router.routes.map (fun r => ⟨.info, "  " ++ r.methods.text ++ " " ++ r.pattern.text⟩) ++
    if m.stack.names.isEmpty then []
    else [⟨.info, "Middleware: " ++ String.intercalate " -> " m.stack.names⟩]

/-- Logs lines in order. -/
def reportAll : List LogLine → Change A S Unit
  | [] => pure ()
  | line :: lines => do
    report line
    reportAll lines

/-- Lists what will serve requests, compiles the routes, and binds the address. `bound` is the
error of binding, if it fails. -/
def start (id : MuxId) (config : ServerConfig) (bound : Except String Unit) :
    Change A S (Except String Unit) := do
  reportAll (listing ((← get).mux id))
  compile id
  match bound with
  | .error e => return .error e
  | .ok () =>
    report ⟨.info, "Server listening on http://" ++ config.address.text⟩
    return .ok ()

end Site

end HttpMux
