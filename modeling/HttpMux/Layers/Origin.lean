import HttpMux.Layers.Calls
import HttpMux.Text.Blank

/-!
# `HttpMux.Layers.Origin`: which request it is and where it came from

- `Layers.requestId`: gives every request an ID of its own.
- `Layers.realIp`: believes the address that a proxy reports.
-/

set_option autoImplicit false

namespace HttpMux.Layers

variable {A : App}

/-- Puts a fresh ID into the environment. -/
def requestId : Middleware A :=
  ⟨"request_id", .context fun c r => do
    let id ← Script.question .freshId
    forward (c.withValue requestIdKey (.string id)) r⟩

/-- The environment key of the address that a request really arrived from. -/
def originalAddressKey : String := "originalRemoteAddr"

/-- The text that the proxy headers give as the client's address: the first entry of
`X-Forwarded-For` unless that is empty, else `X-Real-IP`. -/
def claimedText? (r : Request) : Option String :=
  match r.header? "X-Forwarded-For" with
  | some list =>
    if list = "" then r.header? "X-Real-IP" else some ((Text.pieces ',' list).headD "")
  | none => r.header? "X-Real-IP"

/-- The client's address that the proxy headers give. -/
def claimedIp? (r : Request) : Option IpAddress :=
  (claimedText? r).bind fun s => IpAddress.parse? (Text.trim s)

/-- The request as if it came from another address. The port stays. -/
def comingFrom (r : Request) (ip : IpAddress) : Request :=
  { r with remote := some ⟨ip, (r.remote.map SocketAddress.port).getD 0, 0⟩ }

/-- The text of the address that a request arrived from; empty if it is not known. -/
def arrivalText (r : Request) : String := ((r.remote.map SocketAddress.text).getD "")

/-- Replaces the remote address by the one that the proxy headers give, and keeps the text of the
old one in the environment. -/
def realIp : Middleware A :=
  ⟨"real_ip", .context fun c r =>
    match claimedIp? r with
    | none => forward c r
    | some ip =>
      forward (c.withValue originalAddressKey (.string (arrivalText r))) (comingFrom r ip)⟩

end HttpMux.Layers
