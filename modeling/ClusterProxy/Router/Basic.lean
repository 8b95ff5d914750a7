import ClusterProxy.Router.Bootstrap
import ClusterProxy.Router.Reply

/-!
# Routers

A `Router` takes the requests of clients off their connections. All routers of a process share one
store; a router itself is its settings.
-/

namespace ClusterProxy

/-- A router with its settings. -/
structure Router where
  settings : Settings
deriving DecidableEq, Repr

namespace Router

/-- A router with settings that were checked. -/
def ofSettings (settings : Settings) : Except Fault Router :=
  settings.validate.map fun settings => ⟨settings⟩

/-- A decoder for a new connection. -/
def decoder (router : Router) : Decoder := .empty router.settings.maxFrameSize

/-- A request as it comes off a client's connection. A frame that is no request is in flight as
well, and has failed, so that its error reply keeps its place among the replies. -/
def receive (router : Router) (cluster : String) (decoded : Decoded) : InFlight :=
  let flight (request : Option Request) (phase : Phase) : InFlight :=
    ⟨cluster, router.settings, request, phase, 0, 0⟩
  match Request.ofDecoded decoded with
  | .ok request => flight (some request) .classified
  | .error fault => flight none (.failed fault)

/-- Takes the next request off a client's connection. -/
def accept (router : Router) (cluster : String) (client : Decoder) : Verdict InFlight × Decoder :=
  match client.next with
  | (.incomplete, client) => (.incomplete, client)
  | (.invalid why, client) => (.invalid why, client)
  | (.complete decoded, client) => (.complete (router.receive cluster decoded), client)

end Router

end ClusterProxy
