import ClusterProxy.Request
import ClusterProxy.Router.Action
import ClusterProxy.Router.Phase
import ClusterProxy.Settings.Basic
import ClusterProxy.Topology.Store

/-!
# Requests in flight

An `InFlight` is a client's request on its way, told by the phase that it is in. A `Docket` is what
is written down for it, and shows it in this form (`Docket.Shows`).

Each step that is taken for a request gives the next action and the request after it, a `Step`. A
step that reads from a connection to a node, or writes to the store, gives what became of them as
well, an `Outcome`.

This file holds the steps that the others end with: the request fails, is sent to a node, or a node
is asked for a topology dump.
-/

namespace ClusterProxy

/-- A client's request on its way. `request` is none if the client's frame was no request.
`redirects` counts the redirects it met, `bootstraps` the dumps that were accepted for it. -/
structure InFlight where
  cluster : String
  settings : Settings
  request : Option Request
  phase : Phase
  redirects : UInt32
  bootstraps : UInt32
deriving DecidableEq, Repr

/-- What is to be done next for a request, and the request then. -/
structure Step where
  action : Action
  flight : InFlight
deriving DecidableEq, Repr

/-- A step, and what became of the store and of the decoder of the connection that was read. -/
structure Outcome extends Step where
  store : Store
  backend : Decoder
deriving DecidableEq, Repr

namespace InFlight

/-- Ends a request with a fault. -/
def fail (flight : InFlight) (fault : Fault) : Step :=
  ⟨.ofFault fault, { flight with phase := .failed fault }⟩

/-- Ends a request for which something was called that its phase does not allow. -/
def misuse (flight : InFlight) (call : String) : Step :=
  flight.fail (.protocol (call ++ " called in state " ++ flight.phase.name))

/-- Ends a request whose node sent bytes that are no frame. -/
def breakOff (flight : InFlight) (node : Option String) (why : FrameFault) : Step :=
  let fault := Fault.protocol
    ("backend " ++ node.getD "?" ++ " sent " ++ (Fault.ofFrame why).message)
  ⟨.dropBackend fault.reply, { flight with phase := .failed fault }⟩

/-- Sends the request to a node. -/
def dispatch (flight : InFlight) (node : Option String) (delay : Option Nat) (asking : Bool) :
    Step :=
  match flight.request with
  | none => flight.fail .emptyCommand
  | some request =>
    let payload := if asking then Call.withAsking request.bytes else request.bytes
    let attempt : Attempt := ⟨node, asking, if asking then .pending else .settled⟩
    ⟨.dispatch node payload delay, { flight with phase := .dispatching attempt }⟩

/-- Asks a node for a topology dump. -/
def bootstrapFrom (flight : InFlight) (node : String) (others : List String) : Step :=
  ⟨.bootstrap node Call.clusterNodes.encode, { flight with phase := .bootstrapping node others }⟩

end InFlight

end ClusterProxy
