import ClusterProxy.Router.Basic

/-!
# Dockets

A `Docket` is what is written down for a request on its way: the state that it is in, the fault that
ended it, the node that was asked last, and so on, each in a place of its own. A step writes the
places that it has to and leaves the others; nothing in a docket keeps them from contradicting each
other. That they never do is a result about the steps.

The steps are `Docket.start`, `Docket.onReply` and `Docket.onTopology`. An `InFlight` tells the same
as a docket, with what belongs to a phase inside of the phase.
-/

namespace ClusterProxy

/-- The state of a request. -/
inductive Docket.State where
  /-- A frame came from the client. -/
  | received
  /-- The command and its keys are known. -/
  | classified
  /-- The slot is known, and its owner is looked up. -/
  | slotKnown
  /-- There is no key, and any node will do. -/
  | noSlotNeeded
  /-- Waits for a topology dump. -/
  | bootstrapping
  /-- The request was sent and no reply was looked for yet. -/
  | dispatching
  /-- A reply was looked for. -/
  | awaitingReply
  /-- The client has a node's reply. -/
  | done
  /-- The client has an error reply. -/
  | failed
deriving DecidableEq, Repr

/-- The name of a state. -/
def Docket.State.name : State → String
  | received => "Received"
  | classified => "Classified"
  | slotKnown => "SlotKnown"
  | noSlotNeeded => "NoSlotNeeded"
  | bootstrapping => "Bootstrapping"
  | dispatching => "Dispatching"
  | awaitingReply => "AwaitingReply"
  | done => "Done"
  | failed => "Failed"

/-- What is written down for a request. `node` is where it was sent last, or who was asked for a
dump last. `candidates` are the nodes left to ask, the next one at the end. `asking` says whether it
was sent behind `ASKING`, `askingAck` whether the answer to that is still to come, and `refused` is
why it was no, until the reply to the request itself was read. -/
structure Docket where
  cluster : String
  settings : Settings
  state : Docket.State
  request : Option Request
  fault : Option Fault
  node : Option String
  redirects : UInt32
  bootstraps : UInt32
  candidates : List String
  asking : Bool
  askingAck : Bool
  refused : Option Fault
deriving DecidableEq, Repr

namespace Docket

/-- What is to be done next for a request, and its docket then. -/
structure Move where
  action : Action
  docket : Docket
deriving DecidableEq, Repr

/-- A move, and what became of the store and of the decoder of the connection that was read. -/
structure Result extends Move where
  store : Store
  backend : Decoder
deriving DecidableEq, Repr

/-! ## How a step ends -/

/-- Tells the client of the fault that is written down. With none, all that is left is to close the
connection. -/
def respondFault (docket : Docket) : Move :=
  let docket : Docket := { docket with state := .failed }
  match docket.fault with
  | some fault => ⟨.ofFault fault, docket⟩
  | none => ⟨.close, docket⟩

/-- Ends a request with a fault. -/
def fail (docket : Docket) (fault : Fault) : Move :=
  { docket with fault := some fault }.respondFault

/-- Ends a request for which something was called that its state does not allow. -/
def misuse (docket : Docket) (call : String) : Move :=
  docket.fail (.protocol (call ++ " called in state " ++ docket.state.name))

/-- Ends a request whose node sent bytes that are no frame. -/
def breakOff (docket : Docket) (why : FrameFault) : Move :=
  let fault := Fault.protocol
    ("backend " ++ docket.node.getD "?" ++ " sent " ++ (Fault.ofFrame why).message)
  ⟨.dropBackend fault.reply, { docket with fault := some fault, state := .failed }⟩

/-- Sends the request to a node. -/
def dispatch (docket : Docket) (node : Option String) (delay : Option Nat) (asking : Bool) : Move :=
  match docket.request with
  | none => docket.fail .emptyCommand
  | some request =>
    let payload := if asking then Call.withAsking request.bytes else request.bytes
    ⟨.dispatch node payload delay, { docket with
      state := .dispatching, node := node, asking := asking, askingAck := asking }⟩

/-- Asks a node for a topology dump. -/
def bootstrapFrom (docket : Docket) (node : String) : Move :=
  ⟨.bootstrap node Call.clusterNodes.encode,
    { docket with state := .bootstrapping, node := some node }⟩

/-- Asks the next candidate for a topology dump. If none is left, the request ends with a fault. -/
def askNext (docket : Docket) (fault : Fault) : Move :=
  match docket.candidates.getLast? with
  | some node => { docket with candidates := docket.candidates.dropLast }.bootstrapFrom node
  | none => docket.fail fault

/-! ## Where the request goes -/

/-- Writes down the nodes that can be asked for a topology dump, and asks the first one: those the
store knows, then the seeds that are not among them. -/
def bootstrap (docket : Docket) (store : Store) : Move :=
  let candidates := docket.settings.seeds.foldl
    (fun nodes seed => if nodes.contains seed then nodes else nodes ++ [seed])
    (store.nodes docket.cluster)
  { docket with candidates := candidates.reverse }.askNext (.noSeedNode docket.cluster)

/-- Sends the request where it belongs. -/
def route (docket : Docket) (store : Store) : Move :=
  match docket.request.map Request.targetSlot with
  | none => docket.fail .emptyCommand
  | some (.error fault) => docket.fail fault
  | some (.ok none) => { docket with state := .noSlotNeeded }.dispatch none none false
  | some (.ok (some slot)) =>
    let docket : Docket := { docket with state := .slotKnown }
    if store.needsBootstrap docket.cluster && docket.bootstraps == 0 then docket.bootstrap store
    else match store.owner docket.cluster slot with
      | some node => docket.dispatch (some node) none false
      | none =>
        if docket.bootstraps == 0 then docket.bootstrap store
        else docket.fail (.slotNotCovered slot)

/-- Takes the first step for a request. -/
def start (docket : Docket) (store : Store) : Move :=
  match docket.state with
  | .failed => docket.respondFault
  | .classified => docket.route store
  | _ => docket.misuse "start"

/-! ## The reply to the request -/

/-- Counts a redirect and sends the request on, unless there were too many. -/
def redirect (docket : Docket) (node : Option String) (delay : Option Nat) (asking : Bool) : Move :=
  let docket : Docket := { docket with redirects := docket.redirects + 1 }
  if docket.settings.maxRedirects < docket.redirects then
    docket.fail (.tooManyRedirects docket.redirects.toNat)
  else docket.dispatch node delay asking

/-- Acts on what a reply says. -/
def settle (docket : Docket) (reply : Decoded) : Reading → Move
  | .moved _ address => docket.redirect (some address) none false
  | .ask _ address => docket.redirect (some address) none true
  | .tryAgain => docket.redirect docket.node (some docket.settings.retryDelay) docket.asking
  | _ => ⟨.forward reply.bytes, { docket with state := .done }⟩

/-- Acts on a node's reply to the request. -/
def receive (docket : Docket) (store : Store) (backend : Decoder) (reply : Decoded) : Result :=
  match docket.refused with
  | some fault => ⟨{ docket with refused := none }.fail fault, store, backend⟩
  | none =>
    match Reading.ofFrame reply.frame reply.bytes with
    | .error fault => ⟨docket.fail fault, store, backend⟩
    | .ok reading =>
      ⟨docket.settle reply reading, store.heed docket.cluster reading, backend⟩

/-- Reads a node's reply to the request. -/
def readReply (docket : Docket) (store : Store) (backend : Decoder) : Result :=
  match backend.next with
  | (.incomplete, backend) => ⟨⟨.needMore, docket⟩, store, backend⟩
  | (.invalid why, backend) => ⟨docket.breakOff why, store, backend⟩
  | (.complete reply, backend) => docket.receive store backend reply

/-- Writes down a node's answer to `ASKING`. Any status line is a yes. -/
def acknowledge (docket : Docket) (answer : Decoded) : Docket :=
  if answer.frame.kind = .status then { docket with askingAck := false }
  else { docket with
    askingAck := false
    refused := some (.protocol
      ("ASKING refused: " ++ Text.ofUtf8Lossy (answer.payload.getD []))) }

/-- Reads a node's answer to `ASKING`, and then its reply to the request. -/
def readAck (docket : Docket) (store : Store) (backend : Decoder) : Result :=
  match backend.next with
  | (.incomplete, backend) => ⟨⟨.needMore, docket⟩, store, backend⟩
  | (.invalid why, backend) => ⟨docket.breakOff why, store, backend⟩
  | (.complete answer, backend) => (docket.acknowledge answer).readReply store backend

/-- Takes the step for bytes that came from the node the request was sent to. -/
def onReply (docket : Docket) (store : Store) (backend : Decoder) : Result :=
  if docket.state = .dispatching ∨ docket.state = .awaitingReply then
    let docket : Docket := { docket with state := .awaitingReply }
    if docket.askingAck then docket.readAck store backend else docket.readReply store backend
  else ⟨docket.misuse "on_reply", store, backend⟩

/-! ## The reply to the request for a dump -/

/-- Acts on a node's reply to the request for a topology dump. -/
def receiveDump (docket : Docket) (store : Store) (backend : Decoder) (reply : Decoded) : Result :=
  match (InFlight.dumpOf reply).bind fun dump =>
    store.replace docket.cluster dump docket.node with
  | .error fault => ⟨docket.askNext fault, store, backend⟩
  | .ok (_, store) =>
    let docket : Docket := { docket with
      bootstraps := docket.bootstraps + 1, candidates := [], state := .slotKnown }
    ⟨docket.route store, store, backend⟩

/-- Takes the step for bytes that came from the node that was asked for a topology dump. -/
def onTopology (docket : Docket) (store : Store) (backend : Decoder) : Result :=
  if docket.state = .bootstrapping then
    match backend.next with
    | (.incomplete, backend) => ⟨⟨.needMore, docket⟩, store, backend⟩
    | (.invalid why, backend) => ⟨docket.breakOff why, store, backend⟩
    | (.complete reply, backend) => docket.receiveDump store backend reply
  else ⟨docket.misuse "on_topology", store, backend⟩

end Docket

namespace Router

/-- The docket of a request as it comes off a client's connection. -/
def record (router : Router) (cluster : String) (decoded : Decoded) : Docket :=
  let docket : Docket := {
    cluster
    settings := router.settings
    state := .received
    request := none
    fault := none
    node := none
    redirects := 0
    bootstraps := 0
    candidates := []
    asking := false
    askingAck := false
    refused := none }
  match Request.ofDecoded decoded with
  | .ok request => { docket with request := some request, state := .classified }
  | .error fault => { docket with fault := some fault, state := .failed }

/-- Takes the next request off a client's connection and opens its docket. -/
def enter (router : Router) (cluster : String) (client : Decoder) : Verdict Docket × Decoder :=
  match client.next with
  | (.incomplete, client) => (.incomplete, client)
  | (.invalid why, client) => (.invalid why, client)
  | (.complete decoded, client) => (.complete (router.record cluster decoded), client)

end Router

end ClusterProxy
