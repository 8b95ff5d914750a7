import ClusterProxy.Router.InFlight
import ClusterProxy.Topology.Reading

/-!
# The reply to a request

`InFlight.onReply` takes the step for bytes of the node that a request was sent to. An answer goes
to the client. A redirect sends the request on, until it met more redirects than the settings allow.

The connection stays in step: behind `ASKING` two frames are read for one request, also if the first
one refuses, and the second one alone can reach the client.
-/

namespace ClusterProxy.InFlight

/-- Counts a redirect and sends the request on, unless there were too many. -/
def redirect (flight : InFlight) (node : Option String) (delay : Option Nat) (asking : Bool) :
    Step :=
  let counted := { flight with redirects := flight.redirects + 1 }
  if flight.settings.maxRedirects < counted.redirects then
    counted.fail (.tooManyRedirects counted.redirects.toNat)
  else counted.dispatch node delay asking

/-- Acts on what a reply says. -/
def settle (flight : InFlight) (attempt : Attempt) (reply : Decoded) : Reading → Step
  | .moved _ address => flight.redirect (some address) none false
  | .ask _ address => flight.redirect (some address) none true
  | .tryAgain => flight.redirect attempt.node (some flight.settings.retryDelay) attempt.asking
  | _ => ⟨.forward reply.bytes, { flight with phase := .done }⟩

/-- Acts on a node's reply to the request. -/
def receive (flight : InFlight) (attempt : Attempt) (store : Store) (backend : Decoder)
    (reply : Decoded) : Outcome :=
  match attempt.ack with
  | .refused fault => ⟨flight.fail fault, store, backend⟩
  | _ =>
    match Reading.ofFrame reply.frame reply.bytes with
    | .error fault => ⟨flight.fail fault, store, backend⟩
    | .ok reading =>
      ⟨flight.settle attempt reply reading, store.heed flight.cluster reading, backend⟩

/-- Waits for more of what a node has to send. -/
def await (flight : InFlight) (attempt : Attempt) : Step :=
  ⟨.needMore, { flight with phase := .awaitingReply attempt }⟩

/-- Reads a node's reply to the request. -/
def readReply (flight : InFlight) (attempt : Attempt) (store : Store) (backend : Decoder) :
    Outcome :=
  match backend.next with
  | (.incomplete, backend) => ⟨flight.await attempt, store, backend⟩
  | (.invalid why, backend) => ⟨flight.breakOff attempt.node why, store, backend⟩
  | (.complete reply, backend) => flight.receive attempt store backend reply

/-- What a node's answer to `ASKING` means. Any status line is a yes. -/
def ackOf (answer : Decoded) : Ack :=
  if answer.frame.kind = .status then .settled
  else .refused (.protocol ("ASKING refused: " ++ Text.ofUtf8Lossy (answer.payload.getD [])))

/-- Reads a node's answer to `ASKING`, and then its reply to the request. -/
def readAck (flight : InFlight) (attempt : Attempt) (store : Store) (backend : Decoder) :
    Outcome :=
  match backend.next with
  | (.incomplete, backend) => ⟨flight.await attempt, store, backend⟩
  | (.invalid why, backend) => ⟨flight.breakOff attempt.node why, store, backend⟩
  | (.complete answer, backend) =>
    flight.readReply { attempt with ack := ackOf answer } store backend

/-- Takes the step for bytes that came from the node the request was sent to. -/
def onReply (flight : InFlight) (store : Store) (backend : Decoder) : Outcome :=
  match flight.phase.attempt? with
  | none => ⟨flight.misuse "on_reply", store, backend⟩
  | some attempt =>
    if attempt.ack = .pending then flight.readAck attempt store backend
    else flight.readReply attempt store backend

end ClusterProxy.InFlight
