import ClusterProxy.Fault

/-!
# Actions

The proxy's core touches no connection. It tells what is to be done next for a request, as an
`Action`: send bytes to a node and bring back the reply, or send bytes to the client, which ends
the request.
-/

namespace ClusterProxy

/-- What is to be done next for a request. -/
inductive Action where
  /-- Send the payload to a node, to any node if none is named, and after a delay in nanoseconds if
  one is given. The reply belongs to the request. -/
  | dispatch (node : Option String) (payload : Bytes) (delay : Option Nat)
  /-- Send the payload to a node. The reply is a topology dump. -/
  | bootstrap (node : String) (payload : Bytes)
  /-- Send a node's reply to the client. -/
  | forward (reply : Bytes)
  /-- Send an error reply to the client. -/
  | respond (reply : Bytes)
  /-- Send an error reply to the client and give up the connection to the node. -/
  | dropBackend (reply : Bytes)
  /-- Wait for more of the reply. -/
  | needMore
  /-- Close the connection to the client. -/
  | close
deriving DecidableEq, Repr

/-- How a client learns of a fault. -/
def Action.ofFault (fault : Fault) : Action :=
  if fault.isFatal then close else respond fault.reply

end ClusterProxy
