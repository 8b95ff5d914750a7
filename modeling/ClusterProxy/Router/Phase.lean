import ClusterProxy.Fault

/-!
# How far a request has come

A request that the proxy accepted is in one of six phases. It is classified, then perhaps waits for
a topology dump, then for the reply of a node, once for each time it is sent; in the end it is done
or has failed. A phase holds what is known in it and at no other time.
-/

namespace ClusterProxy

/-- What is known of the node's answer to `ASKING`. -/
inductive Ack where
  /-- There is none to come. -/
  | settled
  /-- It comes before the reply to the request. -/
  | pending
  /-- It was no: the request fails once its own reply has been read. -/
  | refused (fault : Fault)
deriving DecidableEq, Repr

/-- A request that was sent to a node: which node, whether behind `ASKING`, and the answer to
that. -/
structure Attempt where
  node : Option String
  asking : Bool
  ack : Ack
deriving DecidableEq, Repr

/-- How far a request has come. -/
inductive Phase where
  /-- The command and its keys are known. -/
  | classified
  /-- Waits for a topology dump from `node`; `others` can be asked after it. -/
  | bootstrapping (node : String) (others : List String)
  /-- The request was sent and no reply was looked for yet. -/
  | dispatching (attempt : Attempt)
  /-- A reply was looked for and was not there as a whole. -/
  | awaitingReply (attempt : Attempt)
  /-- The client has a node's reply. -/
  | done
  /-- The client has an error reply. -/
  | failed (fault : Fault)
deriving DecidableEq, Repr

namespace Phase

/-- The name of a phase. -/
def name : Phase → String
  | classified => "Classified"
  | bootstrapping _ _ => "Bootstrapping"
  | dispatching _ => "Dispatching"
  | awaitingReply _ => "AwaitingReply"
  | done => "Done"
  | failed _ => "Failed"

/-- The attempt whose reply is to come. -/
def attempt? : Phase → Option Attempt
  | dispatching attempt => some attempt
  | awaitingReply attempt => some attempt
  | _ => none

/-- The fault of a request that failed. -/
def fault? : Phase → Option Fault
  | failed fault => some fault
  | _ => none

end Phase

end ClusterProxy
