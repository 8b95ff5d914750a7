import ClusterProxy.Router.Route

/-!
# The reply to the request for a dump

`InFlight.onTopology` takes the step for bytes of the node that was asked for a topology dump. A
dump replaces the cluster's table, and the request goes where it belongs. If the reply cannot be
used, the next node is asked; when none is left, the request fails.
-/

namespace ClusterProxy.InFlight

/-- The topology dump in a node's reply. -/
def dumpOf (reply : Decoded) : Except Fault String :=
  match reply.frame.kind, reply.payload with
  | .bulk, some dump => .ok (Text.ofUtf8Lossy dump)
  | .error, payload =>
    .error (.protocol ("CLUSTER NODES failed: " ++ Text.ofUtf8Lossy (payload.getD [])))
  | _, _ => .error (.protocol "CLUSTER NODES reply is not a bulk string")

/-- The store with the topology dump in the reply of a node. -/
def learned (flight : InFlight) (store : Store) (node : String) (reply : Decoded) :
    Except Fault Store :=
  match dumpOf reply with
  | .error fault => .error fault
  | .ok dump => (store.replace flight.cluster dump (some node)).map Prod.snd

/-- Asks the next node for a topology dump, after a fault. -/
def failOver (flight : InFlight) (others : List String) (fault : Fault) : Step :=
  match others with
  | next :: others => flight.bootstrapFrom next others
  | [] => flight.fail fault

/-- Acts on a node's reply to the request for a topology dump. -/
def receiveDump (flight : InFlight) (node : String) (others : List String) (store : Store)
    (backend : Decoder) (reply : Decoded) : Outcome :=
  match flight.learned store node reply with
  | .error fault => ⟨flight.failOver others fault, store, backend⟩
  | .ok store =>
    let counted := { flight with bootstraps := flight.bootstraps + 1 }
    ⟨counted.route store, store, backend⟩

/-- Takes the step for bytes that came from the node that was asked for a topology dump. -/
def onTopology (flight : InFlight) (store : Store) (backend : Decoder) : Outcome :=
  match flight.phase with
  | .bootstrapping node others =>
    match backend.next with
    | (.incomplete, backend) => ⟨⟨.needMore, flight⟩, store, backend⟩
    | (.invalid why, backend) => ⟨flight.breakOff (some node) why, store, backend⟩
    | (.complete reply, backend) => flight.receiveDump node others store backend reply
  | _ => ⟨flight.misuse "on_topology", store, backend⟩

end ClusterProxy.InFlight
