import ClusterProxy.Router.InFlight

/-!
# Where a request goes

A request goes to the node that owns the slot of its keys (`InFlight.route`), and to any node if it
has no key. If the cluster's topology was never learned, or the slot has no owner in it, nodes are
asked for a dump first, once for each request.
-/

namespace ClusterProxy.InFlight

/-- The nodes that can be asked for a topology dump: those the store knows, then the seeds that
are not among them, each once. -/
def candidates (flight : InFlight) (store : Store) : List String :=
  flight.settings.seeds.foldl
    (fun nodes seed => if nodes.contains seed then nodes else nodes ++ [seed])
    (store.nodes flight.cluster)

/-- Asks the first node that can be asked for a topology dump. -/
def bootstrap (flight : InFlight) (store : Store) : Step :=
  match flight.candidates store with
  | node :: others => flight.bootstrapFrom node others
  | [] => flight.fail (.noSeedNode flight.cluster)

/-- Sends the request where it belongs. -/
def route (flight : InFlight) (store : Store) : Step :=
  match flight.request.map Request.targetSlot with
  | none => flight.fail .emptyCommand
  | some (.error fault) => flight.fail fault
  | some (.ok none) => flight.dispatch none none false
  | some (.ok (some slot)) =>
    if store.needsBootstrap flight.cluster && flight.bootstraps == 0 then flight.bootstrap store
    else match store.owner flight.cluster slot with
      | some node => flight.dispatch (some node) none false
      | none =>
        if flight.bootstraps == 0 then flight.bootstrap store
        else flight.fail (.slotNotCovered slot)

/-- Takes the first step for a request. -/
def start (flight : InFlight) (store : Store) : Step :=
  match flight.phase with
  | .failed fault => flight.fail fault
  | .classified => flight.route store
  | _ => flight.misuse "start"

end ClusterProxy.InFlight
