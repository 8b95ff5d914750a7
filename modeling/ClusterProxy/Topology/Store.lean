import ClusterProxy.Topology.Dump

/-!
# The tables of all clusters

A `Store` holds one table for each cluster, by name. A cluster that was never written has the
empty table, whether it was mentioned before or not. Writing one cluster leaves every other cluster
as it is.
-/

namespace ClusterProxy

/-- The tables of the clusters that were written. -/
structure Store where
  tables : List (String × Table)
deriving DecidableEq, Repr

namespace Store

/-- No cluster was written. -/
def empty : Store := ⟨[]⟩

/-- The table of a cluster. -/
def table (store : Store) (cluster : String) : Table :=
  (store.tables.lookup cluster).getD Table.empty

/-- Sets the table of a cluster. -/
def put (store : Store) (cluster : String) (table : Table) : Store :=
  ⟨(cluster, table) :: store.tables.filter fun entry => entry.1 != cluster⟩

/-- A cluster has a table from when it is first mentioned, the empty one until it is written. -/
def mention (store : Store) (cluster : String) : Store :=
  match store.tables.lookup cluster with
  | some _ => store
  | none => store.put cluster Table.empty

/-- The owner of a slot. -/
def owner (store : Store) (cluster : String) (slot : Nat) : Option String :=
  (store.table cluster).owner slot

/-- The known addresses of a cluster. -/
def nodes (store : Store) (cluster : String) : List String := (store.table cluster).nodes

/-- The number of slots of a cluster that have an owner. -/
def covered (store : Store) (cluster : String) : Nat := (store.table cluster).covered

/-- Whether no dump of the cluster was ever accepted. -/
def needsBootstrap (store : Store) (cluster : String) : Bool := !(store.table cluster).populated

/-- Replaces the table of a cluster by what a dump describes. `origin` is the address of the node
that gave it. The store is not changed by a dump that describes no node. -/
def replace (store : Store) (cluster dump : String) (origin : Option String) :
    Except Fault (Dump.Summary × Store) :=
  match Dump.table? dump origin with
  | none => .error (.emptyTopology cluster)
  | some table => .ok (Dump.summary dump table, store.put cluster table)

/-- Gives a single slot of a cluster to an address. -/
def patch (store : Store) (cluster : String) (slot : Nat) (address : String) : Store :=
  store.put cluster ((store.table cluster).patch slot address)

end Store

end ClusterProxy
