import ClusterProxy.Topology.Node

/-!
# The slot table of one cluster

A `Table` says which node owns each slot of a cluster, and lists the known addresses without
repeats, in the order they were learned. `Table.record` gives a node its ranges of slots,
`Table.patch` changes the owner of a single slot. Both learn the address first, so every owner is
among the known addresses.
-/

namespace ClusterProxy

/-- The owners of a cluster's slots. -/
structure Table where
  owners : Array (Option String)
  nodes : List String
  populated : Bool
deriving DecidableEq, Repr

namespace Table

/-- No slot has an owner. -/
def empty : Table := ⟨Array.replicate Slot.count none, [], false⟩

/-- The owner of a slot. -/
def owner (table : Table) (slot : Nat) : Option String := (table.owners[slot]?).join

/-- The number of slots that have an owner. -/
def covered (table : Table) : Nat := table.owners.countP Option.isSome

/-- Learns an address. -/
def learn (table : Table) (address : String) : Table :=
  if table.nodes.contains address then table else { table with nodes := table.nodes ++ [address] }

/-- Gives `count` slots from `slot` on to an owner; slots past the end are left out. -/
def give (owner : Option String) (owners : Array (Option String)) (slot : Nat) :
    (count : Nat) → Array (Option String)
  | 0 => owners
  | count + 1 => give owner (owners.setIfInBounds slot owner) (slot + 1) count

/-- Giving a run of slots is giving each of them in order. -/
theorem give_eq_foldl (owner : Option String) (owners : Array (Option String)) (slot count : Nat) :
    give owner owners slot count =
      (List.range' slot count).foldl (fun given slot => given.setIfInBounds slot owner) owners := by
  induction count generalizing owners slot with
  | zero => rfl
  | succ count ih => rw [give, ih, List.range'_succ, List.foldl_cons]

/-- Gives the slots of a range to an address; slots past the end of the table are left out. -/
def assign (table : Table) (range : SlotRange) (address : String) : Table :=
  { table with owners := give (some address) table.owners range.first range.length }

/-- Gives a single slot to an address. Nothing happens for a slot past the end of the table. -/
def patch (table : Table) (slot : Nat) (address : String) : Table :=
  if slot < Slot.count then (table.learn address).assign (.ofBounds slot slot) address else table

/-- Records a node that owns slots, under its address. -/
def record (table : Table) (address : String) (ranges : List SlotRange) : Table :=
  ranges.foldl (fun table range => table.assign range address) (table.learn address)

end Table

end ClusterProxy
