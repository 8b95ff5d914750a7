import ClusterProxy.Topology.Table

/-!
# Topology dumps

A dump is the text in which a node describes its whole cluster, one line for each node.
`Dump.table?` is the slot table that a dump describes: connected masters own their slots, later
lines win over earlier ones, and lines that describe no node are passed over. `Dump.summary` counts
what was in it.
-/

namespace ClusterProxy

/-- The counts of a dump: nodes described, connected masters among them, slots with an owner, and
lines that describe no node. -/
structure Dump.Summary where
  nodes : Nat
  masters : Nat
  slots : Nat
  skipped : Nat
deriving DecidableEq, Repr

namespace Dump

/-- The lines of a dump that are not blank. -/
def lines (dump : String) : List String :=
  ((Text.lines dump.toList).filter fun line => !line.all Text.isBlank).map String.ofList

/-- The nodes of a dump, without the lines that describe none. -/
def nodes (dump : String) : List Node :=
  (lines dump).filterMap fun line => (Node.ofLine line).toOption

/-- The part of an address in front of its last colon, or all of it. -/
def hostOf (address : List Char) : List Char :=
  match address.reverse.dropWhile fun c => c != ':' with
  | [] => address
  | _ :: host => host.reverse

/-- The address at which a node is reached. One that does not know its host has the host of the
node that gave the dump. -/
def addressOf (origin : Option String) (node : Node) : String :=
  match origin with
  | some origin =>
    if node.hasNoHost then String.ofList (hostOf origin.toList ++ node.address.toList)
    else node.address
  | none => node.address

/-- The nodes that own slots. -/
def masters (dump : String) : List Node := (nodes dump).filter Node.ownsSlots

/-- The table that a dump describes; later lines win. None if the dump describes no node. -/
def table? (dump : String) (origin : Option String) : Option Table :=
  if (nodes dump).isEmpty then none
  else
    let table := (masters dump).foldl
      (fun table node => table.record (addressOf origin node) node.ranges) Table.empty
    some { table with populated := true }

/-- The counts of a dump, given the table it describes. -/
def summary (dump : String) (table : Table) : Summary where
  nodes := (nodes dump).length
  masters := (masters dump).length
  slots := table.covered
  skipped := (lines dump).countP fun line => (Node.ofLine line).toOption.isNone

end Dump

end ClusterProxy
