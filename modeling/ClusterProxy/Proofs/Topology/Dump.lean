import ClusterProxy.Proofs.Repeats
import ClusterProxy.Proofs.Topology.History

/-!
# What a dump means

A dump is written into a fresh table line by line. What the table holds in the end can be said of
the lines alone: `Dump.Serves` says that a line gives a slot to the node it describes, and
`Dump.Replaced` what a store holds after a dump was accepted.

The lines are told apart once, by `Dump.masterOf?`: those that describe a connected master, and all
others, which the table does not see. Its owners are then a search from the last line back
(`Dump.owner?_eq_some_iff`), and its addresses the masters' addresses without repeats
(`Dump.nodes_of_table?`).
-/

namespace ClusterProxy

namespace Dump

/-- The connected master that a line describes. -/
def masterOf? (line : String) : Option Node := (Node.ofLine line).toOption.filter Node.ownsSlots

/-- A line gives a slot to the node it describes: a connected master with the slot in one of its
ranges. -/
structure Serves (line : String) (node : Node) (slot : Nat) : Prop where
  described : Node.ofLine line = .ok node
  owns : node.ownsSlots
  within : ∃ range ∈ node.ranges, range.contains slot

/-! ## Lines -/

theorem toOption_ofLine_eq_some_iff {line : String} {node : Node} :
    (Node.ofLine line).toOption = some node ↔ Node.ofLine line = .ok node := by
  cases Node.ofLine line <;> simp [Except.toOption]

theorem masterOf?_eq_some_iff {line : String} {node : Node} :
    masterOf? line = some node ↔ Node.ofLine line = .ok node ∧ node.ownsSlots := by
  rw [masterOf?, Option.filter_eq_some_iff, toOption_ofLine_eq_some_iff]

theorem serves_iff {line : String} {node : Node} {slot : Nat} :
    Serves line node slot ↔
      masterOf? line = some node ∧ node.ranges.any fun range => range.contains slot := by
  rw [masterOf?_eq_some_iff, List.any_eq_true]
  constructor
  · rintro ⟨described, owns, within⟩
    exact ⟨⟨described, owns⟩, within⟩
  · rintro ⟨⟨described, owns⟩, within⟩
    exact ⟨described, owns, within⟩

theorem masters_eq_filterMap (dump : String) : masters dump = (lines dump).filterMap masterOf? :=
  List.filter_filterMap ..

theorem length_nodes_eq_countP (dump : String) :
    (nodes dump).length = (lines dump).countP fun line => (Node.ofLine line).toOption.isSome := by
  rw [nodes, List.length_filterMap_eq_countP]

/-- Every line that is not blank describes a node or is counted as skipped. -/
theorem length_nodes_add_countP (dump : String) :
    (nodes dump).length + (lines dump).countP (fun line => (Node.ofLine line).toOption.isNone) =
      (lines dump).length := by
  rw [length_nodes_eq_countP, List.length_eq_countP_add_countP fun line =>
    (Node.ofLine line).toOption.isSome]
  congr 2
  funext line
  cases (Node.ofLine line).toOption <;> rfl

theorem nodes_eq_nil_iff {dump : String} :
    nodes dump = [] ↔ ∀ line ∈ lines dump, ∀ node, Node.ofLine line ≠ .ok node := by
  simp only [nodes, List.filterMap_eq_nil_iff, Option.eq_none_iff_forall_ne_some, ne_eq,
    toOption_ofLine_eq_some_iff]

/-! ## Owners -/

theorem any_masterOf?_iff {line : String} {slot : Nat} :
    ((masterOf? line).any fun node => node.ranges.any fun range => range.contains slot) = true ↔
      ∃ node, Serves line node slot := by
  simp only [serves_iff, Option.any_eq_true]

/-- The search for an owner goes over the lines, from the last one back. -/
theorem owner?_eq_bind (dump : String) (origin : Option String) (slot : Nat) :
    owner? dump origin slot =
      (((lines dump).reverse.find? fun line => (masterOf? line).any fun node =>
        node.ranges.any fun range => range.contains slot).bind masterOf?).map
          (addressOf origin) := by
  rw [owner?, masters_eq_filterMap, ← List.filterMap_reverse, List.find?_filterMap]

/-- The last line that gives a slot to its node decides. -/
theorem owner?_eq_some_iff {dump address : String} {origin : Option String} {slot : Nat} :
    owner? dump origin slot = some address ↔
      ∃ front line back node, lines dump = front ++ line :: back ∧ Serves line node slot ∧
        (∀ later ∈ back, ∀ other, ¬ Serves later other slot) ∧ address = addressOf origin node := by
  rw [owner?_eq_bind, Option.map_eq_some_iff]
  simp only [Option.bind_eq_some_iff, List.find?_eq_some_iff_append, any_masterOf?_iff,
    Bool.not_eq_eq_eq_not, Bool.not_true, ← Bool.not_eq_true]
  constructor
  · rintro ⟨node, ⟨line, ⟨⟨other, serves⟩, back, front, split, later⟩, read⟩, rfl⟩
    obtain ⟨same, within⟩ := serves_iff.1 serves
    obtain rfl : node = other := Option.some.inj (read.symm.trans same)
    refine ⟨front.reverse, line, back.reverse, node, ?_, serves, ?_, rfl⟩
    · rw [← List.reverse_reverse (lines dump), split]
      simp
    · intro later' member other serves
      exact later later' (List.mem_reverse.1 member) ⟨other, serves⟩
  · rintro ⟨front, line, back, node, split, serves, later, rfl⟩
    refine ⟨node, ⟨line, ⟨⟨node, serves⟩, back.reverse, front.reverse, ?_, ?_⟩,
      (serves_iff.1 serves).1⟩, rfl⟩
    · rw [split]
      simp
    · rintro later' member ⟨other, serves⟩
      exact later later' (List.mem_reverse.1 member) other serves

/-- A range is cut to its first slot if its bounds are the wrong way round. -/
example : [7, 8, 9].map (owner?
    "a x:1 master - 0 0 1 connected 0-9\nno node\nb y:1 master - 0 0 1 connected 8-3\n" none) =
      [some "x:1", some "y:1", some "x:1"] := by decide +kernel

theorem owner?_eq_none_iff {dump : String} {origin : Option String} {slot : Nat} :
    owner? dump origin slot = none ↔
      ∀ line ∈ lines dump, ∀ node, ¬ Serves line node slot := by
  rw [owner?, Option.map_eq_none_iff, List.find?_eq_none]
  simp only [List.mem_reverse, masters_eq_filterMap, List.mem_filterMap, serves_iff]
  constructor
  · rintro none_serves line listed node ⟨read, within⟩
    exact none_serves node ⟨line, listed, read⟩ within
  · rintro none_serves node ⟨line, listed, read⟩ within
    exact none_serves line listed node ⟨read, within⟩

end Dump

/-! ## Addresses -/

namespace Table

theorem nodes_foldl_assign (table : Table) (ranges : List SlotRange) (address : String) :
    (ranges.foldl (fun table range => table.assign range address) table).nodes = table.nodes := by
  induction ranges generalizing table with
  | nil => rfl
  | cons range ranges ih => exact ih (table.assign range address)

theorem nodes_populated (table : Table) (populated : Bool) :
    Table.nodes { table with populated } = table.nodes := rfl

theorem nodes_record (table : Table) (address : String) (ranges : List SlotRange) :
    (table.record address ranges).nodes = (table.learn address).nodes := nodes_foldl_assign ..

end Table

namespace Dump

theorem nodes_foldl_record (origin : Option String) (masters : List Node) :
    (masters.foldl (fun table node => table.record (addressOf origin node) node.ranges)
      Table.empty).nodes = (masters.map (addressOf origin)).eraseDups := by
  induction masters using List.reverseRecOn with
  | nil => rfl
  | append_singleton masters node ih =>
    rw [List.foldl_concat, Table.nodes_record, List.map_append, List.map_singleton,
      eraseDups_concat, Table.learn, apply_ite Table.nodes, ih]
    simp only [List.contains_eq_mem, List.mem_eraseDups, decide_eq_true_eq]

/-- The addresses that a dump gives are those of its masters, each where it is met first. -/
theorem nodes_of_table? {dump : String} {origin : Option String} {table : Table}
    (described : table? dump origin = some table) :
    table.nodes = ((masters dump).map (addressOf origin)).eraseDups := by
  unfold table? at described
  split at described
  · simp at described
  · obtain rfl := Option.some.inj described
    rw [Table.nodes_populated, nodes_foldl_record]

/-- A dump is refused exactly if no line describes a node. -/
theorem table?_eq_none_iff {dump : String} {origin : Option String} :
    table? dump origin = none ↔ nodes dump = [] := by
  rw [← not_iff_not, ← ne_eq, ← ne_eq, ← exists_table?_iff, Option.ne_none_iff_exists']

/-- The table depends on the masters alone. -/
theorem table?_congr {dump other : String} {origin : Option String} {table fresh : Table}
    (same : masters dump = masters other) (described : table? dump origin = some table)
    (again : table? other origin = some fresh) : table = fresh := by
  unfold table? at described again
  split at described
  · simp at described
  · split at again
    · simp at again
    · rw [same] at described
      exact Option.some.inj (described.symm.trans again)

end Dump

/-! ## Replacing a table -/

/-- What a store holds after a dump was accepted that `origin` gave, and what was counted. -/
structure Dump.Replaced (store : Store) (cluster dump : String) (origin : Option String)
    (summary : Summary) (written : Store) : Prop where
  /-- The owner of a slot is given by the last line that serves the slot. -/
  owner : ∀ slot address, written.owner cluster slot = some address ↔
    ∃ front line back node, lines dump = front ++ line :: back ∧ Serves line node slot ∧
      (∀ later ∈ back, ∀ other, ¬ Serves later other slot) ∧ address = addressOf origin node
  /-- A slot that no line serves has no owner. -/
  unowned : ∀ slot, written.owner cluster slot = none ↔
    ∀ line ∈ lines dump, ∀ node, ¬ Serves line node slot
  /-- The known addresses are those of the masters, each where it is met first. -/
  nodes : written.nodes cluster = ((Dump.masters dump).map (addressOf origin)).eraseDups
  /-- A line that is not blank is counted as a node if it describes one. -/
  described : summary.nodes = (lines dump).countP fun line => (Node.ofLine line).toOption.isSome
  /-- A line that is not blank is counted either as a node or as skipped. -/
  skipped : summary.nodes + summary.skipped = (lines dump).length
  masters : summary.masters = (lines dump).countP fun line => (masterOf? line).isSome
  slots : summary.slots = written.covered cluster
  /-- Lines that describe no connected master change nothing but the counts, and neither does what
  the store held before. -/
  alone : ∀ (before : Store) (other : String) (counts : Summary) (after : Store),
    Dump.masters other = Dump.masters dump →
      before.replace cluster other origin = .ok (counts, after) →
        after.table cluster = written.table cluster ∧ counts.masters = summary.masters ∧
          counts.slots = summary.slots
  /-- The tables of other clusters are as they were. -/
  others : ∀ name, name ≠ cluster → written.table name = store.table name

namespace Store

variable {store written : Store} {cluster dump : String} {origin : Option String}
  {summary : Dump.Summary}

theorem replaced_of_replace
    (accepted : store.replace cluster dump origin = .ok (summary, written)) :
    Dump.Replaced store cluster dump origin summary written := by
  obtain ⟨table, described, rfl, rfl⟩ := replace_eq_ok_iff.1 accepted
  have held : (store.put cluster table).table cluster = table := by rw [table_put, if_pos rfl]
  have owners (slot : Nat) : (store.put cluster table).owner cluster slot =
      Dump.owner? dump origin slot := by
    rw [Store.owner, held, Dump.owner_of_table? described]
  exact {
    owner := fun slot address => by rw [owners, Dump.owner?_eq_some_iff]
    unowned := fun slot => by rw [owners, Dump.owner?_eq_none_iff]
    nodes := by rw [Store.nodes, held, Dump.nodes_of_table? described]
    described := Dump.length_nodes_eq_countP dump
    skipped := Dump.length_nodes_add_countP dump
    masters := by
      rw [Dump.summary, Dump.masters_eq_filterMap, List.length_filterMap_eq_countP]
    slots := by rw [Dump.summary, Store.covered, held]
    alone := fun before other counts after same again => by
      obtain ⟨fresh, found, rfl, rfl⟩ := replace_eq_ok_iff.1 again
      obtain rfl := Dump.table?_congr same found described
      rw [table_put, if_pos rfl, held]
      simp only [Dump.summary, same, and_self]
    others := fun name other => by rw [table_put, if_neg other] }

/-- What a replacement does that is refused. -/
theorem replace_eq_error_iff {fault : Fault} :
    store.replace cluster dump origin = .error fault ↔
      fault = .emptyTopology cluster ∧ Dump.nodes dump = [] := by
  rw [← @Dump.table?_eq_none_iff dump origin]
  unfold replace
  cases Dump.table? dump origin <;> simp [eq_comm]

/-- What a dump means for the cluster it is a dump of.

* It is refused, as an empty topology, exactly if none of its lines describes a node, and then the
  store stays as it is.
* If a line describes a node, it is accepted. The last line that serves a slot decides who owns it;
  see `Dump.Replaced` for the rest. -/
theorem replace_means (store : Store) (cluster dump : String) (origin : Option String) :
    (store.replace cluster dump origin = .error (.emptyTopology cluster) ↔
        ∀ line ∈ Dump.lines dump, ∀ node, Node.ofLine line ≠ .ok node) ∧
      (∀ fault, store.replace cluster dump origin = .error fault →
        fault = .emptyTopology cluster ∧ store.write (.replace cluster dump origin) = store) ∧
      ((∃ line ∈ Dump.lines dump, ∃ node, Node.ofLine line = .ok node) →
        ∃ summary written, store.replace cluster dump origin = .ok (summary, written) ∧
          Dump.Replaced store cluster dump origin summary written) := by
  refine ⟨?_, fun fault refused => ⟨(replace_eq_error_iff.1 refused).1, ?_⟩, ?_⟩
  · rw [replace_eq_error_iff, Dump.nodes_eq_nil_iff, and_iff_right rfl]
  · simp only [write, refused]
  · rintro ⟨line, listed, node, described⟩
    cases outcome : store.replace cluster dump origin with
    | error fault =>
      have none_read := Dump.nodes_eq_nil_iff.1 (replace_eq_error_iff.1 outcome).2
      exact absurd described (none_read line listed node)
    | ok replaced => exact ⟨replaced.1, replaced.2, rfl, replaced_of_replace outcome⟩

end Store

end ClusterProxy
