import ClusterProxy.Proofs.Address
import ClusterProxy.Proofs.Topology.Dump

/-!
# The address under which a node is recorded

A line of a dump names a host and a port (`Node.Names`). The host may be missing: the node does not
know it, and the host of the node that gave the dump stands for it. An address is taken to be a port
alone if it begins with a colon. A port alone does, and so does an address whose host begins with a
colon, as the IPv6 address `::1`.

`Store.resolves` says for every host what is recorded, and `Store.loopback_joined` that a host which
begins with a colon is not recorded as it stands.
-/

namespace ClusterProxy

namespace Node

/-- A line names a host, which may be missing, and a port: its second field does, without what a
line may add to it. -/
structure Names (line : String) (host port : List Char) : Prop where
  field : (fields line)[1]?.map clientAddress = some (host ++ ':' :: port)
  some_digit : port ≠ []
  digits : ∀ c ∈ port, c.isDigit

theorem address_of_ofFields {fields : List (List Char)} {node : Node}
    (read : ofFields fields = .ok node) :
    fields[1]?.map clientAddress = some node.address.toList := by
  unfold ofFields at read
  split at read
  · dsimp only at read
    split at read
    · simp at read
    · -- What the ranges are does not matter, only that they could be read.
      simp only [bind, Except.bind, pure, Except.pure] at read
      split at read
      · split at read
        · simp at read
        · obtain rfl := Except.ok.inj read
          simp
      · obtain rfl := Except.ok.inj read
        simp
  · simp at read

/-- The address of a node is the one that its line names. -/
theorem Names.address {line : String} {host port : List Char} {node : Node}
    (names : Names line host port) (described : ofLine line = .ok node) :
    node.address = String.ofList (host ++ ':' :: port) := by
  unfold ofLine at described
  split at described
  · next read =>
    obtain rfl := Except.ok.inj described
    have same := (address_of_ofFields read).symm.trans names.field
    rw [← Option.some.inj same, String.ofList_toList]
  · simp at described

end Node

namespace Dump

/-- The address that stands for a host and a port in a dump that `origin` gave. -/
theorem addressOf_eq {node : Node} {host port : List Char} (origin : Option String)
    (named : node.address = String.ofList (host ++ ':' :: port)) :
    addressOf origin node = String.ofList
      ((if host.head?.getD ':' = ':' then (origin.map fun origin => hostOf origin.toList).getD []
        else []) ++ (host ++ ':' :: port)) := by
  have colon : node.hasNoHost = true ↔ host.head?.getD ':' = ':' := by
    rw [Node.hasNoHost, named, String.toList_ofList, decide_eq_true_eq]
    cases host <;> simp
  unfold addressOf
  cases origin with
  | none => simp [named]
  | some origin =>
    simp only [colon, named, String.toList_ofList, Option.map_some, Option.getD_some]
    split <;> simp

end Dump

namespace Store

variable {cluster dump line : String} {front back : List String} {node : Node}
  {host port : List Char}

/-- The address under which a connected master is recorded. Its line names a host, which may be
missing, and a port.

* Without an origin it is recorded as it stands.
* If the host is missing, it is recorded under the host of the origin.
* If there is a host that does not begin with a colon, it is recorded as it stands.
* If the host begins with a colon, it is recorded with the host of the origin in front. -/
theorem resolves (store : Store) (origin : Option String)
    (listed : Dump.lines dump = front ++ line :: back) (described : Node.ofLine line = .ok node)
    (owns : node.ownsSlots) (names : Node.Names line host port) :
    ∃ summary written address, store.replace cluster dump origin = .ok (summary, written) ∧
      address ∈ written.nodes cluster ∧
      (∀ slot, Dump.Serves line node slot →
        (∀ later ∈ back, ∀ other, ¬ Dump.Serves later other slot) →
          written.owner cluster slot = some address) ∧
      (origin = none → address = String.ofList (host ++ ':' :: port)) ∧
      ∀ ohost oport, origin = some (String.ofList (ohost ++ ':' :: oport)) → ':' ∉ oport →
        (host = [] → address = String.ofList (ohost ++ ':' :: port)) ∧
        (host ≠ [] → host.head? ≠ some ':' → address = String.ofList (host ++ ':' :: port)) ∧
        (host.head? = some ':' → address = String.ofList (ohost ++ (host ++ ':' :: port))) := by
  have some_node : Dump.nodes dump ≠ [] := by
    rw [ne_eq, Dump.nodes_eq_nil_iff]
    exact fun none_read => none_read line (by simp [listed]) node described
  obtain ⟨table, read⟩ := (@Dump.exists_table?_iff dump origin).2 some_node
  have accepted : store.replace cluster dump origin = .ok (Dump.summary dump table, _) :=
    replace_eq_ok_iff.2 ⟨table, read, rfl, rfl⟩
  have replaced := replaced_of_replace accepted
  have address := Dump.addressOf_eq origin (names.address described)
  refine ⟨_, _, Dump.addressOf origin node, accepted, ?_, ?_, ?_, ?_⟩
  · rw [replaced.nodes, List.mem_eraseDups, Dump.masters_eq_filterMap]
    refine List.mem_map_of_mem (List.mem_filterMap.2 ⟨line, by simp [listed], ?_⟩)
    exact Dump.masterOf?_eq_some_iff.2 ⟨described, owns⟩
  · exact fun slot serves later =>
      (replaced.owner slot _).2 ⟨front, line, back, node, listed, serves, later, rfl⟩
  · rintro rfl
    simpa using address
  · rintro ohost oport rfl last
    rw [address, Option.map_some, String.toList_ofList, Address.hostOf_append last]
    refine ⟨?_, fun some_host plain => ?_, fun colon => ?_⟩
    · rintro rfl
      simp
    · obtain ⟨c, rest, rfl⟩ := List.exists_cons_of_ne_nil some_host
      have unlike : c ≠ ':' := by simpa using plain
      simp [unlike]
    · simp [colon]

/-- A host in brackets is recorded as it stands. -/
theorem resolves_bracketed :
    ∃ summary written, empty.replace "c"
        "a :8@18 master - 0 0 1 connected 0-3\nb [::1]:7@17,h master - 0 0 1 connected 2-5\n"
        (some "s:1") = .ok (summary, written) ∧
      "[::1]:7" ∈ written.nodes "c" ∧ written.owner "c" 3 = some "[::1]:7" := by
  have described : Node.ofLine "b [::1]:7@17,h master - 0 0 1 connected 2-5" = .ok
      ⟨"b", "[::1]:7", .master, false, true, none, [.ofBounds 2 5]⟩ := by decide +kernel
  have lines : Dump.lines
      "a :8@18 master - 0 0 1 connected 0-3\nb [::1]:7@17,h master - 0 0 1 connected 2-5\n" =
        ["a :8@18 master - 0 0 1 connected 0-3"] ++
          ["b [::1]:7@17,h master - 0 0 1 connected 2-5"] := by decide +kernel
  have names : Node.Names "b [::1]:7@17,h master - 0 0 1 connected 2-5" "[::1]".toList ['7'] :=
    ⟨by decide +kernel, by decide, List.forall_mem_singleton.2 rfl⟩
  obtain ⟨summary, written, address, accepted, listed, owner, _, resolved⟩ :=
    @resolves "c" _ _ _ _ _ _ _ empty (some "s:1") lines described (by decide) names
  obtain ⟨_, named, _⟩ := resolved ['s'] ['1'] rfl (by decide)
  obtain rfl := named (by decide) (by decide)
  have serves : Dump.Serves _ _ 3 := ⟨described, by decide, by decide⟩
  exact ⟨summary, written, accepted, listed, owner 3 serves (by simp)⟩

/-- A host that begins with a colon is not recorded as it stands, although it is there: the node is
recorded under an address that no node has. -/
theorem loopback_joined :
    Node.Names "a ::1:7@17 master - 0 0 1 connected 0-9" "::1".toList ['7'] ∧
      (empty.replace "c" "a ::1:7@17 master - 0 0 1 connected 0-9\n" (some "s:1")).toOption.map
        (fun (_, written) => (written.nodes "c", written.owner "c" 3)) =
          some (["s::1:7"], some "s::1:7") :=
  ⟨⟨by decide +kernel, by decide, List.forall_mem_singleton.2 rfl⟩, by decide +kernel⟩

end Store

end ClusterProxy
