import ClusterProxy.Proofs.Command
import ClusterProxy.Proofs.Frame.Excerpt
import ClusterProxy.Proofs.Groups
import ClusterProxy.Proofs.Request
import Mathlib.Data.List.Flatten

/-!
# Requests in parts

A request whose arguments are keys, or keys and their values in turn, can be sent in parts, one for
each of its groups. `Request.splits` says that nothing is lost: a part is a frame under the same
limit and a request of the same command with that one group, and the items of the groups are those
of the request.

* `Command.find?_utf8_name` says that a command is found by the name under which it is sent on.
* `Request.Lists` names the items of such a request, and `Request.Lists.exists_part` follows one
  part through the decoder and back.
-/

namespace ClusterProxy

/-! ## Names of commands -/

namespace Command

theorem utf8_name_of_find? {name : Bytes} {command : Command} (found : find? name = some command) :
    Text.utf8 command.name = name.map Bytes.upper :=
  answersTo_iff.1 (find?_eq_some_iff.1 found).2

/-- A command is found by its own name. -/
theorem find?_utf8_name {name : Bytes} {command : Command} (found : find? name = some command) :
    find? (Text.utf8 command.name) = some command := by
  obtain ⟨listed, called⟩ := find?_eq_some_iff.1 found
  refine find?_eq_some_iff.2 ⟨listed, answersTo_iff.2 ?_⟩
  exact (upper_name listed).symm

end Command

/-! ## The parts of a request -/

namespace Request

/-- The items of a request that can be sent in parts, with the name it came with. -/
structure Lists (request : Request) (name : Bytes) (items : List Item) : Prop where
  command : Command.find? name = some request.command
  elements : request.decoded.elements = some name :: (items.flatMap Item.args).map some
  values : ∀ item ∈ items, item.value.isSome ↔ request.command.shape = .pairs
  groups : request.groups = SlotGroup.ofItems items

section

variable {decoder rest : Decoder} {decoded : Decoded} {request : Request} {name : Bytes}
  {items : List Item} {group : SlotGroup}

theorem exists_lists (accepted : ofDecoded decoded = .ok request)
    (several : request.command.shape ∈ [.keys, .pairs]) :
    ∃ name items, request.Lists name items := by
  obtain ⟨_, name, args, items, elements, found, listed, same⟩ := ofDecoded_eq_ok_iff.1 accepted
  obtain ⟨_, values, rfl⟩ := (itemsOf_eq_ok_iff several).1 listed
  rw [← decoded_of_ofDecoded accepted] at elements
  exact ⟨name, items, found, elements, values, congrArg groups same⟩

/-- The words of a part are as long as some of the words of the request. -/
theorem Lists.sublist (lists : request.Lists name items) (member : group ∈ request.groups) :
    ((Text.utf8 request.command.name :: group.args).map List.length).Sublist
      ((name :: items.flatMap Item.args).map List.length) := by
  rw [lists.groups] at member
  have args : group.args.Sublist (items.flatMap Item.args) :=
    (SlotGroup.sublist_of_mem member).flatMap Item.args
  rw [Command.utf8_name_of_find? lists.command, List.map_cons, List.map_cons, List.length_map]
  exact (args.map List.length).cons_cons name.length

/-- The part of a request for one of its groups is read under the limit of the request, and accepted
as the same command with that group alone. -/
theorem Lists.exists_part (lists : request.Lists name items)
    (given : decoder.next = (.complete request.decoded, rest))
    (several : request.command.shape ∈ [.keys, .pairs]) (member : group ∈ request.groups) :
    ∃ piece, piece.bytes = group.request request.command.name ∧
      Decoder.next ⟨decoder.limit, group.request request.command.name⟩ =
        (.complete piece, ⟨decoder.limit, []⟩) ∧
      ofDecoded piece = .ok ⟨piece, request.command, [group]⟩ := by
  have held : request.decoded.elements = (name :: items.flatMap Item.args).map some :=
    lists.elements
  obtain ⟨piece, read, next⟩ := Call.exists_next_of_words given held
    ((Call.ofName (Text.utf8 request.command.name)).addAll group.args) (lists.sublist member) []
  rw [List.append_nil] at next
  rw [lists.groups] at member
  have again : itemsOf request.command (group.args.map some) = .ok group.items :=
    (itemsOf_eq_ok_iff several).2 ⟨SlotGroup.items_ne_nil member,
      fun item given => lists.values item ((SlotGroup.sublist_of_mem member).subset given), rfl⟩
  refine ⟨piece, read.bytes, next, ofDecoded_eq_ok_iff.2 ⟨read.bulks, _, _, _, read.elements,
    Command.find?_utf8_name lists.command, again, ?_⟩⟩
  rw [SlotGroup.ofItems_items member]

/-- Nothing is lost when a request that takes keys, or keys and their values, is sent in parts, one
for each of its groups.

* The part for a group is one frame under the limit of the request, and a request of the same
  command whose only group is this one, so it goes to the slot of the group.
* The items of the groups are those of the request, each as often as there, and a group has the
  items of its slot in their order. -/
theorem splits (given : decoder.next = (.complete decoded, rest))
    (accepted : ofDecoded decoded = .ok request)
    (several : request.command.shape ∈ [.keys, .pairs]) :
    (∀ group ∈ request.groups, ∃ piece again,
      Decoder.next ⟨decoder.limit, group.request request.command.name⟩ =
        (.complete piece, ⟨decoder.limit, []⟩) ∧
      piece.bytes = group.request request.command.name ∧
      ofDecoded piece = .ok again ∧ again.command = request.command ∧ again.groups = [group] ∧
      again.targetSlot = .ok (some group.slot)) ∧
    ∃ name items, decoded.elements = some name :: (items.flatMap Item.args).map some ∧
      (∀ item ∈ items, item.value.isSome ↔ request.command.shape = .pairs) ∧
      (request.groups.flatMap SlotGroup.items).Perm items ∧
      ∀ group ∈ request.groups,
        group.items = items.filter fun item => item.slot == group.slot := by
  obtain ⟨name, items, lists⟩ := exists_lists accepted several
  obtain rfl := decoded_of_ofDecoded accepted
  refine ⟨fun group member => ?_, name, items, lists.elements, lists.values, ?_, ?_⟩
  · obtain ⟨piece, bytes, next, again⟩ := lists.exists_part given several member
    exact ⟨piece, _, next, bytes, again, rfl, rfl, rfl⟩
  · rw [lists.groups]
    exact SlotGroup.flatMap_ofItems_perm items
  · intro group member
    rw [lists.groups] at member
    exact (SlotGroup.mem_ofItems_iff.1 member).2

end

namespace Sample

/-- A client that sets one key twice and another one once. Its numbers are longer than they need to
be, and it leaves no room for a larger frame. -/
def client : Decoder :=
  ⟨60, Text.utf8 ("*7\r\n$004\r\nmSeT\r\n$1\r\na\r\n$-0\r\n\r\n" ++
    "$1\r\nb\r\n$2\r\n\r\n\r\n$01\r\na\r\n$1\r\n2\r\n")⟩

def decoded : Decoded :=
  ⟨client.buffer, ⟨⟨.array, none, false, [⟨.bulk, some ⟨10, 14⟩⟩, ⟨.bulk, some ⟨20, 21⟩⟩,
    ⟨.bulk, some ⟨28, 28⟩⟩, ⟨.bulk, some ⟨34, 35⟩⟩, ⟨.bulk, some ⟨41, 43⟩⟩, ⟨.bulk, some ⟨50, 51⟩⟩,
    ⟨.bulk, some ⟨57, 58⟩⟩]⟩, 60⟩⟩

def request : Request :=
  ⟨decoded, ⟨.mset, "MSET", .pairs⟩,
    [⟨15495, [⟨Text.utf8 "a", some []⟩, ⟨Text.utf8 "a", some (Text.utf8 "2")⟩]⟩,
      ⟨3300, [⟨Text.utf8 "b", some Bytes.crlf⟩]⟩]⟩

end Sample

theorem splits_sample :
    Sample.client.next = (.complete Sample.decoded, .empty 60) ∧
      ofDecoded Sample.decoded = .ok Sample.request ∧
      Sample.request.command.shape ∈ [.keys, .pairs] ∧
      (∀ group ∈ Sample.request.groups, ∃ piece again,
        Decoder.next ⟨Sample.client.limit, group.request Sample.request.command.name⟩ =
          (.complete piece, ⟨Sample.client.limit, []⟩) ∧
        piece.bytes = group.request Sample.request.command.name ∧
        ofDecoded piece = .ok again ∧ again.command = Sample.request.command ∧
        again.groups = [group] ∧ again.targetSlot = .ok (some group.slot)) ∧
      ∃ name items, Sample.decoded.elements = some name :: (items.flatMap Item.args).map some ∧
        (∀ item ∈ items, item.value.isSome ↔ Sample.request.command.shape = .pairs) ∧
        (Sample.request.groups.flatMap SlotGroup.items).Perm items ∧
        ∀ group ∈ Sample.request.groups,
          group.items = items.filter fun item => item.slot == group.slot := by
  have given : Sample.client.next = (.complete Sample.decoded, .empty 60) := by decide +kernel
  have accepted : ofDecoded Sample.decoded = .ok Sample.request := by decide +kernel
  have several : Sample.request.command.shape ∈ [.keys, .pairs] := by decide
  exact ⟨given, accepted, several, splits given accepted several⟩

end Request

end ClusterProxy
