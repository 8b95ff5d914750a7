import ClusterProxy.Proofs.Groups
import ClusterProxy.Proofs.Request
import Mathlib.Data.Finset.Card

/-!
# Where the keys of a request lie

The groups of a request that is accepted are those of its keys: the keys of a group lie in its slot,
every group has a key, and no two groups have the same slot (`Request.Grouped`). So the target of a
request is a matter of its keys alone: none if it has no key, their slot if they share one, and a
fault with the number of their slots if they do not.
-/

namespace ClusterProxy

namespace Request

/-- The keys of a request. -/
def keys (request : Request) : List Bytes := request.groups.flatMap SlotGroup.keys

/-- The keys of the groups are those of the items of which they are groups. -/
theorem keys_perm {request : Request} {items : List Item}
    (groups : request.groups = SlotGroup.ofItems items) :
    request.keys.Perm (items.map Item.key) := by
  have same : request.keys = ((SlotGroup.ofItems items).flatMap SlotGroup.items).map Item.key := by
    rw [keys, groups, List.map_flatMap]
    rfl
  rw [same]
  exact (SlotGroup.flatMap_ofItems_perm items).map Item.key

/-- The groups of a request are those of its keys. -/
structure Grouped (request : Request) : Prop where
  distinct : (request.groups.map SlotGroup.slot).Nodup
  some_key : ∀ group ∈ request.groups, group.keys ≠ []
  slot : ∀ group ∈ request.groups, ∀ key ∈ group.keys, Slot.ofKey key = group.slot

theorem grouped_of_ofDecoded {decoded : Decoded} {request : Request}
    (accepted : ofDecoded decoded = .ok request) : request.Grouped := by
  obtain ⟨items, groups⟩ := groups_of_ofDecoded accepted
  refine ⟨?_, fun group member => ?_, fun group member key listed => ?_⟩
  · rw [groups]
    exact SlotGroup.nodup_slots items
  · rw [groups] at member
    exact mt List.map_eq_nil_iff.1 (SlotGroup.items_ne_nil member)
  · rw [groups] at member
    obtain ⟨item, given, rfl⟩ := List.mem_map.1 listed
    exact SlotGroup.slot_of_mem member given

variable {request : Request} (grouped : request.Grouped)
include grouped

theorem Grouped.mem_slots_iff {slot : Nat} :
    slot ∈ request.keys.map Slot.ofKey ↔ slot ∈ request.groups.map SlotGroup.slot := by
  constructor
  · intro member
    obtain ⟨key, listed, rfl⟩ := List.mem_map.1 member
    obtain ⟨group, given, within⟩ := List.mem_flatMap.1 listed
    exact List.mem_map.2 ⟨group, given, (grouped.slot group given key within).symm⟩
  · intro member
    obtain ⟨group, given, rfl⟩ := List.mem_map.1 member
    obtain ⟨key, within⟩ := List.exists_mem_of_ne_nil _ (grouped.some_key group given)
    exact List.mem_map.2
      ⟨key, List.mem_flatMap.2 ⟨group, given, within⟩, grouped.slot group given key within⟩

/-- There are as many groups as slots of keys. -/
theorem Grouped.length_groups :
    request.groups.length = (request.keys.map Slot.ofKey).toFinset.card := by
  have same : (request.keys.map Slot.ofKey).toFinset =
      (request.groups.map SlotGroup.slot).toFinset := by
    ext slot
    rw [List.mem_toFinset, List.mem_toFinset, grouped.mem_slots_iff]
  rw [same, List.toFinset_card_of_nodup grouped.distinct, List.length_map]

theorem Grouped.keys_eq_nil_iff : request.keys = [] ↔ request.groups = [] := by
  constructor
  · intro none_left
    by_contra some_group
    obtain ⟨group, given⟩ := List.exists_mem_of_ne_nil _ some_group
    obtain ⟨key, within⟩ := List.exists_mem_of_ne_nil _ (grouped.some_key group given)
    have listed : key ∈ request.keys := List.mem_flatMap.2 ⟨group, given, within⟩
    simp [none_left] at listed
  · intro none_left
    simp [keys, none_left]

/-- A request goes to any node exactly if it has no key. -/
theorem Grouped.targetSlot_eq_none_iff : request.targetSlot = .ok none ↔ request.keys = [] := by
  rw [grouped.keys_eq_nil_iff]
  unfold targetSlot
  split <;> simp_all

/-- A request goes to a slot exactly if it has keys and all of them lie in the slot. -/
theorem Grouped.targetSlot_eq_some_iff {slot : Nat} :
    request.targetSlot = .ok (some slot) ↔
      request.keys ≠ [] ∧ ∀ key ∈ request.keys, Slot.ofKey key = slot := by
  -- If all keys lie in one slot, so do all groups, since every group has a key.
  have groups (same : ∀ key ∈ request.keys, Slot.ofKey key = slot) :
      ∀ group ∈ request.groups, group.slot = slot := by
    intro group given
    obtain ⟨key, within⟩ := List.exists_mem_of_ne_nil _ (grouped.some_key group given)
    rw [← grouped.slot group given key within]
    exact same key (List.mem_flatMap.2 ⟨group, given, within⟩)
  constructor
  · intro target
    unfold targetSlot at target
    split at target
    · simp at target
    · next group only =>
      simp only [Except.ok.injEq, Option.some.injEq] at target
      refine ⟨fun none_left => by simp [grouped.keys_eq_nil_iff.1 none_left] at only, ?_⟩
      intro key listed
      obtain ⟨other, given, within⟩ := List.mem_flatMap.1 listed
      rw [grouped.slot other given key within]
      rw [only, List.mem_singleton] at given
      rw [given, target]
    · simp at target
  · rintro ⟨some_key, same⟩
    have all := groups same
    have distinct := grouped.distinct
    unfold targetSlot
    split
    · next none_left => exact absurd (grouped.keys_eq_nil_iff.2 none_left) some_key
    · next group only => rw [all group (by simp [only])]
    · next none_left several =>
      match listed : request.groups with
      | [] => exact absurd listed none_left
      | [group] => exact absurd listed (several group)
      | first :: second :: rest =>
        rw [listed] at all distinct
        simp [all first (by simp), all second (by simp)] at distinct

/-- A request has no common target exactly if two of its keys lie in different slots. -/
theorem Grouped.targetSlot_eq_error_iff {fault : Fault} :
    request.targetSlot = .error fault ↔
      (∃ key ∈ request.keys, ∃ other ∈ request.keys, Slot.ofKey key ≠ Slot.ofKey other) ∧
        fault = .crossSlot (request.keys.map Slot.ofKey).toFinset.card := by
  have worded {fault : Fault} (target : request.targetSlot = .error fault) :
      fault = .crossSlot (request.keys.map Slot.ofKey).toFinset.card := by
    rw [← grouped.length_groups]
    unfold targetSlot at target
    split at target
    · simp at target
    · simp at target
    · exact (Except.error.inj target).symm
  refine ⟨fun target => ⟨?_, worded target⟩, ?_⟩
  · by_contra! same
    match listed : request.keys with
    | [] =>
      rw [grouped.targetSlot_eq_none_iff.2 listed] at target
      cases target
    | key :: rest =>
      have member : key ∈ request.keys := by simp [listed]
      rw [grouped.targetSlot_eq_some_iff.2
        ⟨List.ne_nil_of_mem member, fun other given => same other given key member⟩] at target
      cases target
  · rintro ⟨⟨key, given, other, listed, differ⟩, rfl⟩
    cases target : request.targetSlot with
    | error fault => rw [worded target]
    | ok slot =>
      cases slot with
      | none => simp [grouped.targetSlot_eq_none_iff.1 target] at given
      | some slot =>
        obtain ⟨-, same⟩ := grouped.targetSlot_eq_some_iff.1 target
        exact absurd ((same key given).trans (same other listed).symm) differ

omit grouped in
/-- A request whose keys all lie in one slot goes to that slot. -/
theorem targetSlot_of_slots {decoded : Decoded} {slot : Nat}
    (accepted : ofDecoded decoded = .ok request) (keyed : request.groups ≠ [])
    (same : ∀ group ∈ request.groups, ∀ item ∈ group.items, item.slot = slot) :
    request.targetSlot = .ok (some slot) ∧ slot < Slot.count := by
  have grouped := grouped_of_ofDecoded accepted
  have some_key : request.keys ≠ [] := mt grouped.keys_eq_nil_iff.1 keyed
  have all : ∀ key ∈ request.keys, Slot.ofKey key = slot := by
    intro key listed
    obtain ⟨group, given, within⟩ := List.mem_flatMap.1 listed
    obtain ⟨item, member, rfl⟩ := List.mem_map.1 within
    exact same group given item member
  obtain ⟨key, listed⟩ := List.exists_mem_of_ne_nil _ some_key
  refine ⟨grouped.targetSlot_eq_some_iff.2 ⟨some_key, all⟩, ?_⟩
  rw [← all key listed]
  exact Nat.mod_lt _ (by decide)

end Request

end ClusterProxy
