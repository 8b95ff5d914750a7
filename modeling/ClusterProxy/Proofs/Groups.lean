import ClusterProxy.Proofs.Repeats
import ClusterProxy.SlotGroup
import Mathlib.Data.List.Basic
import Mathlib.Data.List.Perm.Lattice

/-!
# Groups of items

The groups of a list of items have all of its items, each one once
(`SlotGroup.flatMap_ofItems_perm`). A group has the items of its slot in their order, and is the
only group of these (`SlotGroup.ofItems_items`).
-/

namespace ClusterProxy

namespace SlotGroup

/-- No two groups have the same slot. -/
theorem nodup_slots (items : List Item) : ((ofItems items).map SlotGroup.slot).Nodup := by
  rw [ofItems_eq_map_filter, List.map_map]
  simpa [Function.comp_def] using nodup_eraseDups (items.map Item.slot)

theorem mem_ofItems_iff {items : List Item} {group : SlotGroup} :
    group ∈ ofItems items ↔ group.slot ∈ items.map Item.slot ∧
      group.items = items.filter fun item => item.slot == group.slot := by
  rw [ofItems_eq_map_filter, List.mem_map]
  constructor
  · rintro ⟨slot, listed, rfl⟩
    exact ⟨List.mem_eraseDups.1 listed, rfl⟩
  · rintro ⟨listed, held⟩
    refine ⟨group.slot, List.mem_eraseDups.2 listed, ?_⟩
    rw [← held]

/-- Items of one slot are one group. -/
theorem ofItems_of_slot {items : List Item} {slot : Nat} (some_item : items ≠ [])
    (same : ∀ item ∈ items, item.slot = slot) : ofItems items = [⟨slot, items⟩] := by
  have all : (items.filter fun item => item.slot == slot) = items :=
    List.filter_eq_self.2 fun item member => beq_iff_eq.2 (same item member)
  have slots : (items.map Item.slot).eraseDups = [slot] := by
    cases items with
    | nil => exact absurd rfl some_item
    | cons item items =>
      obtain ⟨first, others⟩ := List.forall_mem_cons.1 same
      have none_left : ((items.map Item.slot).filter fun other => !other == slot) = [] := by
        simpa [List.filter_eq_nil_iff] using others
      rw [List.map_cons, first, List.eraseDups_cons, none_left, List.eraseDups_nil]
  rw [ofItems_eq_map_filter, slots, List.map_singleton, all]

section

variable {items : List Item} {group : SlotGroup} (member : group ∈ ofItems items)
include member

theorem sublist_of_mem : group.items.Sublist items := by
  rw [(mem_ofItems_iff.1 member).2]
  exact List.filter_sublist

theorem items_ne_nil : group.items ≠ [] := by
  obtain ⟨listed, held⟩ := mem_ofItems_iff.1 member
  obtain ⟨item, given, slot⟩ := List.mem_map.1 listed
  rw [held]
  exact List.ne_nil_of_mem (List.mem_filter.2 ⟨given, beq_iff_eq.2 slot⟩)

theorem slot_of_mem {item : Item} (given : item ∈ group.items) : item.slot = group.slot := by
  rw [(mem_ofItems_iff.1 member).2] at given
  exact beq_iff_eq.1 (List.mem_filter.1 given).2

/-- The items of a group are that group again when they are on their own. -/
theorem ofItems_items : ofItems group.items = [group] :=
  ofItems_of_slot (items_ne_nil member) fun _ given => slot_of_mem member given

end

/-- Taking items by their slots takes each of them once. -/
theorem flatMap_filter_perm {slots : List Nat} {items : List Item} (distinct : slots.Nodup)
    (covered : ∀ item ∈ items, item.slot ∈ slots) :
    (slots.flatMap fun slot => items.filter fun item => item.slot == slot).Perm items := by
  induction slots generalizing items with
  | nil =>
    obtain rfl := List.eq_nil_iff_forall_not_mem.2 fun item member => by
      simpa using covered item member
    exact .nil
  | cons slot slots ih =>
    obtain ⟨fresh, distinct⟩ := List.nodup_cons.1 distinct
    have later := @ih (items.filter fun item => !item.slot == slot) distinct fun item member => by
      obtain ⟨given, other⟩ := List.mem_filter.1 member
      exact (List.mem_cons.1 (covered item given)).resolve_left (by simpa using other)
    -- Another slot has none of the items that were taken for this one.
    have apart : (slots.flatMap fun other => items.filter fun item => item.slot == other) =
        slots.flatMap fun other => (items.filter fun item => !item.slot == slot).filter
          fun item => item.slot == other := by
      refine List.flatMap_congr fun other member => ?_
      rw [List.filter_filter]
      refine List.filter_congr fun item _ => ?_
      by_cases same : item.slot = other
      · have differs : other ≠ slot := ne_of_mem_of_not_mem member fresh
        simp [same, differs]
      · simp [same]
    rw [List.flatMap_cons, apart]
    exact (later.append_left _).trans (List.filter_append_perm _ items)

/-- The items of the groups are the items of which they are groups. -/
theorem flatMap_ofItems_perm (items : List Item) :
    ((ofItems items).flatMap SlotGroup.items).Perm items := by
  rw [ofItems_eq_map_filter, List.flatMap_map]
  exact flatMap_filter_perm (nodup_eraseDups _) fun item member =>
    List.mem_eraseDups.2 (List.mem_map_of_mem member)

end SlotGroup

end ClusterProxy
