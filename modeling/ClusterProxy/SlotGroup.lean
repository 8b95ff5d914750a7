import ClusterProxy.Command.Call
import ClusterProxy.Slot
import Std.Data.TreeMap.Lemmas

/-!
# Items of one slot

The keys of a request, with their values, are its items. A `SlotGroup` holds those whose keys share
a slot, so that each group can be sent on as a request of its own.

`SlotGroup.ofItems` gathers the groups in one pass: a `Gathering` finds the items of a slot in a
tree and remembers the order in which the slots came. `ofItems_eq_map_filter` states its result
without the tree: the slots in the order of their first items, each with all its items in order.
-/

namespace ClusterProxy

/-- A key and, for commands that take pairs, its value. -/
structure Item where
  key : Bytes
  value : Option Bytes
deriving DecidableEq, Repr

namespace Item

/-- An item as arguments of a command. -/
def args (item : Item) : List Bytes := item.key :: item.value.toList

/-- The slot of the key. -/
def slot (item : Item) : Nat := Slot.ofKey item.key

end Item

/-- The items of a request whose keys share a slot, in the order of the request. -/
structure SlotGroup where
  slot : Nat
  items : List Item
deriving DecidableEq, Repr

/-- Items gathered by slot: the slots met so far, newest first, and the items of each of them,
newest first. -/
structure Gathering where
  slots : List Nat
  items : Std.TreeMap Nat (List Item)

namespace Gathering

/-- No items. -/
def empty : Gathering := ⟨[], ∅⟩

/-- Adds an item to those of its slot. -/
def add (gathering : Gathering) (item : Item) : Gathering :=
  match gathering.items[item.slot]? with
  | none => ⟨item.slot :: gathering.slots, gathering.items.insert item.slot [item]⟩
  | some items => { gathering with items := gathering.items.insert item.slot (item :: items) }

/-- The group of a slot. -/
def group (gathering : Gathering) (slot : Nat) : SlotGroup :=
  ⟨slot, (gathering.items.getD slot []).reverse⟩

/-- The groups in the order in which their slots were met. -/
def groups (gathering : Gathering) : List SlotGroup := gathering.slots.reverse.map gathering.group

end Gathering

namespace SlotGroup

/-- The keys of the group. -/
def keys (group : SlotGroup) : List Bytes := group.items.map Item.key

/-- The arguments of the group: keys, each with its value if it has one. -/
def args (group : SlotGroup) : List Bytes := group.items.flatMap Item.args

/-- The bytes of a request with this command for the items of the group alone. -/
def request (group : SlotGroup) (command : String) : Bytes :=
  ((Call.ofName (Text.utf8 command)).addAll group.args).encode

/-- The groups of a list of items, in the order in which their slots first occur. -/
def ofItems (items : List Item) : List SlotGroup :=
  (items.foldl Gathering.add Gathering.empty).groups

end SlotGroup

namespace Gathering

/-- The items of a gathering are those of a list, by slot. -/
structure Holds (gathering : Gathering) (items : List Item) : Prop where
  slots : gathering.slots.reverse = (items.map Item.slot).eraseDups
  items : ∀ slot, gathering.items[slot]? =
    if slot ∈ items.map Item.slot then some (items.filter fun item => item.slot == slot).reverse
    else none

theorem holds_empty : empty.Holds [] := ⟨by simp [empty], by simp [empty]⟩

theorem Holds.add {gathering : Gathering} {items : List Item} (holds : gathering.Holds items)
    (item : Item) : (gathering.add item).Holds (items ++ [item]) := by
  have found := holds.items item.slot
  unfold Gathering.add
  by_cases known : item.slot ∈ items.map Item.slot
  · rw [if_pos known] at found
    rw [found]
    refine ⟨?_, fun slot => ?_⟩
    · simp [-List.mem_map, holds.slots, List.eraseDups_append, List.removeAll, known]
    · simp only [Std.TreeMap.getElem?_insert, holds.items, Nat.compare_eq_eq]
      by_cases same : item.slot = slot
      · subst same
        simp
      · simp [same, Ne.symm same]
  · rw [if_neg known] at found
    rw [found]
    refine ⟨?_, fun slot => ?_⟩
    · simp [-List.mem_map, holds.slots, List.eraseDups_append, List.removeAll, known,
        List.eraseDups_cons]
    · simp only [Std.TreeMap.getElem?_insert, holds.items, Nat.compare_eq_eq]
      by_cases same : item.slot = slot
      · subst same
        simp_all
      · simp [same, Ne.symm same]

theorem holds_foldl {gathering : Gathering} {before : List Item} (holds : gathering.Holds before)
    (items : List Item) : (items.foldl Gathering.add gathering).Holds (before ++ items) := by
  induction items generalizing gathering before with
  | nil => simpa using holds
  | cons item rest ih => simpa using ih (holds.add item)

end Gathering

/-- The slots in the order in which they first occur, each with all items of that slot in order. -/
theorem SlotGroup.ofItems_eq_map_filter (items : List Item) :
    SlotGroup.ofItems items = (items.map Item.slot).eraseDups.map fun slot =>
      ⟨slot, items.filter fun item => item.slot == slot⟩ := by
  have holds := Gathering.holds_foldl Gathering.holds_empty items
  rw [List.nil_append] at holds
  rw [SlotGroup.ofItems, Gathering.groups, holds.slots]
  refine List.map_congr_left fun slot member => ?_
  rw [List.mem_eraseDups] at member
  simp [-List.mem_map, Gathering.group, Std.TreeMap.getD_eq_getD_getElem?, holds.items, member]

end ClusterProxy
