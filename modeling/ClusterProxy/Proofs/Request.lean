import ClusterProxy.Request
import Mathlib.Data.List.Basic
import Mathlib.Data.List.Induction

/-!
# What is accepted as a request

A frame is refused as a request for a fault that is not fatal (`Request.isFatal_of_ofDecoded`), and
not for want of an owner of a slot. One that is accepted names a command that takes its arguments
(`Request.ofDecoded_eq_ok_iff`); it is kept as it came, and its groups are those of its items. Where
the arguments are keys, or keys and their values in turn, they are those of the items
(`Request.itemsOf_eq_ok_iff`).
-/

namespace ClusterProxy.Request

/-- What a frame is refused as a request for is not fatal. -/
theorem isFatal_of_itemsOf {command : Command} {args : List (Option Bytes)} {fault : Fault}
    (refused : itemsOf command args = .error fault) : fault.isFatal = false := by
  unfold itemsOf scriptItems at refused
  grind [Fault.isFatal, missingKey]

theorem isFatal_of_ofDecoded {decoded : Decoded} {fault : Fault}
    (refused : ofDecoded decoded = .error fault) : fault.isFatal = false := by
  unfold ofDecoded at refused
  have items := @isFatal_of_itemsOf
  grind [Fault.isFatal]

theorem isFatal_of_targetSlot {request : Request} {fault : Fault}
    (refused : request.targetSlot = .error fault) : fault.isFatal = false := by
  unfold targetSlot at refused
  grind [Fault.isFatal]

theorem not_uncovered_of_itemsOf {command : Command} {args : List (Option Bytes)} {fault : Fault}
    (refused : itemsOf command args = .error fault) (slot : Nat) :
    fault ≠ .slotNotCovered slot := by
  unfold itemsOf scriptItems at refused
  grind [missingKey]

theorem not_uncovered_of_ofDecoded {decoded : Decoded} {fault : Fault}
    (refused : ofDecoded decoded = .error fault) (slot : Nat) : fault ≠ .slotNotCovered slot := by
  unfold ofDecoded at refused
  have items := @not_uncovered_of_itemsOf
  grind

theorem not_uncovered_of_targetSlot {request : Request} {fault : Fault}
    (refused : request.targetSlot = .error fault) (slot : Nat) : fault ≠ .slotNotCovered slot := by
  unfold targetSlot at refused
  grind

/-- A frame is accepted if it is an array of bulks, the first one names a command, and the others
are arguments of it. -/
theorem ofDecoded_eq_ok_iff {decoded : Decoded} {request : Request} :
    ofDecoded decoded = .ok request ↔ decoded.frame.isBulkArray ∧
      ∃ name args items, decoded.elements = some name :: args ∧
        Command.find? name = some request.command ∧ itemsOf request.command args = .ok items ∧
        request = ⟨decoded, request.command, SlotGroup.ofItems items⟩ := by
  constructor
  · intro accepted
    cases array : decoded.frame.isBulkArray with
    | false => simp [ofDecoded, array] at accepted
    | true =>
      match elements : decoded.elements with
      | [] => simp [ofDecoded, array, elements] at accepted
      | none :: args => simp [ofDecoded, array, elements] at accepted
      | some name :: args =>
        cases found : Command.find? name with
        | none => simp [ofDecoded, array, elements, found] at accepted
        | some command =>
          cases listed : itemsOf command args with
          | error fault => simp [ofDecoded, array, elements, found, listed] at accepted
          | ok items =>
            obtain rfl : ⟨decoded, command, SlotGroup.ofItems items⟩ = request := by
              simpa [ofDecoded, array, elements, found, listed] using accepted
            exact ⟨rfl, name, args, items, rfl, found, listed, rfl⟩
  · rintro ⟨array, name, args, items, elements, found, listed, same⟩
    rw [ofDecoded, array, elements]
    simp [found, listed]
    exact same.symm

/-- A request that is accepted is the frame it came in. -/
theorem decoded_of_ofDecoded {decoded : Decoded} {request : Request}
    (accepted : ofDecoded decoded = .ok request) : request.decoded = decoded := by
  obtain ⟨_, _, _, _, _, _, _, same⟩ := ofDecoded_eq_ok_iff.1 accepted
  rw [same]

/-- The groups of a request that is accepted are those of its items. -/
theorem groups_of_ofDecoded {decoded : Decoded} {request : Request}
    (accepted : ofDecoded decoded = .ok request) :
    ∃ items, request.groups = SlotGroup.ofItems items := by
  obtain ⟨_, _, _, items, _, _, _, same⟩ := ofDecoded_eq_ok_iff.1 accepted
  exact ⟨items, congrArg groups same⟩

/-! ## Items and arguments -/

theorem present_eq_some_iff {args : List (Option Bytes)} {words : List Bytes} :
    present args = some words ↔ args = words.map some := by
  induction args generalizing words with
  | nil => cases words <;> simp [present]
  | cons arg args ih =>
    have later : present (arg :: args) = arg.bind fun word => (present args).map (word :: ·) := by
      rw [present, present, List.mapM_cons]
      cases arg <;> cases args.mapM id <;> rfl
    rw [later]
    cases arg with
    | none => cases words <;> simp
    | some word =>
      cases words with
      | nil => simp
      | cons first words => simp [ih, and_comm]

theorem plainItems_eq_iff {words : List Bytes} {items : List Item} :
    plainItems words = items ↔
      (∀ item ∈ items, item.value = none) ∧ words = items.flatMap Item.args := by
  constructor
  · rintro rfl
    refine ⟨?_, ?_⟩
    · simp [plainItems]
    · simp [plainItems, Item.args, List.flatMap_map]
  · rintro ⟨plain, rfl⟩
    have keys : items.flatMap Item.args = items.map Item.key := by
      rw [List.map_eq_flatMap]
      refine List.flatMap_congr fun item member => ?_
      rw [Item.args, plain item member]
      rfl
    rw [keys, plainItems, List.map_map]
    refine (List.map_congr_left fun item member => ?_).trans (List.map_id items)
    rw [Function.comp_apply, ← plain item member]
    rfl

theorem pairItemsAfter_eq_map (seen : List Item) (words : List Bytes) :
    pairItemsAfter seen words = (pairItems words).map (seen.reverse ++ ·) := by
  unfold pairItems
  induction words using List.twoStepInduction generalizing seen with
  | nil => simp [pairItemsAfter]
  | singleton key => rfl
  | cons_cons key value rest ih =>
    rw [pairItemsAfter, ih, pairItemsAfter, ih [⟨key, some value⟩], Option.map_map]
    simp [Function.comp_def]

theorem pairItems_cons (key value : Bytes) (rest : List Bytes) :
    pairItems (key :: value :: rest) = (pairItems rest).map (⟨key, some value⟩ :: ·) := by
  rw [pairItems, pairItemsAfter, pairItemsAfter_eq_map]
  rfl

theorem pairItems_eq_some_iff {words : List Bytes} {items : List Item} :
    pairItems words = some items ↔
      (∀ item ∈ items, item.value.isSome) ∧ words = items.flatMap Item.args := by
  induction words using List.twoStepInduction generalizing items with
  | nil => cases items <;> simp [pairItems, pairItemsAfter, Item.args]
  | singleton key =>
    cases items with
    | nil => simp [pairItems, pairItemsAfter]
    | cons item items =>
      obtain ⟨other, value⟩ := item
      cases value <;> simp [pairItems, pairItemsAfter, Item.args]
  | cons_cons key value rest ih =>
    rw [pairItems_cons]
    cases items with
    | nil => simp
    | cons item items =>
      obtain ⟨other, given⟩ := item
      cases given with
      | none => simp
      | some given =>
        simp [ih, Item.args, and_assoc, and_comm]

/-- The arguments of a command that takes keys, or keys and values, are those of its items, of which
there is one at least. -/
theorem itemsOf_eq_ok_iff {command : Command} {args : List (Option Bytes)} {items : List Item}
    (several : command.shape ∈ [.keys, .pairs]) :
    itemsOf command args = .ok items ↔ items ≠ [] ∧
      (∀ item ∈ items, item.value.isSome ↔ command.shape = .pairs) ∧
      args = (items.flatMap Item.args).map some := by
  -- Both shapes take all arguments, and differ in how the items are read off them.
  obtain ⟨read, reads, same⟩ : ∃ read : List Bytes → Option (List Item),
      (∀ words, read words = some items ↔
        (∀ item ∈ items, item.value.isSome ↔ command.shape = .pairs) ∧
          words = items.flatMap Item.args) ∧
      (itemsOf command args = .ok items ↔ args ≠ [] ∧ (present args).bind read = some items) := by
    have shapes : command.shape = .keys ∨ command.shape = .pairs := by simpa using several
    rcases shapes with shape | shape
    · refine ⟨fun words => some (plainItems words), fun words => ?_, ?_⟩
      · simp [plainItems_eq_iff, shape]
      · cases args with
        | nil => simp [itemsOf, shape]
        | cons arg args => cases given : present (arg :: args) <;> simp [itemsOf, shape, given]
    · refine ⟨pairItems, fun words => ?_, ?_⟩
      · simp [pairItems_eq_some_iff, shape]
      · cases args with
        | nil => simp [itemsOf, shape]
        | cons arg args =>
          cases given : (present (arg :: args)).bind pairItems <;> simp [itemsOf, shape, given]
  rw [same, Option.bind_eq_some_iff]
  simp only [present_eq_some_iff, reads]
  constructor
  · rintro ⟨some_arg, _, rfl, values, rfl⟩
    refine ⟨?_, values, rfl⟩
    rintro rfl
    exact some_arg rfl
  · rintro ⟨some_item, values, rfl⟩
    refine ⟨?_, _, rfl, values, rfl⟩
    cases items with
    | nil => exact absurd rfl some_item
    | cons item items => simp [Item.args]

end ClusterProxy.Request
