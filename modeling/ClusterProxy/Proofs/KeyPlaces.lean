import ClusterProxy.Proofs.Command
import ClusterProxy.Proofs.Keys
import ClusterProxy.Proofs.Text.Numbers

/-!
# Where a request has its keys

The shape of a command says at which places among the elements of a request its keys are. `KeysAt`
says so for every shape, and with it what a request of the shape needs to have: it is about the
elements by their numbers and does not follow the reader, which takes the arguments apart from the
front.
-/

namespace ClusterProxy

/-- An item is two arguments where keys and values take turns, and otherwise one. -/
theorem Item.length_args {item : Item} {shape : Shape}
    (valued : item.value.isSome ↔ shape = .pairs) :
    item.args.length = if shape = .pairs then 2 else 1 := by
  cases given : item.value with
  | none => simp [args, given, ← valued]
  | some value => simp [args, given, ← valued]

theorem Item.length_flatMap_args {items : List Item} {shape : Shape}
    (values : ∀ item ∈ items, item.value.isSome ↔ shape = .pairs) :
    (items.flatMap args).length = items.length * if shape = .pairs then 2 else 1 := by
  induction items with
  | nil => simp
  | cons item items ih =>
    obtain ⟨first, others⟩ := List.forall_mem_cons.1 values
    rw [List.flatMap_cons, List.length_append, ih others, length_args first, List.length_cons,
      Nat.succ_mul, Nat.add_comm]

namespace Decoded

/-- No element from a place on up to another is missing or null. -/
def Present (decoded : Decoded) (first stop : Nat) : Prop :=
  ∀ place, first ≤ place → place < stop → (decoded.element place).isSome

/-- The item whose key is at a place. Its value is behind the key where keys and values take turns,
and otherwise it has none. -/
structure HasItem (decoded : Decoded) (shape : Shape) (place : Nat) (item : Item) : Prop where
  key : decoded.element place = some item.key
  value : item.value = if shape = .pairs then decoded.element (place + 1) else none

variable {decoded : Decoded} {front middle back : List (Option Bytes)}

theorem element_eq_getElem? (split : decoded.elements = front ++ middle ++ back) {i : Nat}
    (inside : i < middle.length) : decoded.element (front.length + i) = (middle[i]?).join := by
  rw [element_eq_getElem?_join, split, List.append_assoc, List.getElem?_append_right (by omega),
    Nat.add_sub_cancel_left, List.getElem?_append_left inside]

/-- The elements of a stretch are present exactly if they are words. -/
theorem present_iff (split : decoded.elements = front ++ middle ++ back) :
    decoded.Present front.length (front.length + middle.length) ↔
      ∃ words : List Bytes, middle = words.map some := by
  constructor
  · intro present
    refine ⟨middle.map fun arg => arg.getD [], List.ext_getElem (by simp) fun i inside _ => ?_⟩
    have there := present (front.length + i) (by omega) (by omega)
    rw [element_eq_getElem? split inside, List.getElem?_eq_getElem inside, Option.join_some,
      Option.isSome_iff_exists] at there
    obtain ⟨word, here⟩ := there
    simp [here]
  · rintro ⟨words, rfl⟩ place above below
    obtain ⟨i, rfl⟩ := Nat.exists_eq_add_of_le above
    rw [element_eq_getElem? split (by omega)]
    simp at below
    simp [below]

/-- The keys of items that are written one after the other, with their values if they have one, are
at every place or at every second one. -/
theorem forall₂_hasItem {shape : Shape} {items : List Item}
    (values : ∀ item ∈ items, item.value.isSome ↔ shape = .pairs)
    (split : decoded.elements = front ++ (items.flatMap Item.args).map some ++ back) :
    List.Forall₂ (decoded.HasItem shape)
      (List.range' front.length items.length (if shape = .pairs then 2 else 1)) items := by
  induction items generalizing front with
  | nil => exact .nil
  | cons item items ih =>
    obtain ⟨first, others⟩ := List.forall_mem_cons.1 values
    have size : (front ++ item.args.map some).length =
        front.length + if shape = .pairs then 2 else 1 := by
      rw [List.length_append, List.length_map, Item.length_args first]
    have later := @ih (front ++ item.args.map some) others (by rw [split]; simp)
    rw [size] at later
    rw [List.length_cons, List.range'_succ]
    refine .cons ⟨?_, ?_⟩ later
    · rw [element_eq_getElem?_join, split]
      simp [Item.args]
    · rw [element_eq_getElem?_join, split]
      cases given : item.value with
      | none => simp [given, ← first]
      | some value => simp [given, ← first, Item.args]

end Decoded

namespace Request

/-- The octets write a number that can be a number of keys. -/
def Counts (octets : Bytes) (count : Nat) : Prop := octets.Writes count ∧ count < keyCountBound

/-- The places of the keys among the elements of a request, by the shape of its command. There are
none for elements that are no request of the shape. -/
inductive KeysAt (decoded : Decoded) : Shape → List Nat → Prop where
  | noKey : KeysAt decoded .noKey []
  | single {shape : Shape} :
      shape.isSingleKey → (decoded.element 1).isSome → KeysAt decoded shape [1]
  | keys :
      2 ≤ decoded.elements.length → decoded.Present 1 decoded.elements.length →
      KeysAt decoded .keys (List.range' 1 (decoded.elements.length - 1))
  | pairs :
      3 ≤ decoded.elements.length → decoded.elements.length % 2 = 1 →
      decoded.Present 1 decoded.elements.length →
      KeysAt decoded .pairs (List.range' 1 (decoded.elements.length / 2) 2)
  | script {number : Bytes} {count : Nat} :
      decoded.element 2 = some number → Counts number count →
      3 + count ≤ decoded.elements.length → decoded.Present 3 (3 + count) →
      KeysAt decoded .script (List.range' 3 count)

/-- The request is one for a script, and what should be the number of its keys is no such number. -/
def Miscounted (decoded : Decoded) (shape : Shape) : Prop :=
  shape = .script ∧ ∃ number, decoded.element 2 = some number ∧ ∀ count, ¬ Counts number count

theorem keyCount?_eq_some_iff {octets : Bytes} {count : Nat} :
    keyCount? octets = some count ↔ Counts octets count := Text.decimal?_utf8_iff

theorem keyCount?_eq_none_iff {octets : Bytes} :
    keyCount? octets = none ↔ ∀ count, ¬ Counts octets count := by
  simp only [Option.eq_none_iff_forall_ne_some, ne_eq, keyCount?_eq_some_iff]

theorem Counts.unique {octets : Bytes} {count other : Nat} (counts : Counts octets count)
    (again : Counts octets other) : count = other :=
  Option.some.inj
    ((keyCount?_eq_some_iff.2 counts).symm.trans (keyCount?_eq_some_iff.2 again))

/-- A sign and leading zeros do no harm. -/
example : keyCount? (Text.utf8 "+007") = some 7 := by decide +kernel

/-! ## Arguments of each shape -/

section

variable {command : Command} {args : List (Option Bytes)} {items : List Item}

theorem itemsOf_single (single : command.shape.isSingleKey) :
    itemsOf command args = match args.head?.join with
      | some key => .ok (plainItems [key])
      | none => .error (missingKey command) := by
  unfold itemsOf
  cases shape : command.shape with
  | noKey | keys | pairs | script => simp [shape, Shape.isSingleKey] at single
  | _ => cases args.head?.join <;> rfl

theorem exists_pairItems {words : List Bytes} (even : words.length % 2 = 0) :
    ∃ items, pairItems words = some items := by
  induction words using List.twoStepInduction with
  | nil => exact ⟨[], rfl⟩
  | singleton key => simp at even
  | cons_cons key value rest ih =>
    obtain ⟨items, read⟩ := ih (by simpa [Nat.add_assoc] using even)
    exact ⟨⟨key, some value⟩ :: items, by rw [pairItems_cons, read]; rfl⟩

/-- A script's keys are the words behind their number. -/
theorem scriptItems_eq_ok_iff {missing : Fault} :
    scriptItems missing args = .ok items ↔
      ∃ script number words rest, args = script :: some number :: (words.map some ++ rest) ∧
        Counts number words.length ∧ items = plainItems words := by
  constructor
  · intro read
    unfold scriptItems at read
    split at read
    · next script number rest =>
      split at read
      · simp at read
      · next count counted =>
        split at read
        · simp at read
        · next enough =>
          split at read
          · simp at read
          · next words taken =>
            obtain rfl := Except.ok.inj read
            have split := present_eq_some_iff.1 taken
            obtain rfl : words.length = count := by
              rw [← List.length_map some, ← split, List.length_take_of_le (by omega)]
            refine ⟨script, number, words, rest.drop words.length, ?_,
              keyCount?_eq_some_iff.1 counted, rfl⟩
            rw [← split, List.take_append_drop]
    · simp at read
  · rintro ⟨script, number, words, rest, rfl, counts, rfl⟩
    have counted := keyCount?_eq_some_iff.2 counts
    have taken : present (words.map some) = some words := present_eq_some_iff.2 rfl
    simp [scriptItems, counted, taken]

/-- A script is refused for a number of keys that is none, and else for what is missing. -/
theorem error_of_scriptItems {missing fault : Fault}
    (refused : scriptItems missing args = .error fault) :
    (∃ script number rest, args = script :: some number :: rest ∧
        ∀ count, ¬ Counts number count) ∨ fault = missing := by
  unfold scriptItems at refused
  split at refused
  · next script number rest =>
    split at refused
    · next uncounted =>
      exact .inl ⟨script, number, rest, rfl, keyCount?_eq_none_iff.1 uncounted⟩
    · refine .inr ?_
      split at refused
      · exact (Except.error.inj refused).symm
      · split at refused
        · exact (Except.error.inj refused).symm
        · simp at refused
  · exact .inr (Except.error.inj refused).symm

/-! ## Places and arguments -/

/-- The elements of a request settle where its keys are. -/
theorem KeysAt.unique {decoded : Decoded} {shape : Shape} {places others : List Nat}
    (keys : KeysAt decoded shape places) (again : KeysAt decoded shape others) :
    places = others := by
  cases keys with
  | single single => cases again <;> first | rfl | simp [Shape.isSingleKey] at single
  | script here counts =>
    cases again with
    | single single => simp [Shape.isSingleKey] at single
    | script there others =>
      rw [here, Option.some.injEq] at there
      subst there
      rw [counts.unique others]
  | _ =>
    cases again with
    | single single => simp [Shape.isSingleKey] at single
    | _ => rfl

/-- Only commands without keys, and scripts with no keys, have their keys nowhere. -/
theorem KeysAt.eq_nil_iff {decoded : Decoded} {shape : Shape} {places : List Nat}
    (keys : KeysAt decoded shape places) : places = [] ↔ shape = .noKey ∨
      shape = .script ∧ ∃ number, decoded.element 2 = some number ∧ Counts number 0 := by
  cases keys with
  | noKey => simp
  | single single =>
    have some_key : shape ≠ .noKey ∧ shape ≠ .script := by
      constructor <;> rintro rfl <;> simp [Shape.isSingleKey] at single
    simp [some_key]
  | keys several =>
    have some_key : decoded.elements.length - 1 ≠ 0 := by omega
    simp [some_key]
  | pairs several =>
    have some_key : decoded.elements.length / 2 ≠ 0 := by omega
    simp [some_key]
  | @script number count here counts =>
    have none_counted : count = 0 ↔ Counts number 0 :=
      ⟨fun zero => zero ▸ counts, fun zero => counts.unique zero⟩
    simp [here, none_counted]

variable {decoded : Decoded} {name : Bytes} (elements : decoded.elements = some name :: args)
include elements

theorem element_one : decoded.element 1 = args.head?.join := by
  rw [Decoded.element_eq_getElem?_join, elements, List.getElem?_cons_succ, List.head?_eq_getElem?]

theorem element_two_iff {number : Bytes} : decoded.element 2 = some number ↔
    ∃ script rest, args = script :: some number :: rest := by
  rw [Decoded.element_eq_getElem?_join, elements]
  match args with
  | [] => simp
  | [_] => simp
  | script :: second :: rest => simp

/-- A request of several keys has them, with their values, at the places behind the name. -/
theorem keysAt_several (several : command.shape ∈ [.keys, .pairs]) (some_item : items ≠ [])
    (values : ∀ item ∈ items, item.value.isSome ↔ command.shape = .pairs)
    (words : args = (items.flatMap Item.args).map some) :
    KeysAt decoded command.shape
      (List.range' 1 items.length (if command.shape = .pairs then 2 else 1)) := by
  have split : decoded.elements = [some name] ++ args ++ [] := by simp [elements]
  have size : decoded.elements.length = 1 + args.length := by
    rw [elements, List.length_cons, Nat.add_comm]
  have present : decoded.Present 1 decoded.elements.length := by
    rw [size]
    exact (Decoded.present_iff split).2 ⟨_, words⟩
  rw [words, List.length_map, Item.length_flatMap_args values] at size
  have positive := List.length_pos_iff.2 some_item
  have shapes : command.shape = .keys ∨ command.shape = .pairs := by simpa using several
  rcases shapes with shape | shape
  · simp only [shape, reduceCtorEq, if_false, Nat.mul_one] at size ⊢
    rw [show items.length = decoded.elements.length - 1 by omega]
    exact .keys (by omega) present
  · simp only [shape, if_true] at size ⊢
    rw [show items.length = decoded.elements.length / 2 by omega]
    exact .pairs (by omega) (by omega) present

/-- A script has its keys behind their number. -/
theorem places_script {script : Option Bytes} {number : Bytes} {words : List Bytes}
    {rest : List (Option Bytes)} (behind : args = script :: some number :: (words.map some ++ rest))
    (counts : Counts number words.length) :
    KeysAt decoded .script (List.range' 3 words.length) ∧
      List.Forall₂ (decoded.HasItem .script) (List.range' 3 words.length) (plainItems words) := by
  have here := (element_two_iff elements).2 ⟨script, _, behind⟩
  have split : decoded.elements = [some name, script, some number] ++ words.map some ++ rest := by
    simp [elements, behind]
  have present := (Decoded.present_iff split).2 ⟨words, rfl⟩
  obtain ⟨plain, listed⟩ := (@plainItems_eq_iff words _).1 rfl
  have values : ∀ item ∈ plainItems words, item.value.isSome ↔ Shape.script = .pairs :=
    fun item member => by simp [plain item member]
  constructor
  · refine .script here counts ?_ (by simpa using present)
    rw [split]
    simp
    omega
  · rw [listed] at split
    have placed := Decoded.forall₂_hasItem values split
    simp only [plainItems, List.length_map, reduceCtorEq, if_false] at placed
    exact placed

/-- The items of a request that is accepted are at the places of its shape. -/
theorem exists_places (read : itemsOf command args = .ok items) :
    ∃ places, KeysAt decoded command.shape places ∧
      List.Forall₂ (decoded.HasItem command.shape) places items := by
  by_cases single : command.shape.isSingleKey
  · rw [itemsOf_single single] at read
    split at read
    · next key first =>
      obtain rfl := Except.ok.inj read
      have plain : command.shape ≠ .pairs := by
        intro shape
        simp [shape, Shape.isSingleKey] at single
      have here : decoded.element 1 = some key := (element_one elements).trans first
      exact ⟨[1], .single single (by simp [here]), .cons ⟨here, by simp [plain]⟩ .nil⟩
    · simp at read
  by_cases several : command.shape ∈ [.keys, .pairs]
  · obtain ⟨some_item, values, words⟩ := (itemsOf_eq_ok_iff several).1 read
    have split : decoded.elements = [some name] ++ (items.flatMap Item.args).map some ++ [] := by
      simp [elements, words]
    exact ⟨_, keysAt_several elements several some_item values words,
      Decoded.forall₂_hasItem values split⟩
  cases shape : command.shape with
  | noKey =>
    obtain rfl : [] = items := by simpa [itemsOf, shape] using read
    exact ⟨[], .noKey, .nil⟩
  | script =>
    have taken : scriptItems (missingKey command) args = .ok items := by
      simpa [itemsOf, shape] using read
    obtain ⟨script, number, words, rest, rfl, counts, rfl⟩ := scriptItems_eq_ok_iff.1 taken
    exact ⟨_, places_script elements rfl counts⟩
  | _ => simp [shape, Shape.isSingleKey] at single several

theorem exists_words (present : decoded.Present 1 decoded.elements.length) :
    ∃ words : List Bytes, args = words.map some := by
  have split : decoded.elements = [some name] ++ args ++ [] := by simp [elements]
  rw [elements, List.length_cons, Nat.add_comm] at present
  exact (Decoded.present_iff split).1 present

/-- There are items at the places of a shape. -/
theorem exists_items {places : List Nat} (keys : KeysAt decoded command.shape places) :
    ∃ items, itemsOf command args = .ok items := by
  have size : decoded.elements.length = args.length + 1 := by rw [elements, List.length_cons]
  generalize shape : command.shape = layout at keys
  cases keys with
  | noKey => exact ⟨[], by simp [itemsOf, shape]⟩
  | single single present =>
    rw [← shape] at single
    rw [element_one elements, Option.isSome_iff_exists] at present
    obtain ⟨key, here⟩ := present
    exact ⟨plainItems [key], by rw [itemsOf_single single, here]⟩
  | keys several present =>
    obtain ⟨words, rfl⟩ := exists_words elements present
    obtain ⟨plain, listed⟩ := (@plainItems_eq_iff words _).1 rfl
    refine ⟨plainItems words, (itemsOf_eq_ok_iff (by simp [shape])).2 ⟨?_, ?_, ?_⟩⟩
    · intro none_left
      rw [none_left] at listed
      simp [size, listed] at several
    · intro item member
      simp [plain item member, shape]
    · rw [← listed]
  | pairs several odd present =>
    obtain ⟨words, rfl⟩ := exists_words elements present
    rw [size, List.length_map] at several odd
    obtain ⟨items, read⟩ := @exists_pairItems words (by omega)
    obtain ⟨values, listed⟩ := pairItems_eq_some_iff.1 read
    refine ⟨items, (itemsOf_eq_ok_iff (by simp [shape])).2 ⟨?_, ?_, ?_⟩⟩
    · rintro rfl
      simp [listed] at several
    · intro item member
      simp [values item member, shape]
    · rw [← listed]
  | @script number count here counts enough present =>
    obtain ⟨script, rest, rfl⟩ := (element_two_iff elements).1 here
    have split : decoded.elements =
        [some name, script, some number] ++ rest.take count ++ rest.drop count := by
      simp [elements]
    have taken : (rest.take count).length = count := by
      simp at size
      simp
      omega
    obtain ⟨words, listed⟩ := (Decoded.present_iff split).1 (by simpa [taken] using present)
    rw [listed, List.length_map] at taken
    refine ⟨plainItems words, ?_⟩
    have read : scriptItems (missingKey command) (script :: some number :: rest) =
        .ok (plainItems words) := by
      refine scriptItems_eq_ok_iff.2 ⟨script, number, words, rest.drop count, ?_, ?_, rfl⟩
      · rw [← listed, List.take_append_drop]
      · rwa [taken]
    simpa [itemsOf, shape] using read

/-- A command is refused for a number of keys that is none, and else for what is missing. -/
theorem error_of_itemsOf {fault : Fault} (refused : itemsOf command args = .error fault) :
    Miscounted decoded command.shape ∨ fault = missingKey command := by
  cases shape : command.shape with
  | noKey => simp [itemsOf, shape] at refused
  | script =>
    have script : scriptItems (missingKey command) args = .error fault := by
      simpa [itemsOf, shape] using refused
    rcases error_of_scriptItems script with ⟨script, number, rest, behind, uncounted⟩ | missing
    · exact .inl ⟨rfl, number, (element_two_iff elements).2 ⟨script, rest, behind⟩, uncounted⟩
    · exact .inr missing
  | _ =>
    refine .inr ?_
    simp only [itemsOf, shape] at refused
    split at refused
    · simp at refused
    · exact (Except.error.inj refused).symm

theorem itemsOf_miscounted (miscounted : Miscounted decoded command.shape) :
    itemsOf command args =
      .error (.invalidArgument "number of keys is not an integer or out of range") := by
  obtain ⟨shape, number, here, uncounted⟩ := miscounted
  obtain ⟨script, rest, rfl⟩ := (element_two_iff elements).1 here
  have none_read := keyCount?_eq_none_iff.2 uncounted
  simp [itemsOf, shape, scriptItems, none_read]

end

/-! ## Requests -/

/-- What is taken from a frame as a request of a command with its keys at some places. -/
structure Placed (decoded : Decoded) (command : Command) (places : List Nat)
    (request : Request) : Prop where
  /-- The frame is kept as it came. -/
  kept : request.decoded = decoded
  bytes : request.bytes = decoded.bytes
  called : request.command = command
  /-- The groups are those of the items whose keys are at the places. -/
  groups : ∃ items, List.Forall₂ (decoded.HasItem command.shape) places items ∧
    request.groups = SlotGroup.ofItems items
  /-- The keys of the groups are the elements at the places, each as often as there. -/
  keys : (request.keys.map some).Perm (places.map decoded.element)
  /-- Only a command without keys, or a script with no keys, can go to any node. -/
  keyless : request.isKeyless ↔ command.shape = .noKey ∨
    command.shape = .script ∧ ∃ number, decoded.element 2 = some number ∧ Counts number 0

theorem placed_of_items {decoded : Decoded} {command : Command} {places : List Nat}
    {items : List Item} (keys : KeysAt decoded command.shape places)
    (held : List.Forall₂ (decoded.HasItem command.shape) places items) :
    Placed decoded command places ⟨decoded, command, SlotGroup.ofItems items⟩ where
  kept := rfl
  bytes := rfl
  called := rfl
  groups := ⟨items, held, rfl⟩
  keys := by
    have read : places.map decoded.element = (items.map Item.key).map some := by
      clear keys
      induction held with
      | nil => rfl
      | cons here _ ih => rw [List.map_cons, ih, here.key, List.map_cons, List.map_cons]
    rw [read]
    exact (keys_perm rfl).map some
  keyless := by
    have none_held : items = [] ↔ places = [] := by
      rw [← List.length_eq_zero_iff, ← held.length_eq, List.length_eq_zero_iff]
    rw [← keys.eq_nil_iff, ← none_held, isKeyless, List.isEmpty_iff]
    constructor
    · intro none_left
      have perm := SlotGroup.flatMap_ofItems_perm items
      rw [show SlotGroup.ofItems items = [] from none_left] at perm
      exact perm.symm.eq_nil
    · rintro rfl
      rfl

section

variable {decoded : Decoded} {name : Bytes} (array : decoded.frame.isBulkArray)
include array

theorem ofDecoded_unnamed (unnamed : decoded.element 0 = none) :
    ofDecoded decoded = .error .emptyCommand := by
  rw [Decoded.element_eq_getElem?_join] at unnamed
  unfold ofDecoded
  rw [array]
  match elements : decoded.elements with
  | [] => rfl
  | none :: args => rfl
  | some name :: args => simp [elements] at unnamed

/-- A frame that names a command is taken if its arguments are, and refused for what they are. -/
theorem ofDecoded_named (named : decoded.element 0 = some name) :
    ∃ args, decoded.elements = some name :: args ∧
      (Command.find? name = none →
        ofDecoded decoded = .error (.unknownCommand (Text.ofUtf8Lossy name))) ∧
      ∀ command, Command.find? name = some command → ofDecoded decoded =
        (itemsOf command args).map fun items => ⟨decoded, command, SlotGroup.ofItems items⟩ := by
  rw [Decoded.element_eq_getElem?_join] at named
  unfold ofDecoded
  rw [array]
  match elements : decoded.elements with
  | [] => simp [elements] at named
  | none :: args => simp [elements] at named
  | some first :: args =>
    obtain rfl : first = name := by simpa [elements] using named
    refine ⟨args, rfl, fun unknown => ?_, fun command found => ?_⟩
    · simp [unknown]
    · simp only [Bool.not_true, Bool.false_eq_true, if_false, found]
      cases itemsOf command args <;> rfl

end

/-- Where the keys of a request are, for any frame.

* A frame that is no array of bulks, one without a name, and one whose name is that of no supported
  command in any letter case are refused, each for its own fault.
* Otherwise the shape of the command says where the keys are. The frame is accepted exactly if all
  that the shape needs is there, with its keys at just these places (`Placed`).
* It is refused for the number of its keys if that is no number, and in every other case for a
  missing key, with the name of the command in lower case. -/
theorem keys_at_places (decoded : Decoded) :
    (¬ decoded.frame.isBulkArray →
        ofDecoded decoded = .error (.protocol "expected an array of bulk strings")) ∧
      (decoded.frame.isBulkArray → decoded.element 0 = none →
        ofDecoded decoded = .error .emptyCommand) ∧
      ∀ name, decoded.frame.isBulkArray → decoded.element 0 = some name →
        ((∀ command ∈ Command.all, ¬ command.answersTo name) →
          ofDecoded decoded = .error (.unknownCommand (Text.ofUtf8Lossy name))) ∧
        ∀ command ∈ Command.all, command.answersTo name →
          ((∃ request, ofDecoded decoded = .ok request) ↔
            ∃ places, KeysAt decoded command.shape places) ∧
          (∀ request places, ofDecoded decoded = .ok request →
            KeysAt decoded command.shape places → Placed decoded command places request) ∧
          (Miscounted decoded command.shape → ofDecoded decoded =
            .error (.invalidArgument "number of keys is not an integer or out of range")) ∧
          ((∀ places, ¬ KeysAt decoded command.shape places) →
            ¬ Miscounted decoded command.shape → ofDecoded decoded =
              .error (.missingKey (String.ofList (Text.lower command.name.toList)))) := by
  refine ⟨fun other => ?_, ofDecoded_unnamed, fun name array named => ?_⟩
  · rw [ofDecoded, Bool.eq_false_iff.2 other]
    rfl
  obtain ⟨args, elements, unknown, named⟩ := ofDecoded_named array named
  refine ⟨fun none_called => unknown ?_, fun command listed called => ?_⟩
  · exact Command.find?_eq_none_iff.2 fun command listed =>
      Bool.eq_false_iff.2 (none_called command listed)
  rw [named command (Command.find?_eq_some_iff.2 ⟨listed, called⟩)]
  refine ⟨⟨?_, ?_⟩, fun request places accepted keys => ?_, fun miscounted => ?_,
    fun no_places counted => ?_⟩
  · rintro ⟨request, accepted⟩
    cases read : itemsOf command args with
    | error fault => simp [read, Except.map] at accepted
    | ok items =>
      obtain ⟨places, keys, _⟩ := exists_places elements read
      exact ⟨places, keys⟩
  · rintro ⟨places, keys⟩
    obtain ⟨items, read⟩ := exists_items elements keys
    exact ⟨_, by rw [read]; rfl⟩
  · cases read : itemsOf command args with
    | error fault => simp [read, Except.map] at accepted
    | ok items =>
      obtain ⟨others, there, held⟩ := exists_places elements read
      obtain rfl := there.unique keys
      rw [read] at accepted
      obtain rfl := Except.ok.inj accepted
      exact placed_of_items keys held
  · rw [itemsOf_miscounted elements miscounted]
    rfl
  · cases read : itemsOf command args with
    | error fault =>
      rcases error_of_itemsOf elements read with miscounted | rfl
      · exact absurd miscounted counted
      · rfl
    | ok items =>
      obtain ⟨places, keys, _⟩ := exists_places elements read
      exact absurd keys (no_places places)

end Request

end ClusterProxy
