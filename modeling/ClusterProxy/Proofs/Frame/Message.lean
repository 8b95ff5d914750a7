import ClusterProxy.Proofs.Frame.Allowance
import ClusterProxy.Command.Call

/-!
# What is written is read back

A `Message` that the proxy writes is a frame for every decoder that allows frames of twice its
length, and the frame tells what was written.

* `Message.Readable levels` holds for messages whose arrays nest at most `levels` deep and whose
  error lines hold no line end.
* `Message.ReadAs` says what a decoded frame tells of a message: its bytes, its kind, its text or
  body, and the bodies of its elements.

`Encoder.decodes` says that messages that were written one after the other are read as such, one
frame for each, whatever stands behind them. A readable message is a tree (`Readable.exists_tree`,
by induction on how it nests), and what a decoder gives is a tree with its frame
(`Frame.Tree.next_decoded`, `Decoder.exists_tree_of_next`).
-/

namespace ClusterProxy

/-! ## Numbers in decimal -/

namespace Bytes

/-- The octet of a decimal digit is one, and stands for the same number. -/
theorem octet_of_digit {c : Char} (digit : c.isDigit) :
    isDigit c.toNat.toUInt8 ∧ digitValue c.toNat.toUInt8 = c.toNat - 48 := by
  have low : 48 ≤ c.toNat ∧ c.toNat ≤ 57 := by
    simpa [Char.isDigit, UInt32.le_iff_toNat_le] using digit
  have same : c.toNat.toUInt8.toNat = c.toNat := Nat.mod_eq_of_lt (by omega)
  refine ⟨?_, by rw [digitValue, same]⟩
  simp only [isDigit, Bool.and_eq_true, decide_eq_true_eq, UInt8.le_iff_toNat_le, same]
  exact low

theorem foldl_grow_digits {text : List Char} (digits : ∀ c ∈ text, c.isDigit) (value : Nat) :
    (text.map fun c => c.toNat.toUInt8).foldl Frame.grow value =
      Nat.ofDigitChars 10 text value := by
  induction text generalizing value with
  | nil => simp
  | cons c text ih =>
    obtain ⟨first, others⟩ := List.forall_mem_cons.1 digits
    rw [List.map_cons, List.foldl_cons, Nat.ofDigitChars_cons, ih others, Frame.grow,
      (octet_of_digit first).2, Nat.mul_comm]
    rfl

/-- A number is written as a numeral for it. -/
theorem numeral_decimal {n : Nat} (small : n ≤ Frame.maxLength) :
    Frame.Numeral (decimal n) n := by
  have digits : ∀ c ∈ Nat.toDigits 10 n, c.isDigit := fun _ =>
    Nat.isDigit_of_mem_toDigits (by decide) (by decide)
  refine ⟨?_, fun b member => ?_, ?_, small⟩
  · simp [decimal, Nat.toDigits_ne_nil]
  · obtain ⟨c, listed, rfl⟩ := List.mem_map.1 member
    exact (octet_of_digit (digits c listed)).1
  · rw [decimal, foldl_grow_digits digits, Nat.ofDigitChars_ten_toDigits]

end Bytes

/-! ## Trees that are decoded -/

namespace Frame.Tree

/-- The frame with its bytes. -/
def decoded (tree : Tree) : Decoded := ⟨tree.bytes, tree.frame⟩

theorem describes_decoded (tree : Tree) : Describes tree.frame tree tree.decoded.bytes := by
  have described := tree.describes_frame []
  rwa [List.append_nil] at described

theorem payload_decoded (tree : Tree) : tree.decoded.payload = tree.text? :=
  tree.describes_decoded.payload

theorem elements_decoded (tree : Tree) : tree.decoded.elements = tree.children.map body? := by
  rw [Decoded.elements_eq_map_slice]
  exact tree.describes_decoded.elements

/-- A decoder gives a tree that is within its bounds. -/
theorem next_decoded {limit : Nat} {tree : Tree} (fits : tree.Fits limit) (rest : Bytes) :
    Decoder.next ⟨limit, tree.bytes ++ rest⟩ = (.complete tree.decoded, ⟨limit, rest⟩) := by
  refine Decoder.next_eq_complete_iff.2 ⟨find_of_tree ⟨rest, rfl⟩ fits, ?_, ?_⟩
  · exact (List.take_left' rfl).symm
  · exact congrArg _ (List.drop_left' rfl).symm

end Frame.Tree

/-- What a decoder gives is a tree within its bounds. -/
theorem Decoder.exists_tree_of_next {decoder rest : Decoder} {decoded : Decoded}
    (given : decoder.next = (.complete decoded, rest)) :
    ∃ tree : Frame.Tree, tree.Fits decoder.limit ∧ decoded = tree.decoded := by
  obtain ⟨found, bytes, _⟩ := next_eq_complete_iff.1 given
  obtain ⟨tree, ⟨behind, cut⟩, fits, same⟩ := Frame.exists_tree_of_find found
  have octets : decoded.bytes = tree.bytes := by
    rw [bytes, same, ← cut]
    exact List.take_left' rfl
  cases decoded
  exact ⟨tree, fits, congrArg₂ Decoded.mk octets same⟩

namespace Message

/-! ## What there is to read -/

/-- Arrays nest at most `levels` deep, and no text of an error line holds a line end. -/
inductive Readable : (levels : Nat) → Message → Prop where
  | error {levels : Nat} {text : Bytes} : ¬ Bytes.crlf <:+: text → Readable levels (error text)
  | bulk {levels : Nat} {data : Bytes} : Readable levels (bulk data)
  | array {levels : Nat} {items : List Message} :
      (∀ item ∈ items, Readable levels item) → Readable (levels + 1) (array items)

def kind : Message → Frame.Kind
  | error _ => .error
  | bulk _ => .bulk
  | array _ => .array

/-- The text of an error line or the data of a bulk. -/
def text? : Message → Option Bytes
  | error text => some text
  | bulk data => some data
  | array _ => none

/-- The data of a bulk. -/
def data? : Message → Option Bytes
  | bulk data => some data
  | _ => none

/-- The items of an array. -/
def items : Message → List Message
  | array items => items
  | _ => []

/-- What a decoded frame tells of the message it was written for. -/
structure ReadAs (message : Message) (decoded : Decoded) : Prop where
  bytes : decoded.bytes = message.encode
  kind : decoded.frame.kind = message.kind
  null : decoded.frame.null = false
  payload : decoded.payload = message.text?
  kinds : decoded.frame.items.map Frame.Item.kind = message.items.map Message.kind
  elements : decoded.elements = message.items.map data?
  element : ∀ i, decoded.element i = message.items[i]?.bind data?

/-! ## Messages and trees -/

/-- A tree holds what a message says. -/
structure Shows (tree : Frame.Tree) (message : Message) : Prop where
  bytes : tree.bytes = message.encode
  kind : tree.kind = message.kind
  null : tree.isNull = false
  text : tree.text? = message.text?
  kinds : tree.children.map Frame.Tree.kind = message.items.map Message.kind
  bodies : tree.children.map Frame.Tree.body? = message.items.map data?

theorem Shows.body?_eq {tree : Frame.Tree} {message : Message} (shows : Shows tree message) :
    tree.body? = message.data? := by
  rw [Frame.Tree.body?_eq, shows.kind, shows.text]
  cases message <;> rfl

theorem three_le_length_encode (message : Message) : 3 ≤ message.encode.length := by
  cases message with
  | error text => simp [encode, line, Bytes.crlf]
  | bulk data =>
    simp [encode, line, Bytes.crlf]
    omega
  | array items =>
    rw [encode_array]
    simp [line, Bytes.crlf]
    omega

theorem three_mul_length_le (items : List Message) :
    3 * items.length ≤ (items.map encode).flatten.length := by
  have each : ∀ piece ∈ items.map encode, 3 ≤ piece.length := by
    intro piece listed
    obtain ⟨item, _, rfl⟩ := List.mem_map.1 listed
    exact three_le_length_encode item
  have filled := Frame.mul_length_le_length_flatten each
  rwa [List.length_map] at filled

theorem length_encode_le_flatten {items : List Message} {item : Message} (member : item ∈ items) :
    item.encode.length ≤ (items.map encode).flatten.length :=
  (List.sublist_flatten_of_mem (List.mem_map.2 ⟨item, member, rfl⟩)).length_le

/-- Data is written as a tree whose header is its length. -/
theorem shows_bulk {data : Bytes} (short : data.length ≤ Frame.maxLength) :
    Shows (.bulk _ data (.plain (Bytes.numeral_decimal short))) (bulk data) := by
  refine ⟨?_, rfl, rfl, rfl, rfl, rfl⟩
  simp [Frame.Tree.bytes, encode, line]

/-- An array is written as a tree whose header is the number of its items, if there are trees for
these. -/
theorem shows_array {items : List Message} {trees : Fin items.length → Frame.Tree}
    (few : items.length ≤ Frame.maxLength) (shows : ∀ i, Shows (trees i) items[i]) :
    Shows (.array _ items.length trees (.plain (Bytes.numeral_decimal few))) (array items) := by
  -- What each tree has in common with its item, the row of trees has with the items.
  have along {α : Type} {ofTree : Frame.Tree → α} {ofItem : Message → α}
      (same : ∀ i, ofTree (trees i) = ofItem items[i]) :
      (List.ofFn trees).map ofTree = items.map ofItem := by
    rw [List.map_ofFn, show ofTree ∘ trees = fun i : Fin items.length => ofItem items[i] from
      funext same]
    exact List.ofFn_getElem_eq_map items ofItem
  refine ⟨?_, rfl, rfl, rfl, along fun i => (shows i).kind, along fun i => (shows i).body?_eq⟩
  rw [Frame.Tree.bytes_array, along fun i => (shows i).bytes, encode_array]
  simp [line]

/-- A message that can be read back is a tree. -/
theorem Readable.exists_tree {levels : Nat} {message : Message} (readable : Readable levels message)
    (small : message.encode.length ≤ Frame.maxLength) :
    ∃ tree : Frame.Tree, Shows tree message ∧ tree.depth ≤ levels := by
  induction readable with
  | @error _ text noEnd =>
    exact ⟨.line .error text (by decide) noEnd, ⟨rfl, rfl, rfl, rfl, rfl, rfl⟩, Nat.zero_le _⟩
  | @bulk _ data =>
    have short : data.length ≤ Frame.maxLength := by
      simp only [encode, List.length_append] at small
      omega
    exact ⟨_, shows_bulk short, Nat.zero_le _⟩
  | @array levels items _ ih =>
    rw [encode_array, List.length_append] at small
    have few : items.length ≤ Frame.maxLength := by
      have := three_mul_length_le items
      omega
    have each : ∀ i : Fin items.length, ∃ tree : Frame.Tree,
        Shows tree items[i] ∧ tree.depth ≤ levels := by
      intro i
      have member : items[i] ∈ items := List.getElem_mem i.isLt
      have part := length_encode_le_flatten member
      exact ih items[i] member (by omega)
    choose trees shows shallow using each
    exact ⟨_, shows_array few shows, Frame.Tree.depth_array_le_iff.2 shallow⟩

/-! ## Trees and what is decoded -/

theorem kinds_itemsFrom (offset : Nat) (trees : List Frame.Tree) :
    (Frame.Tree.itemsFrom offset trees).map Frame.Item.kind = trees.map Frame.Tree.kind := by
  induction trees generalizing offset with
  | nil => rfl
  | cons tree trees ih => rw [Frame.Tree.itemsFrom, List.map_cons, List.map_cons, ih]

theorem Shows.readAs {tree : Frame.Tree} {message : Message} (shows : Shows tree message) :
    ReadAs message tree.decoded := by
  have elements : tree.decoded.elements = message.items.map data? := by
    rw [tree.elements_decoded, shows.bodies]
  refine ⟨shows.bytes, shows.kind, shows.null, ?_, ?_, elements, fun i => ?_⟩
  · rw [tree.payload_decoded, shows.text]
  · rw [← shows.kinds]
    cases tree with
    | array => exact kinds_itemsFrom _ _
    | _ => rfl
  · rw [Decoded.element_eq_getElem?_join, elements, List.getElem?_map]
    cases message.items[i]? <;> rfl

/-- A decoder gives a message whose tree is within its bounds, and is left with what stands behind
it. -/
theorem Shows.exists_next {limit : Nat} {tree : Frame.Tree} {message : Message}
    (shows : Shows tree message) (fits : tree.Fits limit) (rest : Bytes) :
    ∃ decoded, ReadAs message decoded ∧
      Decoder.next ⟨limit, message.encode ++ rest⟩ = (.complete decoded, ⟨limit, rest⟩) := by
  rw [← shows.bytes]
  exact ⟨tree.decoded, shows.readAs, tree.next_decoded fits rest⟩

/-- A decoder that allows frames of twice its length gives a message that can be read back, and is
left with what stands behind it. -/
theorem Readable.exists_next {limit : Nat} {message : Message}
    (readable : Readable Frame.nestingLimit message) (machine : limit ≤ Frame.maxLimit)
    (room : 2 * message.encode.length ≤ limit) (rest : Bytes) :
    ∃ decoded, ReadAs message decoded ∧
      Decoder.next ⟨limit, message.encode ++ rest⟩ = (.complete decoded, ⟨limit, rest⟩) := by
  have small : message.encode.length ≤ Frame.maxLength := by
    unfold Frame.maxLimit at machine
    unfold Frame.maxLength
    omega
  obtain ⟨tree, shows, shallow⟩ := readable.exists_tree small
  refine shows.exists_next ⟨by rw [shows.bytes]; omega, shallow, fun count member => ?_⟩ rest
  have filled := tree.roomy_three.mul_count_le count member
  rw [shows.bytes] at filled
  omega

/-- The frames of messages are given one after the other. -/
theorem exists_takes {limit : Nat} (machine : limit ≤ Frame.maxLimit) {messages : List Message}
    (each : ∀ message ∈ messages,
      Readable Frame.nestingLimit message ∧ 2 * message.encode.length ≤ limit) (rest : Bytes) :
    ∃ frames, List.Forall₂ ReadAs messages frames ∧
      Decoder.Takes ⟨limit, (messages.map encode).flatten ++ rest⟩ frames ⟨limit, rest⟩ := by
  induction messages with
  | nil => exact ⟨[], .nil, .nothing _⟩
  | cons message messages ih =>
    obtain ⟨⟨readable, room⟩, later⟩ := List.forall_mem_cons.1 each
    obtain ⟨frames, read, takes⟩ := ih later
    obtain ⟨decoded, first, given⟩ :=
      readable.exists_next machine room ((messages.map encode).flatten ++ rest)
    refine ⟨decoded :: frames, .cons first read, .frame ?_ takes⟩
    rw [List.map_cons, List.flatten_cons, List.append_assoc]
    exact given

end Message

/-! ## Commands -/

namespace Call

/-- A decoded frame is a command: an array of bulks that are its name and its arguments. -/
structure ReadAs (call : Call) (decoded : Decoded) : Prop where
  bytes : decoded.bytes = call.encode
  bulks : decoded.frame.isBulkArray
  elements : decoded.elements = call.words.map some

theorem readable_message (call : Call) : call.message.Readable Frame.nestingLimit := by
  refine Message.Readable.array fun item member => ?_
  obtain ⟨word, _, rfl⟩ := List.mem_map.1 member
  exact .bulk

theorem readAs_of_message {call : Call} {decoded : Decoded} (read : call.message.ReadAs decoded) :
    call.ReadAs decoded := by
  refine ⟨read.bytes, ?_, ?_⟩
  · have kinds : ∀ kind ∈ decoded.frame.items.map Frame.Item.kind, kind = .bulk := by
      rw [read.kinds]
      simp [message, Message.items, Message.kind]
    have array : decoded.frame.kind = .array := read.kind
    simpa [Frame.isBulkArray, array] using kinds
  · rw [read.elements, message, Message.items, List.map_map]
    rfl

end Call

namespace Encoder

theorem pending_foldl_push (encoder : Encoder) (messages : List Message) :
    (messages.foldl push encoder).pending =
      encoder.pending ++ (messages.map Message.encode).flatten := by
  induction messages generalizing encoder with
  | nil => simp
  | cons message messages ih =>
    rw [List.foldl_cons, ih, push, List.map_cons, List.flatten_cons, List.append_assoc]

/-- What is written is read back, under every limit that allows frames of twice the length.

* Messages that were written one after the other give one frame each, in order, and the decoder is
  left with what stands behind them. Each frame has the bytes and the kind of its message, its text
  or data, and the data of those of its items that are bulks.
* A command gives an array of bulks that are its name and its arguments.
* A command with `ASKING` in front gives the array of that one word, and then the command. -/
theorem decodes {limit : Nat} (machine : limit ≤ Frame.maxLimit) :
    (∀ (messages : List Message) (rest : Bytes),
      (∀ message ∈ messages, message.Readable 128 ∧ 2 * message.encode.length ≤ limit) →
      ∃ frames, List.Forall₂ Message.ReadAs messages frames ∧
        Decoder.Takes ⟨limit, (messages.foldl push empty).take.1 ++ rest⟩ frames ⟨limit, rest⟩) ∧
    (∀ (call : Call) (rest : Bytes), 2 * call.encode.length ≤ limit →
      ∃ decoded, call.ReadAs decoded ∧
        Decoder.Takes ⟨limit, call.encode ++ rest⟩ [decoded] ⟨limit, rest⟩) ∧
    ∀ (call : Call) (rest : Bytes),
      2 * Call.asking.encode.length ≤ limit → 2 * call.encode.length ≤ limit →
      ∃ asking decoded, asking.bytes = Call.asking.encode ∧ asking.frame.isBulkArray ∧
        asking.elements = [some (Text.utf8 "ASKING")] ∧ call.ReadAs decoded ∧
        Decoder.Takes ⟨limit, Call.withAsking call.encode ++ rest⟩ [asking, decoded]
          ⟨limit, rest⟩ := by
  have next (call : Call) (room : 2 * call.encode.length ≤ limit) (rest : Bytes) :
      ∃ decoded, call.ReadAs decoded ∧
        Decoder.next ⟨limit, call.encode ++ rest⟩ = (.complete decoded, ⟨limit, rest⟩) := by
    obtain ⟨decoded, read, given⟩ := call.readable_message.exists_next machine room rest
    exact ⟨decoded, Call.readAs_of_message read, given⟩
  refine ⟨fun messages rest each => ?_, fun call rest room => ?_, fun call rest first room => ?_⟩
  · rw [take, pending_foldl_push]
    exact Message.exists_takes machine each rest
  · obtain ⟨decoded, read, given⟩ := next call room rest
    exact ⟨decoded, read, Decoder.Takes.singleton_iff.2 given⟩
  · obtain ⟨decoded, read, given⟩ := next call room rest
    obtain ⟨asking, asked, ahead⟩ := next Call.asking first (call.encode ++ rest)
    refine ⟨asking, decoded, asked.bytes, asked.bulks, asked.elements, read, .frame ?_
      (Decoder.Takes.singleton_iff.2 given)⟩
    rw [Call.withAsking, List.append_assoc]
    exact ahead

namespace Sample

/-- An array with data that looks like a line end, an empty array, and an error line that ends in a
carriage return. -/
def messages : List Message :=
  [.array [.bulk Bytes.crlf, .array [], .error (Text.utf8 "no\r")], .bulk []]

def call : Call := ⟨Text.utf8 "SET", [Text.utf8 "k", Bytes.crlf]⟩

end Sample

theorem decodes_sample :
    200 ≤ Frame.maxLimit ∧
      (∀ message ∈ Sample.messages, message.Readable 128 ∧ 2 * message.encode.length ≤ 200) ∧
      (∃ frames, List.Forall₂ Message.ReadAs Sample.messages frames ∧
        Decoder.Takes ⟨200, (Sample.messages.foldl push empty).take.1 ++ Text.utf8 "+OK"⟩ frames
          ⟨200, Text.utf8 "+OK"⟩) ∧
      2 * Sample.call.encode.length ≤ 200 ∧
      (∃ decoded, Sample.call.ReadAs decoded ∧
        Decoder.Takes ⟨200, Sample.call.encode ++ []⟩ [decoded] ⟨200, []⟩) ∧
      2 * Call.asking.encode.length ≤ 200 ∧
      ∃ asking decoded, asking.bytes = Call.asking.encode ∧ asking.frame.isBulkArray ∧
        asking.elements = [some (Text.utf8 "ASKING")] ∧ Sample.call.ReadAs decoded ∧
        Decoder.Takes ⟨200, Call.withAsking Sample.call.encode ++ []⟩ [asking, decoded]
          ⟨200, []⟩ := by
  have machine : 200 ≤ Frame.maxLimit := by decide
  have each : ∀ message ∈ Sample.messages,
      message.Readable 128 ∧ 2 * message.encode.length ≤ 200 := by
    intro message member
    rcases List.mem_cons.1 member with rfl | member
    · refine ⟨.array fun item listed => ?_, by decide +kernel⟩
      simp only [List.mem_cons, List.not_mem_nil, or_false] at listed
      rcases listed with rfl | rfl | rfl
      · exact .bulk
      · exact .array (by simp)
      · exact .error (by decide)
    · rw [List.mem_singleton.1 member]
      exact ⟨.bulk, by decide +kernel⟩
  have room : 2 * Sample.call.encode.length ≤ 200 := by decide +kernel
  have first : 2 * Call.asking.encode.length ≤ 200 := by decide +kernel
  obtain ⟨written, command, behind⟩ := decodes machine
  exact ⟨machine, each, written _ _ each, room, command _ _ room, first, behind _ _ first room⟩

end Encoder

end ClusterProxy
