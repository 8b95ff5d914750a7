import ClusterProxy.Proofs.Frame.Header
import ClusterProxy.Proofs.Frame.Whole

/-!
# Frames as trees

A `Frame.Tree` is a frame taken apart: an array is its header and its elements, which are trees
again. A tree carries the proofs that its texts and headers are what the format asks for, so every
tree writes a frame (`Tree.bytes`), and how deep its arrays nest and how many elements they have can
be read off it. `Tree.frame` says where its pieces lie, without any reader.

`Tree.completes` says that a scan finds every tree that keeps within its bounds, with exactly these
places.
-/

namespace ClusterProxy.Frame

/-- A frame with the octets it is written in. The text of a line holds no line end; the body of a
bulk is as long as its header declares, and an array has as many elements. -/
inductive Tree where
  | line (kind : Kind) (text : Bytes) (plain : kind ∈ [.status, .error, .integer])
      (noEnd : ¬ Bytes.crlf <:+: text)
  | nullBulk (header : Bytes) (declares : Header header none)
  | bulk (header body : Bytes) (declares : Header header (some body.length))
  | nullArray (header : Bytes) (declares : Header header none)
  | array (header : Bytes) (count : Nat) (elements : Fin count → Tree)
      (declares : Header header (some count))

namespace Tree

def kind : Tree → Kind
  | line kind _ _ _ => kind
  | nullBulk _ _ => .bulk
  | bulk _ _ _ => .bulk
  | nullArray _ _ => .array
  | array _ _ _ _ => .array

/-- The octets of the frame. -/
def bytes : Tree → Bytes
  | line kind text _ _ => Message.line kind text
  | nullBulk header _ => Kind.bulk.mark :: header
  | bulk header body _ => Kind.bulk.mark :: header ++ body ++ Bytes.crlf
  | nullArray header _ => Kind.array.mark :: header
  | array header _ elements _ =>
    Kind.array.mark :: header ++ (List.ofFn fun i => (elements i).bytes).flatten

/-- How many arrays stand inside each other, null arrays included. -/
def depth : Tree → Nat
  | nullArray _ _ => 1
  | array _ _ elements _ => (List.ofFn fun i => (elements i).depth).foldr max 0 + 1
  | _ => 0

/-- How many elements each array has. -/
def counts : Tree → List Nat
  | array _ count elements _ => count :: (List.ofFn fun i => (elements i).counts).flatten
  | _ => []

def isNull : Tree → Bool
  | nullBulk _ _ => true
  | nullArray _ _ => true
  | _ => false

/-- The elements of an array. -/
def children : Tree → List Tree
  | array _ _ elements _ => List.ofFn elements
  | _ => []

/-- The text of a line or the body of a bulk. -/
def text? : Tree → Option Bytes
  | line _ text _ _ => some text
  | bulk _ body _ => some body
  | _ => none

/-- The body of a bulk that is not null. -/
def body? : Tree → Option Bytes
  | bulk _ body _ => some body
  | _ => none

/-! ## Where the pieces lie -/

/-- Where the text of a line or the body of a bulk lies, for a frame that starts at `offset`. -/
def span? (offset : Nat) : Tree → Option Span
  | line _ text _ _ => some ⟨offset + 1, offset + 1 + text.length⟩
  | bulk header body _ =>
    some ⟨offset + 1 + header.length, offset + 1 + header.length + body.length⟩
  | _ => none

/-- What there is of trees that stand one behind the other, the first one at `offset`. -/
def itemsFrom (offset : Nat) : List Tree → List Item
  | [] => []
  | tree :: trees => ⟨tree.kind, tree.span? offset⟩ :: itemsFrom (offset + tree.bytes.length) trees

/-- What a frame holds that starts at `offset`. -/
def content (tree : Tree) (offset : Nat) : Content where
  kind := tree.kind
  payload := tree.span? offset
  null := tree.isNull
  items :=
    match tree with
    | array header _ elements _ => itemsFrom (offset + 1 + header.length) (List.ofFn elements)
    | _ => []

/-- The frame at the front of a buffer. -/
def frame (tree : Tree) : Frame := ⟨tree.content 0, tree.bytes.length⟩

/-! ## The elements of an array -/

section

variable {header : Bytes} {count : Nat} {elements : Fin count → Tree}
  {declares : Header header (some count)}

theorem bytes_array : (array header count elements declares).bytes =
    Kind.array.mark :: (header ++ ((List.ofFn elements).map bytes).flatten) := by
  rw [bytes, List.map_ofFn]
  rfl

theorem depth_array_le_iff {n : Nat} :
    (array header count elements declares).depth ≤ n + 1 ↔ ∀ i, (elements i).depth ≤ n := by
  have highest {depths : List Nat} : depths.foldr max 0 ≤ n ↔ ∀ depth ∈ depths, depth ≤ n := by
    induction depths with
    | nil => simp
    | cons first depths ih => rw [List.foldr_cons, Nat.max_le, ih, List.forall_mem_cons]
  rw [depth, Nat.succ_le_succ_iff, highest]
  simp [List.mem_ofFn]

theorem mem_counts_array {n : Nat} : n ∈ (array header count elements declares).counts ↔
    n = count ∨ ∃ i, n ∈ (elements i).counts := by
  simp [counts, List.mem_ofFn]

end

end Tree

/-! ## What a reader completes -/

/-- A reader takes these octets wherever they stand, as long as they end within the limit, and finds
this in them. -/
def Completes (limit : Nat) (reader : Cursor → Verdict (Content × Cursor)) (used : Bytes)
    (content : Nat → Content) : Prop :=
  ∀ offset more, offset + used.length ≤ limit →
    reader ⟨offset, used ++ more⟩ =
      .complete (content offset, ⟨offset + used.length, more⟩)

theorem completes_behind {reader array : Cursor → Verdict (Content × Cursor)} {limit : Nat}
    {kind : Kind} {used : Bytes} {content found : Nat → Content}
    (announced : ∀ offset rest, array ⟨offset, kind.mark :: rest⟩ = reader ⟨offset + 1, rest⟩)
    (completes : Completes limit reader used found)
    (same : ∀ offset, found (offset + 1) = content offset) :
    Completes limit array (kind.mark :: used) content := by
  intro offset more fits
  rw [List.length_cons] at fits ⊢
  rw [List.cons_append, announced, completes (offset + 1) more (by omega), same, Nat.add_assoc,
    Nat.add_comm 1]

theorem completes_scanLine {limit : Nat} {kind : Kind} {text : Bytes}
    (noEnd : ¬ Bytes.crlf <:+: text) :
    Completes limit (scanLine kind) (text ++ Bytes.crlf) fun offset =>
      ⟨kind, some ⟨offset, offset + text.length⟩, false, []⟩ := by
  intro offset more _
  unfold scanLine
  dsimp only
  rw [findLineEnd_text noEnd, List.length_append]
  rfl

theorem completes_scanBulk_null {limit : Nat} {header : Bytes} (declares : Header header none) :
    Completes limit (scanBulk limit) header fun _ => ⟨.bulk, none, true, []⟩ := by
  intro offset more _
  unfold scanBulk
  rw [declares.readLength]
  rfl

theorem completes_scanBulk {limit : Nat} {header body : Bytes}
    (declares : Header header (some body.length)) :
    Completes limit (scanBulk limit) (header ++ body ++ Bytes.crlf) fun offset =>
      ⟨.bulk, some ⟨offset + header.length, offset + header.length + body.length⟩, false, []⟩ := by
  intro offset more fits
  have size : (header ++ body ++ Bytes.crlf).length = header.length + body.length + 2 := by
    simp [Bytes.crlf]
    omega
  rw [size] at fits ⊢
  unfold scanBulk
  rw [List.append_assoc, List.append_assoc, declares.readLength, Verdict.andThen_complete]
  dsimp only
  rw [if_neg (by omega), if_neg (by omega), List.drop_left]
  simp only [Bytes.crlf, List.cons_append, List.nil_append, and_self, if_true,
    Verdict.complete.injEq, Prod.mk.injEq, Cursor.mk.injEq, true_and, and_true]
  omega

theorem scanItems_trees {reader : Cursor → Verdict (Content × Cursor)} {limit offset : Nat}
    {trees : List Tree} (each : ∀ tree ∈ trees, Completes limit reader tree.bytes tree.content)
    (fits : offset + (trees.map Tree.bytes).flatten.length ≤ limit) (seen : List Item)
    (more : Bytes) :
    scanItems reader limit trees.length seen ⟨offset, (trees.map Tree.bytes).flatten ++ more⟩ =
      .complete (seen.reverse ++ Tree.itemsFrom offset trees,
        ⟨offset + (trees.map Tree.bytes).flatten.length, more⟩) := by
  induction trees generalizing offset seen with
  | nil =>
    rw [Tree.itemsFrom, List.append_nil]
    rfl
  | cons tree trees ih =>
    obtain ⟨first, others⟩ := List.forall_mem_cons.1 each
    rw [List.map_cons, List.flatten_cons, List.length_append] at fits ⊢
    have read := first offset ((trees.map Tree.bytes).flatten ++ more) (by omega)
    have behind := @ih (offset + tree.bytes.length) others (by omega)
      (⟨tree.kind, tree.span? offset⟩ :: seen)
    rw [List.append_assoc, List.length_cons, scanItems, read]
    dsimp only
    rw [if_neg (by omega)]
    refine behind.trans ?_
    rw [List.reverse_cons, List.append_assoc, Nat.add_assoc]
    rfl

theorem completes_scanArray_null {reader : Cursor → Verdict (Content × Cursor)} {limit : Nat}
    {header : Bytes} (declares : Header header none) :
    Completes limit (scanArray reader limit) header fun _ => ⟨.array, none, true, []⟩ := by
  intro offset more _
  unfold scanArray
  rw [declares.readLength]
  rfl

theorem completes_scanArray {reader : Cursor → Verdict (Content × Cursor)} {limit : Nat}
    {header : Bytes} {trees : List Tree} (declares : Header header (some trees.length))
    (few : trees.length ≤ limit / minElementLength)
    (each : ∀ tree ∈ trees, Completes limit reader tree.bytes tree.content) :
    Completes limit (scanArray reader limit) (header ++ (trees.map Tree.bytes).flatten)
      fun offset => ⟨.array, none, false, Tree.itemsFrom (offset + header.length) trees⟩ := by
  intro offset more fits
  rw [List.length_append] at fits ⊢
  have room : offset + header.length + (trees.map Tree.bytes).flatten.length ≤ limit := by omega
  unfold scanArray
  rw [List.append_assoc, declares.readLength, Verdict.andThen_complete]
  dsimp only
  rw [if_neg (Nat.not_lt.2 few), scanItems_trees each room, Nat.add_assoc]
  rfl

theorem scan_line {kind : Kind} (plain : kind ∈ [.status, .error, .integer])
    (limit levels offset : Nat) (rest : Bytes) :
    scan limit levels ⟨offset, kind.mark :: rest⟩ = scanLine kind ⟨offset + 1, rest⟩ := by
  cases kind with
  | array => simp at plain
  | bulk => simp at plain
  | status => cases levels <;> rfl
  | error => cases levels <;> rfl
  | integer => cases levels <;> rfl

theorem scan_bulk (limit levels offset : Nat) (rest : Bytes) :
    scan limit levels ⟨offset, Kind.bulk.mark :: rest⟩ = scanBulk limit ⟨offset + 1, rest⟩ := by
  cases levels <;> rfl

/-- A scan finds every tree whose arrays are neither too deep nor too long, wherever its octets
stand. -/
theorem Tree.completes {limit levels : Nat} (tree : Tree) (shallow : tree.depth ≤ levels)
    (few : ∀ count ∈ tree.counts, count ≤ limit / minElementLength) :
    Completes limit (scan limit levels) tree.bytes tree.content := by
  induction tree generalizing levels with
  | line kind text plain noEnd =>
    exact completes_behind (fun _ _ => scan_line plain ..) (completes_scanLine noEnd) fun _ => rfl
  | nullBulk header declares =>
    exact completes_behind (fun _ _ => scan_bulk ..) (completes_scanBulk_null declares) fun _ => rfl
  | bulk header body declares =>
    exact completes_behind (fun _ _ => scan_bulk ..) (completes_scanBulk declares) fun _ => rfl
  | nullArray header declares =>
    cases levels with
    | zero => simp [depth] at shallow
    | succ levels =>
      exact completes_behind (fun _ _ => rfl) (completes_scanArray_null declares) fun _ => rfl
  | array header count elements declares ih =>
    cases levels with
    | zero => simp [depth] at shallow
    | succ levels =>
      have size : (List.ofFn elements).length = count := List.length_ofFn
      have short := few count (mem_counts_array.2 (.inl rfl))
      have each : ∀ tree ∈ List.ofFn elements,
          Completes limit (scan limit levels) tree.bytes tree.content := by
        intro tree member
        obtain ⟨i, rfl⟩ := List.mem_ofFn.1 member
        exact ih i (depth_array_le_iff.1 shallow i) fun n listed =>
          few n (mem_counts_array.2 (.inr ⟨i, listed⟩))
      rw [bytes_array]
      exact completes_behind (fun _ _ => rfl)
        (completes_scanArray (by rwa [size]) (by rwa [size]) each) fun _ => rfl

end ClusterProxy.Frame
