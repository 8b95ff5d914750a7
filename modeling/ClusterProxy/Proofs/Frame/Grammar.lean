import ClusterProxy.Proofs.Frame.Layout
import Mathlib.Algebra.Order.BigOperators.Group.List
import Mathlib.Algebra.Order.Group.Nat

/-!
# The frames that are found are those of the grammar

`Frame.find_eq_complete_iff_tree` says what `Frame.find` finds without any reader: a frame is found
exactly if the octets of a tree stand at the front of the buffer, are within the bounds, and the
frame is the one the tree describes. No other frame can stand there, and the places in the frame are
places in its octets that hold what the tree holds.
-/

namespace ClusterProxy

/-- A stretch between other octets holds its own. -/
theorem Span.slice_middle (front body rest : Bytes) :
    Span.slice ⟨front.length, front.length + body.length⟩ (front ++ body ++ rest) = body := by
  rw [Span.slice, List.append_assoc, List.drop_left, Nat.add_sub_cancel_left, List.take_left]

namespace Frame

namespace Tree

/-! ## Places and what they hold -/

theorem slice_span? (tree : Tree) (front rest : Bytes) :
    (tree.span? front.length).map (fun span => span.slice (front ++ tree.bytes ++ rest)) =
      tree.text? := by
  cases tree with
  | nullBulk => rfl
  | nullArray => rfl
  | array => rfl
  | line kind text plain noEnd =>
    have cut : front ++ Message.line kind text ++ rest =
        (front ++ [kind.mark]) ++ text ++ (Bytes.crlf ++ rest) := by
      simp [Message.line]
    have held := Span.slice_middle (front ++ [kind.mark]) text (Bytes.crlf ++ rest)
    rw [List.length_append, List.length_singleton] at held
    rw [span?, bytes, cut, Option.map_some, held, text?]
  | bulk header body declares =>
    have cut : front ++ (Kind.bulk.mark :: header ++ body ++ Bytes.crlf) ++ rest =
        (front ++ Kind.bulk.mark :: header) ++ body ++ (Bytes.crlf ++ rest) := by
      simp
    have held := Span.slice_middle (front ++ Kind.bulk.mark :: header) body (Bytes.crlf ++ rest)
    rw [List.length_append, List.length_cons, Nat.add_comm header.length, ← Nat.add_assoc] at held
    rw [span?, bytes, cut, Option.map_some, held, text?]

theorem body?_eq (tree : Tree) : tree.body? = if tree.kind = .bulk then tree.text? else none := by
  cases tree with
  | line kind text plain noEnd =>
    have other : kind ≠ .bulk := by
      rintro rfl
      exact absurd plain (by decide)
    exact (if_neg other).symm
  | _ => rfl

theorem slice_itemsFrom (trees : List Tree) (front rest : Bytes) :
    ((itemsFrom front.length trees).map fun item =>
        if item.kind = .bulk then item.payload else none).map (fun element =>
          element.map fun span => span.slice (front ++ (trees.map bytes).flatten ++ rest)) =
      trees.map body? := by
  induction trees generalizing front with
  | nil => rfl
  | cons tree trees ih =>
    have here : front ++ ((tree :: trees).map bytes).flatten ++ rest =
        front ++ tree.bytes ++ ((trees.map bytes).flatten ++ rest) := by
      simp
    have later := ih (front ++ tree.bytes)
    rw [List.length_append, List.append_assoc (front ++ tree.bytes)] at later
    rw [here, itemsFrom, List.map_cons, List.map_cons, List.map_cons, later, body?_eq,
      ← tree.slice_span? front ((trees.map bytes).flatten ++ rest)]
    congr 1
    split <;> rfl

theorem span?_inside {tree : Tree} {offset : Nat} {span : Span}
    (lies : tree.span? offset = some span) :
    span.first ≤ span.stop ∧ span.stop ≤ offset + tree.bytes.length := by
  cases tree with
  | nullBulk => simp [span?] at lies
  | nullArray => simp [span?] at lies
  | array => simp [span?] at lies
  | line kind text plain noEnd =>
    obtain rfl := Option.some.inj lies
    simp [bytes, Message.line]
    omega
  | bulk header body declares =>
    obtain rfl := Option.some.inj lies
    simp [bytes]
    omega

theorem itemsFrom_inside {trees : List Tree} {offset : Nat} {item : Item} {span : Span}
    (listed : item ∈ itemsFrom offset trees) (lies : item.payload = some span) :
    span.first ≤ span.stop ∧ span.stop ≤ offset + (trees.map bytes).flatten.length := by
  induction trees generalizing offset with
  | nil => simp [itemsFrom] at listed
  | cons tree trees ih =>
    rw [List.map_cons, List.flatten_cons, List.length_append]
    rcases List.mem_cons.1 listed with rfl | later
    · have inside := span?_inside lies
      omega
    · have inside := ih later
      omega

/-! ## One tree at the front -/

/-- The octets at the front of a buffer are those of one tree at most. -/
theorem bytes_eq_of_append {tree other : Tree} {rest behind : Bytes}
    (same : tree.bytes ++ rest = other.bytes ++ behind) : tree.bytes = other.bytes := by
  -- Under a limit that is large enough, one scan finds both of them.
  have finds (tree : Tree) {levels limit : Nat} (shallow : tree.depth ≤ levels)
      (large : tree.bytes.length + 4 * tree.counts.sum ≤ limit) (rest : Bytes) :
      scan limit levels ⟨0, tree.bytes ++ rest⟩ =
        .complete (tree.content 0, ⟨0 + tree.bytes.length, rest⟩) := by
    refine tree.completes shallow (fun count member => ?_) 0 rest (by omega)
    have part := List.le_sum_of_mem member
    unfold minElementLength
    omega
  obtain ⟨limit, first, second⟩ : ∃ limit, tree.bytes.length + 4 * tree.counts.sum ≤ limit ∧
      other.bytes.length + 4 * other.counts.sum ≤ limit :=
    ⟨_, Nat.le_max_left _ _, Nat.le_max_right _ _⟩
  have here := finds tree (Nat.le_max_left tree.depth other.depth) first rest
  have there := finds other (Nat.le_max_right tree.depth other.depth) second behind
  rw [same, there] at here
  simp only [Verdict.complete.injEq, Prod.mk.injEq, Cursor.mk.injEq, Nat.zero_add] at here
  exact List.append_inj_left same here.2.1.symm

/-! ## Bounds and descriptions -/

/-- The bounds within which a frame is found. -/
structure Fits (tree : Tree) (limit : Nat) : Prop where
  length : tree.bytes.length ≤ limit
  depth : tree.depth ≤ 128
  counts : ∀ count ∈ tree.counts, count ≤ limit / 4

/-- A frame at the front of a buffer tells what a tree holds: its places are places in the octets of
the tree, and its text and the bodies of its elements stand there. -/
structure Describes (frame : Frame) (tree : Tree) (buffer : Bytes) : Prop where
  length : frame.length = tree.bytes.length
  kind : buffer.head? = some frame.kind.mark
  null : frame.null = tree.isNull
  payload : frame.payload.map (fun span => span.slice buffer) = tree.text?
  elements : frame.elements.map (fun element => element.map fun span => span.slice buffer) =
    tree.children.map body?
  inside : ∀ span, frame.payload = some span ∨ some span ∈ frame.elements →
    span.first ≤ span.stop ∧ span.stop ≤ frame.length

theorem head?_bytes (tree : Tree) (rest : Bytes) :
    (tree.bytes ++ rest).head? = some tree.kind.mark := by
  cases tree <;> rfl

theorem describes_frame (tree : Tree) (rest : Bytes) :
    Describes tree.frame tree (tree.bytes ++ rest) where
  length := rfl
  kind := tree.head?_bytes rest
  null := rfl
  payload := tree.slice_span? [] rest
  elements := by
    cases tree with
    | array header count elements declares =>
      have held := slice_itemsFrom (List.ofFn elements) (Kind.array.mark :: header) rest
      rw [List.length_cons, Nat.add_comm, ← Nat.zero_add 1] at held
      rw [bytes_array]
      exact held
    | _ => rfl
  inside span lies := by
    rcases lies with lies | lies
    · simpa [frame] using span?_inside lies
    · cases tree with
      | array header count elements declares =>
        obtain ⟨item, listed, shown⟩ := List.mem_map.1 lies
        have held : item.payload = some span := by
          split at shown
          · exact shown
          · simp at shown
        have inside := itemsFrom_inside listed held
        rw [Tree.frame, bytes_array]
        simp only [List.length_cons, List.length_append]
        omega
      | _ => simp [Frame.elements, frame, content] at lies

end Tree

/-! ## The frames that are found -/

/-- What is found is a tree, with the frame that the tree describes. -/
theorem exists_tree_of_find {limit : Nat} {buffer : Bytes} {frame : Frame}
    (found : find limit buffer = .complete frame) :
    ∃ tree : Tree, tree.bytes <+: buffer ∧ tree.Fits limit ∧ frame = tree.frame := by
  obtain ⟨rest, scanned, fits⟩ := find_eq_complete_iff.1 found
  obtain ⟨used, layout, cut, reached⟩ := takes_scan _ _ _ _ _ scanned
  dsimp only at cut reached
  obtain ⟨tree, rfl, shallow, few⟩ := layout.exists_tree
  rw [Nat.zero_add] at reached
  -- The scan of the octets of the tree can find nothing else than what the tree describes.
  have read := tree.completes shallow few 0 rest (by omega)
  rw [← cut, scanned] at read
  simp only [Verdict.complete.injEq, Prod.mk.injEq] at read
  refine ⟨tree, ⟨rest, cut.symm⟩, ⟨by omega, shallow, few⟩, ?_⟩
  rw [Tree.frame, ← read.1, ← reached]

/-- A tree within the bounds is found. -/
theorem find_of_tree {limit : Nat} {buffer : Bytes} {tree : Tree} (front : tree.bytes <+: buffer)
    (fits : tree.Fits limit) : find limit buffer = .complete tree.frame := by
  obtain ⟨rest, rfl⟩ := front
  have short := fits.length
  have complete : Completes limit (scan limit nestingLimit) tree.bytes tree.content :=
    tree.completes fits.depth fits.counts
  have read := complete 0 rest (by omega)
  rw [Nat.zero_add] at read
  exact find_eq_complete_iff.2 ⟨rest, read, short⟩

/-- The frames that are found are those of the grammar. A frame is found exactly if the octets of a
tree within the bounds are at the front of the buffer and the tree has this frame. The octets at the
front are those of one tree at most, within the bounds or not, and the frame of a tree tells what
the tree holds. -/
theorem find_eq_complete_iff_tree (limit : Nat) (buffer : Bytes) :
    (∀ frame, find limit buffer = .complete frame ↔
        ∃ tree : Tree, tree.bytes <+: buffer ∧ tree.Fits limit ∧ frame = tree.frame) ∧
      ∀ tree : Tree, tree.bytes <+: buffer →
        (∀ other : Tree, other.bytes <+: buffer → other.bytes = tree.bytes) ∧
          Tree.Describes tree.frame tree buffer := by
  refine ⟨fun frame => ⟨exists_tree_of_find, ?_⟩, ?_⟩
  · rintro ⟨tree, front, fits, rfl⟩
    exact find_of_tree front fits
  · rintro tree ⟨rest, rfl⟩
    refine ⟨?_, tree.describes_frame rest⟩
    rintro other ⟨behind, same⟩
    exact Tree.bytes_eq_of_append same

/-- Zero may have a sign, and lengths may have leading zeros. -/
example : find 32 (Text.utf8 "*3\r\n$-0\r\n\r\n$-01\r\n$002\r\nok\r\n:1") =
    .complete ⟨⟨.array, none, false,
      [⟨.bulk, some ⟨9, 9⟩⟩, ⟨.bulk, none⟩, ⟨.bulk, some ⟨23, 25⟩⟩]⟩, 27⟩ := by
  decide +kernel

end Frame

end ClusterProxy
