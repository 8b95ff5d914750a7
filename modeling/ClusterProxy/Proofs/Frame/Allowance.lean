import ClusterProxy.Proofs.Frame.Grammar
import Mathlib.Data.List.OfFn

/-!
# What a limit allows

A frame that the largest limit allows is found under a lower one exactly if it is no longer than the
limit and none of its arrays has more elements than the limit divided by `Frame.minElementLength`;
otherwise the buffer is refused (`Frame.allowed_iff`). Which arrays a frame has is a matter of its
octets, since they are those of one tree only (`Frame.Tree.bytes_injective`).

The second bound follows from the first where every element has as many octets as it is taken to
need (`Frame.Tree.Roomy.mul_count_le`). Lines without text are shorter, so an array of them can be
refused although it is no longer than the limit (`Frame.array_of_empty_lines_refused`).
-/

namespace ClusterProxy.Frame

/-! ## One tree for each frame -/

theorem Kind.mark_injective : Function.Injective Kind.mark := by
  intro kind other same
  cases kind <;> cases other <;> first | rfl | exact absurd same (by decide)

theorem Kind.ne_bulk_of_plain {kind : Kind} (plain : kind ∈ [.status, .error, .integer]) :
    kind ≠ .bulk := by
  rintro rfl
  exact absurd plain (by decide)

theorem Kind.ne_array_of_plain {kind : Kind} (plain : kind ∈ [.status, .error, .integer]) :
    kind ≠ .array := by
  rintro rfl
  exact absurd plain (by decide)

/-- A header is told from what stands behind it. -/
theorem Header.eq_of_append {header other rest behind : Bytes} {length another : Option Nat}
    (declares : Header header length) (alsoDeclares : Header other another)
    (same : header ++ rest = other ++ behind) :
    header = other ∧ length = another ∧ rest = behind := by
  have read := declares.readLength 0 rest
  rw [same, alsoDeclares.readLength 0 behind] at read
  simp only [Verdict.complete.injEq, Prod.mk.injEq, Cursor.mk.injEq, Nat.zero_add] at read
  obtain ⟨rfl, size, rfl⟩ := read
  exact ⟨List.append_inj_left same size.symm, rfl, rfl⟩

theorem Header.null_ne_append {header other : Bytes} {length : Nat} (declares : Header header none)
    (alsoDeclares : Header other (some length)) (rest : Bytes) : header ≠ other ++ rest := by
  intro same
  rw [← List.append_nil header] at same
  exact absurd (declares.eq_of_append alsoDeclares same).2.1 (by simp)

namespace Tree

/-- Trees that stand one behind the other are told apart if each of them is told from every other.
-/
theorem eq_of_flatten_eq {trees others : List Tree}
    (each : ∀ tree ∈ trees, ∀ other : Tree, tree.bytes = other.bytes → tree = other)
    (size : trees.length = others.length)
    (same : (trees.map bytes).flatten = (others.map bytes).flatten) : trees = others := by
  induction trees generalizing others with
  | nil => exact (List.eq_nil_of_length_eq_zero size.symm).symm
  | cons tree trees ih =>
    cases others with
    | nil => simp at size
    | cons other others =>
      obtain ⟨first, later⟩ := List.forall_mem_cons.1 each
      rw [List.map_cons, List.map_cons, List.flatten_cons, List.flatten_cons] at same
      have front := bytes_eq_of_append same
      rw [front] at same
      rw [first other front, ih later (Nat.succ.inj size) (List.append_cancel_left same)]

theorem kind_eq_of_bytes_eq {tree other : Tree} (same : tree.bytes = other.bytes) :
    tree.kind = other.kind := by
  have first := tree.head?_bytes []
  rw [same, other.head?_bytes [], Option.some.injEq] at first
  exact (Kind.mark_injective first).symm

/-- The octets of a frame are those of one tree only. -/
theorem bytes_injective : Function.Injective bytes := by
  intro tree other same
  -- Trees of different kinds have different marks, so the cases left are those of one kind.
  have kinds := kind_eq_of_bytes_eq same
  induction tree generalizing other with
  | line kind text plain noEnd =>
    cases other with
    | line another words alsoPlain alsoNoEnd =>
      obtain rfl : kind = another := kinds
      obtain rfl := List.append_cancel_right (List.cons.inj same).2
      rfl
    | nullBulk | bulk => exact absurd kinds (Kind.ne_bulk_of_plain plain)
    | nullArray | array => exact absurd kinds (Kind.ne_array_of_plain plain)
  | nullBulk header declares =>
    cases other with
    | line _ _ plain => exact absurd kinds.symm (Kind.ne_bulk_of_plain plain)
    | nullBulk another alsoDeclares =>
      obtain rfl := (List.cons.inj same).2
      rfl
    | bulk another body alsoDeclares =>
      have behind : header = another ++ body ++ Bytes.crlf := (List.cons.inj same).2
      rw [List.append_assoc] at behind
      exact absurd behind (declares.null_ne_append alsoDeclares _)
    | _ => simp [Tree.kind] at kinds
  | bulk header body declares =>
    cases other with
    | line _ _ plain => exact absurd kinds.symm (Kind.ne_bulk_of_plain plain)
    | nullBulk another alsoDeclares =>
      have behind : header ++ body ++ Bytes.crlf = another := (List.cons.inj same).2
      rw [List.append_assoc] at behind
      exact absurd behind.symm (alsoDeclares.null_ne_append declares _)
    | bulk another words alsoDeclares =>
      have behind : header ++ body ++ Bytes.crlf = another ++ words ++ Bytes.crlf :=
        (List.cons.inj same).2
      rw [List.append_assoc, List.append_assoc] at behind
      obtain ⟨rfl, _, ended⟩ := declares.eq_of_append alsoDeclares behind
      obtain rfl := List.append_cancel_right ended
      rfl
    | _ => simp [Tree.kind] at kinds
  | nullArray header declares =>
    cases other with
    | line _ _ plain => exact absurd kinds.symm (Kind.ne_array_of_plain plain)
    | nullArray another alsoDeclares =>
      obtain rfl := (List.cons.inj same).2
      rfl
    | array another count elements alsoDeclares =>
      rw [bytes_array] at same
      exact absurd (List.cons.inj same).2 (declares.null_ne_append alsoDeclares _)
    | _ => simp [Tree.kind] at kinds
  | array header count elements declares ih =>
    cases other with
    | line _ _ plain => exact absurd kinds.symm (Kind.ne_array_of_plain plain)
    | nullArray another alsoDeclares =>
      rw [bytes_array] at same
      exact absurd (List.cons.inj same).2.symm (alsoDeclares.null_ne_append declares _)
    | array another number others alsoDeclares =>
      rw [bytes_array, bytes_array] at same
      obtain ⟨rfl, size, behind⟩ := declares.eq_of_append alsoDeclares (List.cons.inj same).2
      obtain rfl := Option.some.inj size
      have elementwise : List.ofFn elements = List.ofFn others := by
        refine eq_of_flatten_eq (fun tree member other same => ?_) (by simp) behind
        obtain ⟨i, rfl⟩ := List.mem_ofFn.1 member
        exact ih i same (kind_eq_of_bytes_eq same)
      rw [List.ofFn_injective elementwise]
    | _ => simp [Tree.kind] at kinds

/-! ## How many elements there is room for -/

/-- Every element of an array has at least so many octets. -/
def Roomy (least : Nat) : Tree → Prop
  | array _ _ elements _ => ∀ i, least ≤ (elements i).bytes.length ∧ (elements i).Roomy least
  | _ => True

theorem three_le_length (tree : Tree) : 3 ≤ tree.bytes.length := by
  cases tree with
  | line => simp [bytes, Message.line, Bytes.crlf]
  | nullBulk header declares => exact Nat.le_succ_of_le declares.three_le_length
  | bulk header body declares =>
    have := declares.three_le_length
    simp [bytes]
    omega
  | nullArray header declares => exact Nat.le_succ_of_le declares.three_le_length
  | array header count elements declares =>
    have := declares.three_le_length
    simp [bytes_array]
    omega

/-- The shortest elements are lines without text. -/
theorem roomy_three (tree : Tree) : tree.Roomy 3 := by
  induction tree with
  | array header count elements declares ih =>
    exact fun i => ⟨three_le_length (elements i), ih i⟩
  | _ => exact trivial

theorem length_bytes_le_array {header : Bytes} {count : Nat} {elements : Fin count → Tree}
    {declares : Header header (some count)} (i : Fin count) :
    (elements i).bytes.length ≤ (array header count elements declares).bytes.length := by
  have member : (elements i).bytes ∈ (List.ofFn elements).map bytes :=
    List.mem_map.2 ⟨elements i, List.mem_ofFn.2 ⟨i, rfl⟩, rfl⟩
  have part := (List.sublist_flatten_of_mem member).length_le
  rw [bytes_array, List.length_cons, List.length_append]
  omega

/-- The elements of an array fill as much of the frame as the shortest ones would. -/
theorem Roomy.mul_count_le {least : Nat} {tree : Tree} (roomy : tree.Roomy least) :
    ∀ count ∈ tree.counts, least * count ≤ tree.bytes.length := by
  induction tree with
  | array header size elements declares ih =>
    intro count member
    rcases mem_counts_array.1 member with rfl | ⟨i, member⟩
    · have each : ∀ piece ∈ (List.ofFn elements).map bytes, least ≤ piece.length := by
        intro piece listed
        obtain ⟨tree, among, rfl⟩ := List.mem_map.1 listed
        obtain ⟨i, rfl⟩ := List.mem_ofFn.1 among
        exact (roomy i).1
      have filled := mul_length_le_length_flatten each
      rw [List.length_map, List.length_ofFn] at filled
      rw [bytes_array, List.length_cons, List.length_append]
      omega
    · exact Nat.le_trans (ih i (roomy i).2 count member) (length_bytes_le_array i)
  | _ => simp [counts]

end Tree

/-! ## The frames that a limit allows -/

/-- The largest limit that can be set, the largest unsigned number of 64 bits. -/
def maxLimit : Nat := 18446744073709551615

/-- A frame that some limit allows is found under another one exactly if its tree is within the
bounds of that one. -/
theorem find_eq_complete_iff_fits {limit other : Nat} {buffer : Bytes} {tree : Tree}
    (front : tree.bytes <+: buffer) (fits : tree.Fits other) :
    find limit buffer = .complete tree.frame ↔ tree.bytes.length ≤ limit ∧
      ∀ count ∈ tree.counts, count ≤ limit / minElementLength := by
  constructor
  · intro found
    obtain ⟨same, alsoFront, alsoFits, _⟩ := exists_tree_of_find found
    obtain ⟨rest, rfl⟩ := front
    obtain ⟨behind, octets⟩ := alsoFront
    obtain rfl := Tree.bytes_injective (Tree.bytes_eq_of_append octets)
    exact ⟨alsoFits.length, alsoFits.counts⟩
  · rintro ⟨short, few⟩
    exact find_of_tree front ⟨short, fits.depth, few⟩

/-- A limit bounds the length of a frame and the number of elements of its arrays. A frame that the
largest limit allows has one tree, and for every limit:

* the same frame is found exactly if it is no longer than the limit and no array in it has more
  elements than a quarter of the limit;
* the buffer is refused otherwise;
* the length alone decides if every element of an array has four octets or more. -/
theorem allowed_iff {buffer : Bytes} {frame : Frame}
    (found : find maxLimit buffer = .complete frame) :
    ∃ tree : Tree, tree.bytes <+: buffer ∧ frame = tree.frame ∧ ∀ limit,
      (find limit buffer = .complete frame ↔
        frame.length ≤ limit ∧ ∀ count ∈ tree.counts, count ≤ limit / 4) ∧
      ((∃ why, find limit buffer = .invalid why) ↔
        limit < frame.length ∨ ∃ count ∈ tree.counts, limit / 4 < count) ∧
      (tree.Roomy 4 → (find limit buffer = .complete frame ↔ frame.length ≤ limit)) := by
  obtain ⟨tree, front, fits, rfl⟩ := exists_tree_of_find found
  refine ⟨tree, front, rfl, fun limit => ?_⟩
  have complete : find limit buffer = .complete tree.frame ↔
      tree.frame.length ≤ limit ∧ ∀ count ∈ tree.counts, count ≤ limit / 4 :=
    find_eq_complete_iff_fits front fits
  refine ⟨complete, ?_, fun roomy => ?_⟩
  · -- Under any limit there is this frame or none, since there is under the largest one.
    have decided : find limit buffer = .complete tree.frame ∨
        ∃ why, find limit buffer = .invalid why := by
      rcases Nat.le_total limit maxLimit with lower | higher
      · rw [← found]
        exact find_of_le lower buffer
      · exact .inl (find_of_limit_le higher found)
    have refused : (∃ why, find limit buffer = .invalid why) ↔
        ¬ find limit buffer = .complete tree.frame := by
      constructor
      · rintro ⟨why, invalid⟩ same
        rw [invalid] at same
        cases same
      · exact decided.resolve_left
    rw [refused, complete]
    simp only [not_and_or, not_forall, Nat.not_le, exists_prop]
  · refine ⟨fun same => (complete.1 same).1, fun short => complete.2 ⟨short, ?_⟩⟩
    intro count member
    have filled : 4 * count ≤ tree.frame.length := roomy.mul_count_le count member
    omega

namespace Sample

/-- A reply with a number, an empty line and a null in a row, and the next reply behind it. -/
def mixed : Bytes := Text.utf8 "*2\r\n*3\r\n:1\r\n+\r\n$-1\r\n$2\r\nhi\r\n+OK\r\n"

def mixedFrame : Frame :=
  ⟨⟨.array, none, false, [⟨.array, none⟩, ⟨.bulk, some ⟨24, 26⟩⟩]⟩, 28⟩

/-- Five lines without text in an array. -/
def emptyLines : Bytes := Text.utf8 "*5\r\n+\r\n+\r\n+\r\n+\r\n+\r\n"

def emptyLinesFrame : Frame :=
  ⟨⟨.array, none, false, [⟨.status, some ⟨5, 5⟩⟩, ⟨.status, some ⟨8, 8⟩⟩,
    ⟨.status, some ⟨11, 11⟩⟩, ⟨.status, some ⟨14, 14⟩⟩, ⟨.status, some ⟨17, 17⟩⟩]⟩, 19⟩

end Sample

theorem allowed_iff_mixed :
    find maxLimit Sample.mixed = .complete Sample.mixedFrame ∧
      ∃ tree : Tree, tree.bytes <+: Sample.mixed ∧ Sample.mixedFrame = tree.frame ∧ ∀ limit,
        (find limit Sample.mixed = .complete Sample.mixedFrame ↔
          Sample.mixedFrame.length ≤ limit ∧ ∀ count ∈ tree.counts, count ≤ limit / 4) ∧
        ((∃ why, find limit Sample.mixed = .invalid why) ↔
          limit < Sample.mixedFrame.length ∨ ∃ count ∈ tree.counts, limit / 4 < count) ∧
        (tree.Roomy 4 → (find limit Sample.mixed = .complete Sample.mixedFrame ↔
          Sample.mixedFrame.length ≤ limit)) := by
  have found : find maxLimit Sample.mixed = .complete Sample.mixedFrame := by decide +kernel
  exact ⟨found, allowed_iff found⟩

/-- An array of five lines without text is a frame of 19 octets, and a limit of 19 octets refuses it
because of the number of its elements. -/
theorem array_of_empty_lines_refused :
    find maxLimit Sample.emptyLines = .complete Sample.emptyLinesFrame ∧
      Sample.emptyLinesFrame.length ≤ 19 ∧
      find 19 Sample.emptyLines = .invalid .tooManyElements := by
  decide +kernel

end ClusterProxy.Frame
