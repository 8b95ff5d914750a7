import ClusterProxy.Proofs.Frame.Message
import Mathlib.Algebra.Order.BigOperators.Group.List
import Mathlib.Algebra.Ring.Nat

/-!
# Excerpts of a frame

A call that takes its words from a frame is read under the limit of the frame
(`Call.exists_next_of_words`). It has no more elements, and it takes no more octets, since the proxy
writes numbers without a sign and without leading zeros (`Frame.Header.length_decimal_le`). Only the
lengths of the words count, so a word may be replaced by another one of its length.
-/

namespace ClusterProxy

/-! ## Numbers and headers -/

theorem Frame.foldl_grow_lt {digits : Bytes} (digit : ∀ b ∈ digits, Bytes.isDigit b)
    (value : Nat) : digits.foldl grow value < (value + 1) * 10 ^ digits.length := by
  induction digits generalizing value with
  | nil => simp
  | cons b digits ih =>
    obtain ⟨first, others⟩ := List.forall_mem_cons.1 digit
    have small : Bytes.digitValue b ≤ 9 := by
      simp only [Bytes.isDigit, Bool.and_eq_true, decide_eq_true_eq, UInt8.le_iff_toNat_le] at first
      exact Nat.sub_le_iff_le_add.2 first.2
    calc (b :: digits).foldl grow value
        < (grow value b + 1) * 10 ^ digits.length := ih others _
      _ ≤ ((value + 1) * 10) * 10 ^ digits.length :=
        Nat.mul_le_mul_right _ (by unfold grow; omega)
      _ = (value + 1) * 10 ^ (b :: digits).length := by
        rw [List.length_cons, Nat.pow_succ', Nat.mul_assoc]

/-- No numeral for a number is shorter than the decimal of a number that is no larger. -/
theorem Frame.Numeral.length_decimal_le {digits : Bytes} {value n : Nat}
    (numeral : Numeral digits value) (small : n ≤ value) :
    (Bytes.decimal n).length ≤ digits.length := by
  have below : value < 10 ^ digits.length := by
    rw [← numeral.stands]
    simpa using foldl_grow_lt numeral.digit 0
  rw [Bytes.decimal, List.length_map]
  exact (Nat.length_toDigits_le_iff (by decide) (List.length_pos_iff.2 numeral.some_digits)).2
    (Nat.lt_of_le_of_lt small below)

theorem Frame.Header.length_decimal_le {header : Bytes} {length n : Nat}
    (declares : Header header (some length)) (small : n ≤ length) :
    (Bytes.decimal n).length + 2 ≤ header.length := by
  cases declares with
  | plain numeral =>
    have := numeral.length_decimal_le small
    simpa [Bytes.crlf] using this
  | minusZero numeral =>
    have := numeral.length_decimal_le small
    simp [Bytes.crlf]
    omega

theorem Frame.Header.le_maxLength {header : Bytes} {length : Nat}
    (declares : Header header (some length)) : length ≤ maxLength := by
  cases declares with
  | plain numeral => exact numeral.small
  | minusZero numeral => exact Nat.zero_le _

/-! ## Bulks -/

/-- The number of octets in which a bulk of a length is written. -/
def Message.bulkLength (length : Nat) : Nat := length + (Bytes.decimal length).length + 5

theorem Message.length_encode_bulk (data : Bytes) :
    (bulk data).encode.length = bulkLength data.length := by
  simp [encode, line, Bytes.crlf, bulkLength]
  omega

namespace Frame.Tree

/-- No bulk is shorter than the one in which the proxy writes its body. -/
theorem bulkLength_le {tree : Tree} {body : Bytes} (held : tree.body? = some body) :
    Message.bulkLength body.length ≤ tree.bytes.length ∧ body.length ≤ maxLength := by
  cases tree with
  | bulk header data declares =>
    obtain rfl := Option.some.inj held
    have shorter := declares.length_decimal_le (Nat.le_refl _)
    refine ⟨?_, declares.le_maxLength⟩
    simp [Message.bulkLength, bytes, Bytes.crlf]
    omega
  | _ => simp [body?] at held

theorem sum_bulkLength_le {trees : List Tree} {words : List Bytes}
    (held : trees.map body? = words.map some) :
    ((words.map List.length).map Message.bulkLength).sum ≤
      (trees.map bytes).flatten.length := by
  induction trees generalizing words with
  | nil =>
    obtain rfl : words = [] := by simpa using held.symm
    exact Nat.le_refl _
  | cons tree trees ih =>
    cases words with
    | nil => simp at held
    | cons word words =>
      obtain ⟨first, others⟩ := List.cons.inj held
      rw [List.map_cons, List.map_cons, List.sum_cons, List.map_cons, List.flatten_cons,
        List.length_append]
      exact Nat.add_le_add (bulkLength_le first).1 (ih others)

section

variable {tree : Tree} {words : List Bytes} (held : tree.children.map body? = words.map some)
include held

theorem word_le_maxLength {word : Bytes} (member : word ∈ words) : word.length ≤ maxLength := by
  have listed : some word ∈ tree.children.map body? := by
    rw [held]
    exact List.mem_map_of_mem member
  obtain ⟨child, _, body⟩ := List.mem_map.1 listed
  exact (bulkLength_le body).2

/-- A frame that holds words is an array of them, and no shorter than its words and the number of
them, or a lower number, take when the proxy writes them. -/
theorem array_of_words (some_word : words ≠ []) :
    words.length ∈ tree.counts ∧ words.length ≤ maxLength ∧ ∀ n ≤ words.length,
      (Bytes.decimal n).length + 3 + ((words.map List.length).map Message.bulkLength).sum ≤
        tree.bytes.length := by
  cases tree with
  | array header count elements declares =>
    have number : words.length = count := by
      have same := congrArg List.length held
      simpa [children] using same.symm
    rw [number]
    refine ⟨mem_counts_array.2 (.inl rfl), declares.le_maxLength, fun n small => ?_⟩
    have shorter := declares.length_decimal_le small
    have bodies := sum_bulkLength_le held
    rw [bytes_array, List.length_cons, List.length_append]
    simp only [children] at bodies
    omega
  | _ =>
    simp only [children, List.map_nil] at held
    exact absurd (List.map_eq_nil_iff.1 held.symm) some_word

end

end Frame.Tree

/-! ## Calls -/

namespace Call

theorem length_encode (call : Call) :
    call.encode.length = (Bytes.decimal call.words.length).length + 3 +
      ((call.words.map List.length).map Message.bulkLength).sum := by
  have bulks : (call.words.map Message.bulk).map (List.length ∘ Message.encode) =
      (call.words.map List.length).map Message.bulkLength := by
    rw [List.map_map, List.map_map]
    exact List.map_congr_left fun word _ => Message.length_encode_bulk word
  rw [encode, message, Message.encode_array, List.length_append, List.length_flatten, List.map_map,
    bulks, List.length_map]
  simp [Message.line, Bytes.crlf]

/-- A call is a tree of bulks if the number of its words and their lengths can be declared. -/
theorem exists_tree {call : Call} (few : call.words.length ≤ Frame.maxLength)
    (short : ∀ word ∈ call.words, word.length ≤ Frame.maxLength) :
    ∃ tree : Frame.Tree, Message.Shows tree call.message ∧
      tree.depth ≤ 1 ∧ ∀ count ∈ tree.counts, count = call.words.length := by
  have each : ∀ i : Fin (call.words.map Message.bulk).length, ∃ tree : Frame.Tree,
      Message.Shows tree (call.words.map Message.bulk)[i] ∧ tree.depth ≤ 0 ∧ tree.counts = [] := by
    intro i
    obtain ⟨word, member, same⟩ := List.mem_map.1 (List.getElem_mem i.isLt)
    rw [Fin.getElem_fin, ← same]
    exact ⟨_, Message.shows_bulk (short word member), Nat.le_refl _, rfl⟩
  choose trees shows flat single using each
  have size : (call.words.map Message.bulk).length = call.words.length := List.length_map _
  refine ⟨_, Message.shows_array (by rwa [size]) shows, Frame.Tree.depth_array_le_iff.2 flat, ?_⟩
  intro count member
  rcases Frame.Tree.mem_counts_array.1 member with rfl | ⟨i, listed⟩
  · exact size
  · simp [single i] at listed

/-- A call whose words are as long as some of the words of a frame is read under the limit of the
frame, whatever stands behind it. -/
theorem exists_next_of_words {decoder rest : Decoder} {decoded : Decoded} {words : List Bytes}
    (given : decoder.next = (.complete decoded, rest)) (held : decoded.elements = words.map some)
    (call : Call)
    (part : (call.words.map List.length).Sublist (words.map List.length)) (behind : Bytes) :
    ∃ piece, call.ReadAs piece ∧ Decoder.next ⟨decoder.limit, call.encode ++ behind⟩ =
      (.complete piece, ⟨decoder.limit, behind⟩) := by
  obtain ⟨tree, fits, rfl⟩ := Decoder.exists_tree_of_next given
  rw [tree.elements_decoded] at held
  have size : call.words.length ≤ words.length := by simpa using part.length_le
  have some_word : words ≠ [] := by
    rintro rfl
    simp [Call.words] at size
  obtain ⟨counted, declared, longer⟩ := Frame.Tree.array_of_words held some_word
  have short : ∀ word ∈ call.words, word.length ≤ Frame.maxLength := by
    intro word member
    obtain ⟨other, listed, same⟩ := List.mem_map.1 (part.subset (List.mem_map_of_mem member))
    rw [← same]
    exact Frame.Tree.word_le_maxLength held listed
  obtain ⟨written, shows, shallow, counts⟩ := exists_tree (Nat.le_trans size declared) short
  have smaller : written.bytes.length ≤ tree.bytes.length := by
    have bulks := (part.map Message.bulkLength).sum_le_sum fun _ _ => Nat.zero_le _
    have all := longer call.words.length size
    rw [shows.bytes, show call.message.encode = call.encode from rfl, length_encode]
    omega
  have bounds : written.Fits decoder.limit := by
    refine ⟨Nat.le_trans smaller fits.length, Nat.le_trans shallow (by decide), fun n member => ?_⟩
    rw [counts n member]
    exact Nat.le_trans size (fits.counts _ counted)
  obtain ⟨piece, read, next⟩ := shows.exists_next bounds behind
  exact ⟨piece, readAs_of_message read, next⟩

end Call

end ClusterProxy
