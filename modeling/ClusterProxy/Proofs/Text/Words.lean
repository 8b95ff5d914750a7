import ClusterProxy.Proofs.Text.Numbers
import ClusterProxy.Text.Words
import Mathlib.Data.List.TakeWhile

/-!
# Words in byte strings

A byte string is cut at the first octet of some value: what is in front of it does not hold that
value, and there is no other way to cut it (`Bytes.cut_at_mark` and the lemmas before it). The
pieces between spaces are found one at a time: the first one is behind any number of spaces, and
goes up to the next space or to the end (`Bytes.tokens_eq_cons_iff`).

A text is one word of a line if it is not empty and holds no space and no line break
(`Text.IsWord`). A text that is joined by marks holds nothing but them and what its parts hold
(`Text.exists_mem_of_mem_intercalate`), and an end that is dropped from a text is found again behind
it (`Text.dropEndWhile_append`).
-/

namespace ClusterProxy

namespace Bytes

/-! ## The first octet of a value -/

section

variable {mark : UInt8} {front : Bytes} (back : Bytes) (absent : mark ∉ front)
include absent

theorem takeWhile_append_of_not_mem :
    (front ++ mark :: back).takeWhile (fun b => b != mark) = front := by
  have others : ∀ b ∈ front, (b != mark) = true := fun b member =>
    bne_iff_ne.2 (ne_of_mem_of_not_mem member absent)
  rw [List.takeWhile_append_of_pos others, List.takeWhile_cons_of_neg (by simp), List.append_nil]

theorem dropWhile_append_of_not_mem :
    (front ++ mark :: back).dropWhile (fun b => b != mark) = mark :: back := by
  have others : ∀ b ∈ front, (b != mark) = true := fun b member =>
    bne_iff_ne.2 (ne_of_mem_of_not_mem member absent)
  rw [List.dropWhile_append_of_pos others, List.dropWhile_cons_of_neg (by simp)]

end

theorem not_mem_takeWhile (mark : UInt8) (bytes : Bytes) :
    mark ∉ bytes.takeWhile fun b => b != mark := by
  intro member
  simpa using List.mem_takeWhile_imp member

/-- What is left behind the octets of other values begins with that value. -/
theorem eq_mark_of_dropWhile {mark b : UInt8} {bytes back : Bytes}
    (behind : bytes.dropWhile (fun b => b != mark) = b :: back) : b = mark := by
  have stops := List.head?_dropWhile_not (fun b => b != mark) bytes
  rw [behind] at stops
  simpa using stops

theorem cut_at_mark {mark b : UInt8} {bytes back : Bytes}
    (behind : bytes.dropWhile (fun b => b != mark) = b :: back) :
    bytes = bytes.takeWhile (fun b => b != mark) ++ mark :: back := by
  rw [← eq_mark_of_dropWhile behind, ← behind, eq_mark_of_dropWhile behind,
    List.takeWhile_append_dropWhile]

/-! ## Pieces between spaces -/

/-- Some number of spaces. -/
def spaces (count : Nat) : Bytes := List.replicate count space

/-- What may follow a piece: nothing, or a space and whatever is behind it. -/
def Breaks (tail : Bytes) : Prop := tail = [] ∨ ∃ rest, tail = space :: rest

theorem breaks_dropWhile (bytes : Bytes) : Breaks (bytes.dropWhile fun b => b != space) := by
  cases behind : bytes.dropWhile fun b => b != space with
  | nil => exact .inl rfl
  | cons b rest => exact .inr ⟨rest, by rw [eq_mark_of_dropWhile behind]⟩

theorem tokens_cons_space (bytes : Bytes) : tokens (space :: bytes) = tokens bytes := by
  unfold tokens
  rw [← List.nil_append (space :: bytes), List.splitOn_append_cons_of_beq _ _ (beq_self_eq_true _),
    List.splitOn_nil]
  rfl

theorem tokens_spaces_append (count : Nat) (bytes : Bytes) :
    tokens (spaces count ++ bytes) = tokens bytes := by
  induction count with
  | zero => rfl
  | succ count ih =>
    rw [spaces, List.replicate_succ, List.cons_append, tokens_cons_space]
    exact ih

/-- A piece in front is found first. -/
theorem tokens_append {word tail : Bytes} (some_octet : word ≠ []) (whole : space ∉ word)
    (breaks : Breaks tail) : tokens (word ++ tail) = word :: tokens tail := by
  rcases breaks with rfl | ⟨rest, rfl⟩
  · simp [tokens, List.splitOn_eq_singleton whole, some_octet]
  · rw [tokens_cons_space]
    unfold tokens
    rw [List.splitOn_append_cons_of_beq _ _ (beq_self_eq_true _), List.splitOn_eq_singleton whole]
    simp [some_octet]

/-- The first piece is behind any number of spaces, and the other ones are behind it. -/
theorem tokens_eq_cons_iff {bytes word : Bytes} {words : List Bytes} :
    tokens bytes = word :: words ↔ ∃ count tail, bytes = spaces count ++ (word ++ tail) ∧
      word ≠ [] ∧ space ∉ word ∧ Breaks tail ∧ tokens tail = words := by
  constructor
  · intro found
    induction bytes with
    | nil => simp [tokens] at found
    | cons b bytes ih =>
      by_cases blank : b = space
      · subst blank
        rw [tokens_cons_space] at found
        obtain ⟨count, tail, rfl, piece⟩ := ih found
        exact ⟨count + 1, tail, rfl, piece⟩
      · -- The piece begins here, and goes up to the next space.
        have split := List.takeWhile_append_dropWhile (p := fun b => b != space) (l := b :: bytes)
        have some_octet : (b :: bytes).takeWhile (fun b => b != space) ≠ [] := by simp [blank]
        have breaks := breaks_dropWhile (b :: bytes)
        rw [← split, tokens_append some_octet (not_mem_takeWhile _ _) breaks,
          List.cons.injEq] at found
        obtain ⟨rfl, later⟩ := found
        exact ⟨0, _, split.symm, some_octet, not_mem_takeWhile _ _, breaks, later⟩
  · rintro ⟨count, tail, rfl, some_octet, whole, breaks, rfl⟩
    rw [tokens_spaces_append, tokens_append some_octet whole breaks]

theorem breaks_spaces_append (count : Nat) (bytes : Bytes) :
    Breaks (spaces (count + 1) ++ bytes) := .inr ⟨spaces count ++ bytes, rfl⟩

/-- Where no piece can begin at once, there is a space in front of the first one. -/
theorem tokens_eq_cons_iff_of_breaks {bytes word : Bytes} {words : List Bytes}
    (breaks : Breaks bytes) :
    tokens bytes = word :: words ↔ ∃ count tail, bytes = spaces (count + 1) ++ (word ++ tail) ∧
      word ≠ [] ∧ space ∉ word ∧ Breaks tail ∧ tokens tail = words := by
  rcases breaks with rfl | ⟨rest, rfl⟩
  · simp [tokens, spaces, List.replicate_succ]
  · simp only [tokens_cons_space, tokens_eq_cons_iff, spaces, List.replicate_succ, List.cons_append,
      List.cons.injEq, true_and]

end Bytes

/-! ## Texts that are one word -/

/-- A text that is one word of a line. -/
structure Text.IsWord (text : String) : Prop where
  some_char : text ≠ ""
  no_space : ' ' ∉ text.toList
  no_return : '\r' ∉ text.toList
  no_feed : '\n' ∉ text.toList

theorem Text.utf8_eq_nil_iff {text : String} : utf8 text = [] ↔ text = "" := by
  constructor
  · intro empty
    have round := ofUtf8?_utf8 text
    rw [empty] at round
    exact (Option.some.inj round).symm
  · rintro rfl
    rfl

theorem Text.space_mem_utf8_iff {text : String} : Bytes.space ∈ utf8 text ↔ ' ' ∈ text.toList :=
  mem_utf8_iff (c := ' ') (by decide)

namespace Text.IsWord

variable {text : String} (word : IsWord text)
include word

theorem utf8_ne_nil : utf8 text ≠ [] := mt utf8_eq_nil_iff.1 word.some_char

theorem space_not_mem : Bytes.space ∉ utf8 text := mt space_mem_utf8_iff.1 word.no_space

theorem return_not_mem : Bytes.cr ∉ utf8 text := fun member =>
  word.no_return ((mem_utf8_iff (c := '\r') (by decide)).1 member)

theorem feed_not_mem : Bytes.lf ∉ utf8 text := fun member =>
  word.no_feed ((mem_utf8_iff (c := '\n') (by decide)).1 member)

omit word

theorem toString_nat (n : Nat) : IsWord (toString n) := by
  refine ⟨?_, fun member => ?_, fun member => ?_, fun member => ?_⟩
  · intro empty
    exact toList_toString_ne_nil n (by rw [empty]; rfl)
  all_goals exact absurd (isDigit_of_mem_toString _ member) (by decide)

end Text.IsWord

theorem Text.isWord_moved : IsWord "MOVED" := ⟨by decide, by decide, by decide, by decide⟩

theorem Text.isWord_ask : IsWord "ASK" := ⟨by decide, by decide, by decide, by decide⟩

/-! ## Texts that are put together -/

/-- A text that is joined by marks holds nothing but the marks and what its parts hold. -/
theorem Text.exists_mem_of_mem_intercalate {mark c : Char} {texts : List (List Char)}
    (other : c ≠ mark) (member : c ∈ [mark].intercalate texts) : ∃ text ∈ texts, c ∈ text := by
  induction texts with
  | nil => simp at member
  | cons text texts ih =>
    cases texts with
    | nil => exact ⟨text, List.mem_cons_self, by simpa using member⟩
    | cons next texts =>
      rw [List.intercalate_cons_cons, List.append_assoc, List.singleton_append] at member
      rcases List.mem_append.1 member with here | behind
      · exact ⟨text, List.mem_cons_self, here⟩
      · obtain ⟨found, listed, within⟩ := ih ((List.mem_cons.1 behind).resolve_left other)
        exact ⟨found, List.mem_cons_of_mem _ listed, within⟩

theorem Text.dropWhile_of_kept {drops : Char → Bool} {text : List Char}
    (kept : ∀ c ∈ text, drops c = false) : text.dropWhile drops = text := by
  rw [List.dropWhile_eq_self_iff]
  intro some_char
  rw [kept _ (List.getElem_mem some_char)]
  exact Bool.false_ne_true

theorem Text.dropEndWhile_append {drops : Char → Bool} {text ending : List Char}
    (kept : ∀ c ∈ text, drops c = false) (dropped : ∀ c ∈ ending, drops c) :
    dropEndWhile drops (text ++ ending) = text := by
  have all : ∀ c ∈ ending.reverse, drops c := fun c member =>
    dropped c (List.mem_reverse.1 member)
  have none : text.reverse.dropWhile drops = text.reverse :=
    dropWhile_of_kept fun c member => kept c (List.mem_reverse.1 member)
  rw [dropEndWhile, List.reverse_append, List.dropWhile_append_of_pos all, none,
    List.reverse_reverse]

end ClusterProxy
