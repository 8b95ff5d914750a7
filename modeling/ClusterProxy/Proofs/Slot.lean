import ClusterProxy.Proofs.Text.Words
import ClusterProxy.Slot
import Mathlib.Algebra.CharP.Two
import Mathlib.Algebra.Field.ZMod
import Mathlib.Algebra.Polynomial.Div
import Mathlib.Tactic.ComputeDegree
import Mathlib.Tactic.LinearCombination
import Mathlib.Tactic.Ring

/-!
# The slot of a key

`Slot.Tagged` says what the tag of a key is, and `Slot.Part` what counts of a key: its tag, or all
of it if it has none. That is what is hashed (`Slot.part_hashed`), and there is no tag in it.

The checksum is the remainder of a division of polynomials over the field of two elements. What is
divided is said by the numbers of the octets alone (`Slot.message`): an octet is the polynomial
whose coefficients are the binary digits of its number, and the first octet has the highest
degrees.

The invariant is that a remainder and the bits still to come stand for the same polynomial, up to a
multiple of the divisor (`Slot.dvd_foldl_feed`); taking a bit in keeps it (`Slot.ofWord_feed`). The
bits of all octets in order stand for the message (`Slot.polynomial_flatMap_bits`).
`Slot.ofKey_remainder` puts the two together.
-/

namespace ClusterProxy.Slot

/-! ## Tags -/

/-- A key with a tag: what is in front of its first opening brace, the tag, which goes up to the
next closing brace and is not empty, and what is behind that brace. -/
structure Tagged (key before tag after : Bytes) : Prop where
  split : key = before ++ tagOpen :: (tag ++ tagClose :: after)
  first : tagOpen ∉ before
  next : tagClose ∉ tag
  some_octet : tag ≠ []

/-- What counts of a key: its tag, or all of it if it has none. -/
inductive Part (key : Bytes) : Bytes → Prop where
  | tag {before tag after : Bytes} : Tagged key before tag after → Part key tag
  | whole : (∀ before tag after, ¬ Tagged key before tag after) → Part key key

section

variable {key before tag after : Bytes} (tagged : Tagged key before tag after)
include tagged

theorem hashed_of_tagged : hashed key = tag := by
  have some_octet : tag.isEmpty = false := List.isEmpty_eq_false_iff.2 tagged.some_octet
  rw [hashed, tagged.split, Bytes.dropWhile_append_of_not_mem _ tagged.first]
  dsimp only
  rw [Bytes.takeWhile_append_of_not_mem _ tagged.next, some_octet, if_neg]
  simp

theorem Tagged.unique {front other back : Bytes} (again : Tagged key front other back) :
    before = front ∧ tag = other ∧ after = back := by
  obtain rfl : tag = other := (hashed_of_tagged tagged).symm.trans (hashed_of_tagged again)
  obtain rfl : before = front := by
    rw [← Bytes.takeWhile_append_of_not_mem (tag ++ tagClose :: after) tagged.first, ← tagged.split,
      again.split, Bytes.takeWhile_append_of_not_mem _ again.first]
  refine ⟨rfl, rfl, ?_⟩
  have same := tagged.split.symm.trans again.split
  simpa using same

end

theorem hashed_of_untagged {key : Bytes}
    (untagged : ∀ before tag after, ¬ Tagged key before tag after) : hashed key = key := by
  unfold hashed
  split
  · rfl
  · next b rest behind =>
    have split := Bytes.cut_at_mark behind
    dsimp only
    split
    · rfl
    · next tagged =>
      rw [Bool.or_eq_true, List.isEmpty_iff, beq_iff_eq, not_or] at tagged
      obtain ⟨some_octet, closed⟩ := tagged
      cases closes : rest.dropWhile fun b => b != tagClose with
      | nil =>
        rw [List.dropWhile_eq_nil_iff, ← List.takeWhile_eq_self_iff] at closes
        exact absurd (congrArg List.length closes) closed
      | cons c after =>
        rw [Bytes.cut_at_mark closes] at split
        exact absurd ⟨split, Bytes.not_mem_takeWhile _ _, Bytes.not_mem_takeWhile _ _, some_octet⟩
          (untagged _ _ _)

/-- What is hashed of a key is what counts of it. -/
theorem part_hashed (key : Bytes) : Part key (hashed key) := by
  by_cases tagged : ∃ before tag after, Tagged key before tag after
  · obtain ⟨before, tag, after, tagged⟩ := tagged
    rw [hashed_of_tagged tagged]
    exact .tag tagged
  · have untagged : ∀ before tag after, ¬ Tagged key before tag after :=
      fun before tag after here => tagged ⟨before, tag, after, here⟩
    rw [hashed_of_untagged untagged]
    exact .whole untagged

theorem Part.eq_hashed {key part : Bytes} (counts : Part key part) : part = hashed key := by
  cases counts with
  | tag tagged => exact (hashed_of_tagged tagged).symm
  | whole untagged => exact (hashed_of_untagged untagged).symm

/-- There is no tag in a tag. -/
theorem hashed_of_part {key part : Bytes} (counts : Part key part) : hashed part = part := by
  cases counts with
  | tag tagged =>
    refine hashed_of_untagged fun front other back again => tagged.next ?_
    rw [again.split]
    simp
  | whole untagged => exact hashed_of_untagged untagged

/-! ## The checksum -/

open Polynomial

/-- A bit as a coefficient. -/
def coefficient (bit : Bool) : ZMod 2 := if bit then 1 else 0

/-- The polynomial of a sequence of bits, whose first bit has the highest degree. -/
noncomputable def polynomial : List Bool → (ZMod 2)[X]
  | [] => 0
  | bit :: rest => C (coefficient bit) * X ^ rest.length + polynomial rest

/-- The polynomial by which is divided. -/
noncomputable def divisor : (ZMod 2)[X] := X ^ 16 + X ^ 12 + X ^ 5 + 1

/-- The polynomial of a remainder, whose lowest bit is the constant term. -/
noncomputable def ofWord (word : UInt16) : (ZMod 2)[X] :=
  ∑ place ∈ Finset.range 16, C (coefficient (word.toNat.testBit place)) * X ^ place

theorem monic_divisor : divisor.Monic := by
  unfold divisor
  monicity!

theorem degree_divisor : divisor.degree = 16 := by
  unfold divisor
  compute_degree!

theorem testBit_toNat_of_le {word : UInt16} {place : Nat} (past : 16 ≤ place) :
    word.toNat.testBit place = false :=
  Nat.testBit_lt_two_pow (word.toNat_lt.trans_le (Nat.pow_le_pow_right (by decide) past))

theorem coeff_ofWord (word : UInt16) (place : Nat) :
    (ofWord word).coeff place = coefficient (word.toNat.testBit place) := by
  simp only [ofWord, finsetSum_coeff, coeff_C_mul, coeff_X_pow, mul_ite, mul_one, mul_zero,
    Finset.sum_ite_eq, Finset.mem_range]
  split
  · rfl
  · next past => rw [testBit_toNat_of_le (Nat.le_of_not_lt past)]; rfl

theorem degree_ofWord_lt (word : UInt16) : (ofWord word).degree < divisor.degree := by
  rw [degree_divisor]
  refine (degree_lt_iff_coeff_zero _ 16).2 fun place past => ?_
  rw [coeff_ofWord, testBit_toNat_of_le past]
  rfl

theorem coefficient_eq_one_iff {bit : Bool} : coefficient bit = 1 ↔ bit = true := by
  cases bit <;> decide

theorem coefficient_xor (a b : Bool) : coefficient (a ^^ b) = coefficient a + coefficient b := by
  cases a <;> cases b <;> decide

theorem ofWord_xor (a b : UInt16) : ofWord (a ^^^ b) = ofWord a + ofWord b := by
  ext place
  rw [coeff_add, coeff_ofWord, coeff_ofWord, coeff_ofWord, UInt16.toNat_xor, Nat.testBit_xor,
    coefficient_xor]

theorem leads_eq_testBit (word : UInt16) : leads word = word.toNat.testBit 15 := by
  have small := word.toNat_lt
  rw [leads, Nat.testBit_eq_decide_div_mod_eq, decide_eq_decide, UInt16.le_iff_toNat_le]
  change 32768 ≤ word.toNat ↔ _
  omega

theorem testBit_shiftLeft (word : UInt16) (place : Nat) :
    (word <<< 1).toNat.testBit (place + 1) = (decide (place < 15) && word.toNat.testBit place) := by
  have inside : place + 1 < 16 ↔ place < 15 := by omega
  rw [UInt16.toNat_shiftLeft, show (1 : UInt16).toNat % 16 = 1 from rfl, Nat.testBit_mod_two_pow,
    Nat.testBit_shiftLeft, decide_eq_true (Nat.le_add_left 1 place), Nat.add_sub_cancel,
    Bool.true_and, decide_eq_decide.2 inside]

/-- What a shift pushes out is the leading term. -/
theorem ofWord_shiftLeft (word : UInt16) :
    ofWord (word <<< 1) = ofWord word * X + C (coefficient (leads word)) * X ^ 16 := by
  ext place
  rw [coeff_add, coeff_ofWord, leads_eq_testBit, coeff_C_mul, coeff_X_pow]
  cases place with
  | zero => simp [coefficient]
  | succ place =>
    rw [coeff_mul_X, coeff_ofWord, testBit_shiftLeft]
    rcases Nat.lt_trichotomy place 15 with inside | rfl | past
    · rw [decide_eq_true inside, Bool.true_and, if_neg (by omega), mul_zero, add_zero]
    · rw [if_pos rfl, mul_one, CharTwo.add_self_eq_zero]
      rfl
    · rw [decide_eq_false (by omega), Bool.false_and, if_neg (by omega), mul_zero, add_zero,
        testBit_toNat_of_le past]

theorem ofWord_generator : ofWord generator + X ^ 16 = divisor := by
  have terms : ofWord generator = 1 + X ^ 5 + X ^ 12 := by
    simp [ofWord, Finset.sum_range_succ, coefficient, generator, Nat.testBit_eq_decide_div_mod_eq]
  rw [terms, divisor]
  ring

/-- A bit is taken into the remainder by multiplying with X, adding the bit at degree 16, and taking
the divisor off if that leaves a term of degree 16. -/
theorem ofWord_feed (word : UInt16) (bit : Bool) :
    ofWord (feed word bit) = ofWord word * X + C (coefficient bit) * X ^ 16 +
      C (coefficient (leads word ^^ bit)) * divisor := by
  have taken : ofWord (feed word bit) =
      ofWord (word <<< 1) + C (coefficient (leads word ^^ bit)) * ofWord generator := by
    unfold feed
    cases leads word ^^ bit
    · simp [coefficient]
    · simp [coefficient, ofWord_xor]
  have twice : C (coefficient bit) * X ^ 16 + C (coefficient bit) * X ^ 16 = 0 :=
    CharTwo.add_self_eq_zero _
  rw [taken, ofWord_shiftLeft, ← ofWord_generator, coefficient_xor, C_add]
  linear_combination -twice

theorem dvd_foldl_feed (word : UInt16) (bits : List Bool) :
    divisor ∣ ofWord (bits.foldl feed word) -
      (ofWord word * X ^ bits.length + polynomial bits * X ^ 16) := by
  induction bits generalizing word with
  | nil => simp [polynomial]
  | cons bit rest ih =>
    have step : ofWord ((bit :: rest).foldl feed word) - (ofWord word * X ^ (bit :: rest).length +
        polynomial (bit :: rest) * X ^ 16) =
      (ofWord (rest.foldl feed (feed word bit)) - (ofWord (feed word bit) * X ^ rest.length +
        polynomial rest * X ^ 16)) +
        divisor * (C (coefficient (leads word ^^ bit)) * X ^ rest.length) := by
      rw [List.foldl_cons, polynomial, List.length_cons, ofWord_feed]
      ring
    rw [step]
    exact dvd_add (ih _) (Dvd.intro _ rfl)

/-- The polynomial of an octet: its number in binary, whose last digit is the constant term. -/
noncomputable def octet (b : UInt8) : (ZMod 2)[X] :=
  ∑ place ∈ Finset.range 8, C (coefficient (b.toNat.testBit place)) * X ^ place

/-- The polynomial of a byte string, whose first octet has the highest degrees. -/
noncomputable def message : Bytes → (ZMod 2)[X]
  | [] => 0
  | b :: rest => octet b * X ^ (8 * rest.length) + message rest

theorem length_bits (b : UInt8) : (bits b).length = 8 := rfl

/-- The bits of an octet are the digits of its number, the one with the highest value first. -/
theorem polynomial_bits (b : UInt8) : polynomial (bits b) = octet b := by
  simp only [bits, List.map_cons, List.map_nil, polynomial, List.length_cons, List.length_nil,
    octet, Finset.sum_range_succ, Finset.sum_range_zero]
  ring

theorem polynomial_append (front back : List Bool) :
    polynomial (front ++ back) = polynomial front * X ^ back.length + polynomial back := by
  induction front with
  | nil => simp [polynomial]
  | cons bit rest ih =>
    rw [List.cons_append, polynomial, polynomial, ih, List.length_append, pow_add]
    ring

theorem polynomial_flatMap_bits (bytes : Bytes) :
    polynomial (bytes.flatMap bits) = message bytes := by
  induction bytes with
  | nil => rfl
  | cons b rest ih =>
    have length : (rest.flatMap bits).length = 8 * rest.length := by
      simp [List.length_flatMap, length_bits, mul_comm]
    rw [List.flatMap_cons, polynomial_append, polynomial_bits, ih, length, message]

/-- The remainder of a byte string. -/
noncomputable def remainder (bytes : Bytes) : (ZMod 2)[X] := (message bytes * X ^ 16) %ₘ divisor

theorem ofWord_checksum (bytes : Bytes) : ofWord (checksum bytes) = remainder bytes := by
  have divides := dvd_foldl_feed 0 (bytes.flatMap bits)
  have zero : ofWord 0 = 0 := by simp [ofWord, coefficient]
  rw [← checksum_eq_foldl_bits, zero, zero_mul, zero_add, polynomial_flatMap_bits] at divides
  rw [remainder, ← modByMonic_eq_of_dvd_sub monic_divisor divides]
  exact ((modByMonic_eq_self_iff monic_divisor).2 (degree_ofWord_lt _)).symm

/-- The check value of this checksum. -/
example : checksum (Text.utf8 "123456789") = 0x31C3 := by decide +kernel

/-- The slot of a key is that of its tag.

* What is hashed of a key is its tag, or all of it if it has none. A key has a tag in one way only.
* The slot is the low fourteen bits of the remainder of what is hashed.
* What is hashed is hashed as a whole, so it has the slot of the key, and keys with the same tag
  have the same slot, whatever is around it. -/
theorem ofKey_remainder (key : Bytes) :
    (∀ part, Part key part ↔ part = hashed key) ∧
      (∀ before tag after front other back, Tagged key before tag after →
        Tagged key front other back → before = front ∧ tag = other ∧ after = back) ∧
      (∀ place, (ofKey key).testBit place ↔
        place < 14 ∧ (remainder (hashed key)).coeff place = 1) ∧
      hashed (hashed key) = hashed key ∧ ofKey (hashed key) = ofKey key ∧
      ∀ other before tag after front back, Tagged key before tag after →
        Tagged other front tag back → ofKey other = ofKey key := by
  have again := hashed_of_part (part_hashed key)
  refine ⟨fun part => ⟨Part.eq_hashed, ?_⟩, fun _ _ _ _ _ _ tagged => tagged.unique,
    fun place => ?_, again, ?_, ?_⟩
  · rintro rfl
    exact part_hashed key
  · rw [← ofWord_checksum, coeff_ofWord, coefficient_eq_one_iff, ofKey,
      show count = 2 ^ 14 from rfl, Nat.testBit_mod_two_pow, Bool.and_eq_true, decide_eq_true_eq]
  · rw [ofKey, again, ofKey]
  · intro other before tag after front back tagged same
    rw [ofKey, ofKey, hashed_of_tagged tagged, hashed_of_tagged same]

namespace Sample

/-- A key whose tag begins with a brace. -/
def nested : Bytes := Text.utf8 "foo\x7b\x7bbar\x7d\x7dzap"

/-- Another key with this tag. -/
def leading : Bytes := Text.utf8 "\x7b\x7bbar\x7d\x7bzip"

def tag : Bytes := Text.utf8 "\x7bbar"

end Sample

/-- Two keys with the same tag, and with other things around it. Their slot is read off the
remainder of the tag. -/
theorem ofKey_remainder_nested :
    Tagged Sample.nested (Text.utf8 "foo") Sample.tag (Text.utf8 "\x7dzap") ∧
      Tagged Sample.leading [] Sample.tag (Text.utf8 "\x7bzip") ∧
      ofKey Sample.nested = 4015 ∧ ofKey Sample.leading = 4015 ∧
      ∀ place, Nat.testBit 4015 place ↔ place < 14 ∧ (remainder Sample.tag).coeff place = 1 := by
  have first : Tagged Sample.nested (Text.utf8 "foo") Sample.tag (Text.utf8 "\x7dzap") :=
    ⟨by decide, by decide, by decide, by decide⟩
  have second : Tagged Sample.leading [] Sample.tag (Text.utf8 "\x7bzip") :=
    ⟨by decide, by decide, by decide, by decide⟩
  have slot : ofKey Sample.nested = 4015 := by decide +kernel
  obtain ⟨-, -, digits, -, -, alike⟩ := ofKey_remainder Sample.nested
  rw [slot, hashed_of_tagged first] at digits
  exact ⟨first, second, slot, (alike _ _ _ _ _ _ first second).trans slot, digits⟩

end ClusterProxy.Slot
