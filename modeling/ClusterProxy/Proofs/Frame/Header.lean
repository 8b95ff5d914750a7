import ClusterProxy.Proofs.Frame.Extent

/-!
# Declared lengths

`Frame.Header` says which octets declare a length, and which one. `Frame.readLength` reads such
octets wherever they stand (`Frame.Header.readLength`) and no others (`Frame.header_of_readLength`).
-/

namespace ClusterProxy.Frame

/-- The number that a digit makes behind another number. -/
def grow (value : Nat) (b : UInt8) : Nat := value * 10 + Bytes.digitValue b

/-- Octets that write a number which can be declared, in decimal. Leading zeros are allowed. -/
structure Numeral (digits : Bytes) (value : Nat) : Prop where
  some_digits : digits ≠ []
  digit : ∀ b ∈ digits, Bytes.isDigit b
  stands : digits.foldl grow 0 = value
  small : value ≤ maxLength

/-- The octets between the mark of a bulk or an array and its body, and the length they declare. The
length is none for null, and zero may have a sign. -/
inductive Header : Bytes → Option Nat → Prop where
  | plain {digits : Bytes} {length : Nat} :
      Numeral digits length → Header (digits ++ Bytes.crlf) (some length)
  | null {digits : Bytes} :
      Numeral digits 1 → Header (Bytes.minus :: digits ++ Bytes.crlf) none
  | minusZero {digits : Bytes} :
      Numeral digits 0 → Header (Bytes.minus :: digits ++ Bytes.crlf) (some 0)

theorem le_foldl_grow (digits : Bytes) (value : Nat) : value ≤ digits.foldl grow value := by
  induction digits generalizing value with
  | nil => exact Nat.le_refl _
  | cons b digits ih =>
    rw [List.foldl_cons]
    exact Nat.le_trans (by unfold grow; omega) (ih _)

/-- Digits in front of a line end are read to their end exactly if they are digits and write a
number that is not too large. -/
theorem readDigits_eq_some_iff {digits : Bytes} {value offset number : Nat}
    (start : value ≤ maxLength) :
    readDigits value offset (digits ++ [Bytes.cr]) =
        some (number, ⟨offset + digits.length, [Bytes.cr]⟩) ↔
      (∀ b ∈ digits, Bytes.isDigit b) ∧ digits.foldl grow value = number ∧ number ≤ maxLength := by
  induction digits generalizing value offset with
  | nil =>
    have returns : Bytes.isDigit Bytes.cr = false := by decide
    simp only [List.nil_append, readDigits, returns, Bool.false_eq_true, if_false, List.length_nil,
      Nat.add_zero, Option.some.injEq, Prod.mk.injEq, and_true, List.not_mem_nil, false_implies,
      implies_true, List.foldl_nil, true_and]
    constructor
    · rintro rfl
      exact ⟨rfl, start⟩
    · exact fun same => same.1
  | cons b digits ih =>
    rw [List.cons_append, List.length_cons, List.foldl_cons, List.forall_mem_cons]
    by_cases digit : Bytes.isDigit b
    · by_cases fits : value * 10 + Bytes.digitValue b ≤ maxLength
      · have step := @ih (grow value b) (offset + 1) fits
        rw [Nat.add_assoc, Nat.add_comm 1] at step
        simp only [readDigits, digit, fits, if_true, true_and]
        exact step
      · simp only [readDigits, digit, fits, if_true, if_false, reduceCtorEq, true_and, false_iff]
        rintro ⟨_, rfl, small⟩
        exact fits (Nat.le_trans (le_foldl_grow digits (grow value b)) small)
    · simp [readDigits, digit]

theorem header_of_readLength {cursor next : Cursor} {length : Option Nat}
    (read : readLength cursor = .complete (length, next)) :
    ∃ header, Header header length ∧ cursor.rest = header ++ next.rest ∧
      next.offset = cursor.offset + header.length := by
  obtain ⟨offset, rest⟩ := cursor
  rw [readLength_eq] at read
  obtain ⟨digits, number, cut, reached, some_digits, digitsRead, small, declared⟩ :=
    readMagnitude_complete read
  obtain ⟨digit, stands, fits⟩ := (readDigits_eq_some_iff (Nat.zero_le _)).1 digitsRead
  have numeral : Numeral digits number := ⟨some_digits, digit, stands, fits⟩
  -- A sign stands in front of the digits and is none of them.
  by_cases negative : rest.head? = some Bytes.minus
  · obtain ⟨tail, rfl⟩ : ∃ tail, rest = Bytes.minus :: tail := by cases rest <;> simp_all
    simp only [negative, if_true, Cursor.skip, List.drop_one, List.tail_cons] at cut reached
    simp only [negative, true_and, Nat.not_lt] at small declared
    refine ⟨Bytes.minus :: digits ++ Bytes.crlf, ?_, by simp [cut], ?_⟩
    · rcases Nat.le_one_iff_eq_zero_or_eq_one.1 small with rfl | rfl
      · rw [declared]
        exact .minusZero numeral
      · rw [declared]
        exact .null numeral
    · rw [reached]
      simp [Bytes.crlf]
      omega
  · simp only [negative, if_false, false_and] at cut reached declared
    refine ⟨digits ++ Bytes.crlf, ?_, cut, ?_⟩
    · rw [declared]
      exact .plain numeral
    · rw [reached]
      simp [Bytes.crlf]
      omega

namespace Numeral

variable {digits : Bytes} {value : Nat} (numeral : Numeral digits value)
include numeral

theorem readMagnitude {negative : Prop} [Decidable negative] (small : ¬ (negative ∧ 1 < value))
    (offset : Nat) (more : Bytes) :
    readMagnitude negative ⟨offset, digits ++ Bytes.crlf ++ more⟩ =
      .complete (if negative ∧ value = 1 then none else some value,
        ⟨offset + digits.length + 2, more⟩) :=
  readMagnitude_digits numeral.some_digits ((readDigits_eq_some_iff (Nat.zero_le _)).2
    ⟨numeral.digit, numeral.stands, numeral.small⟩) small more

theorem head?_ne (more : Bytes) : (digits ++ more).head? ≠ some Bytes.minus := by
  obtain ⟨some_digits, digit, _, _⟩ := numeral
  cases digits with
  | nil => exact absurd rfl some_digits
  | cons b digits =>
    have first := digit b List.mem_cons_self
    rintro ⟨⟩
    exact absurd first (by decide)

/-- A number without a sign is read as it stands. -/
theorem readLength (offset : Nat) (more : Bytes) :
    readLength ⟨offset, digits ++ Bytes.crlf ++ more⟩ =
      .complete (some value, ⟨offset + digits.length + 2, more⟩) := by
  have unsigned : (digits ++ Bytes.crlf ++ more).head? ≠ some Bytes.minus := by
    rw [List.append_assoc]
    exact numeral.head?_ne _
  rw [readLength_eq, if_neg unsigned, numeral.readMagnitude fun signed => unsigned signed.1,
    if_neg fun signed => unsigned signed.1]

/-- A number behind a sign is read if it is one, which stands for null, or zero. -/
theorem readLength_minus (small : value ≤ 1) (offset : Nat) (more : Bytes) :
    Frame.readLength ⟨offset, Bytes.minus :: digits ++ Bytes.crlf ++ more⟩ =
      .complete (if value = 1 then none else some value,
        ⟨offset + 1 + digits.length + 2, more⟩) := by
  have read := @readMagnitude _ _ numeral True _ (by simpa using small) (offset + 1) more
  simp only [true_and] at read
  rw [← read, readLength_eq]
  simp [Cursor.skip]

end Numeral

/-- A header is read as what it declares, wherever it stands. -/
theorem Header.readLength {header : Bytes} {length : Option Nat} (declares : Header header length)
    (offset : Nat) (more : Bytes) :
    readLength ⟨offset, header ++ more⟩ = .complete (length, ⟨offset + header.length, more⟩) := by
  cases declares with
  | plain numeral =>
    rw [numeral.readLength, List.length_append]
    rfl
  | null numeral =>
    rw [numeral.readLength_minus (Nat.le_refl 1), if_pos rfl]
    simp [Bytes.crlf]
    omega
  | minusZero numeral =>
    rw [numeral.readLength_minus (Nat.zero_le 1), if_neg Nat.zero_ne_one]
    simp [Bytes.crlf]
    omega

theorem Header.three_le_length {header : Bytes} {length : Option Nat}
    (declares : Header header length) : 3 ≤ header.length := by
  have nonempty {digits : Bytes} {value : Nat} (numeral : Numeral digits value) :
      0 < digits.length := List.length_pos_iff.2 numeral.some_digits
  cases declares with
  | plain numeral => have := nonempty numeral; simp [Bytes.crlf]; omega
  | null numeral => simp [Bytes.crlf]
  | minusZero numeral => simp [Bytes.crlf]

end ClusterProxy.Frame
