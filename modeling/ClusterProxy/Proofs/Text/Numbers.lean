import ClusterProxy.Proofs.Frame.Header
import ClusterProxy.Proofs.Text.Utf8
import ClusterProxy.Text.Digits
import Mathlib.Data.List.Basic

/-!
# Numbers that arrive as octets

`Bytes.Writes` says which octets write a number in decimal. They are read as that number, if it is
below the bound, and no other octets are read as a number (`Text.decimal?_utf8_iff`): octets that
are no text write none, and neither does a text with anything but digits behind its sign. A number
that is printed is one of those that are read as it (`Bytes.writes_toString`), without leading zeros
(`Text.toString_of_head?_eq_zero`).
-/

namespace ClusterProxy

/-- The sign that may stand in front of a number. -/
def Bytes.plus : UInt8 := 43

/-- The octets write a number: one or more decimal digits, behind a sign or not. -/
def Bytes.Writes (octets : Bytes) (n : Nat) : Prop :=
  ∃ digits, (octets = digits ∨ octets = plus :: digits) ∧ digits ≠ [] ∧
    (∀ b ∈ digits, isDigit b) ∧ digits.foldl Frame.grow 0 = n

namespace Text

/-! ## Numbers in text -/

theorem digitsBelow?_eq_some_iff {bound n : Nat} {text : List Char} :
    digitsBelow? bound text = some n ↔ text ≠ [] ∧ (∀ c ∈ text, c.isDigit) ∧
      Nat.ofDigitChars 10 text 0 = n ∧ n < bound := by
  rw [digitsBelow?_eq_filter, Option.filter_eq_some_iff, digits?, decide_eq_true_eq]
  split
  · next wrong =>
    rw [Bool.or_eq_true, List.isEmpty_iff, Bool.not_eq_true', List.all_eq_false] at wrong
    constructor
    · simp
    · rintro ⟨some_digit, digits, _⟩
      obtain ⟨c, member, other⟩ := wrong.resolve_left some_digit
      exact absurd (digits c member) other
  · next right =>
    rw [Bool.or_eq_true, not_or, List.isEmpty_iff, Bool.not_eq_true', Bool.not_eq_false,
      List.all_eq_true] at right
    rw [Option.some.injEq]
    exact ⟨fun read => ⟨right.1, right.2, read⟩, fun read => read.2.2⟩

theorem decimal?_eq_some_iff {bound n : Nat} {text : List Char} :
    decimal? bound text = some n ↔
      ∃ digits, (text = digits ∨ text = '+' :: digits) ∧ digits ≠ [] ∧
        (∀ c ∈ digits, c.isDigit) ∧ Nat.ofDigitChars 10 digits 0 = n ∧ n < bound := by
  unfold decimal?
  split
  · next rest =>
    rw [digitsBelow?_eq_some_iff]
    constructor
    · exact fun read => ⟨rest, .inr rfl, read⟩
    · rintro ⟨digits, rfl | same, read⟩
      · exact absurd (read.2.1 '+' List.mem_cons_self) (by decide)
      · obtain rfl := List.cons.inj same |>.2
        exact read
  · next unsigned =>
    rw [digitsBelow?_eq_some_iff]
    constructor
    · exact fun read => ⟨text, .inl rfl, read⟩
    · rintro ⟨digits, rfl | same, read⟩
      · exact read
      · exact absurd same (unsigned digits)

/-! ## Digits as octets -/

/-- A digit is one octet, which stands for the same number. -/
theorem utf8EncodeChar_digit {c : Char} (digit : c.isDigit) :
    ∃ b, String.utf8EncodeChar c = [b] ∧ Bytes.isDigit b ∧ Bytes.digitValue b = c.toNat - 48 := by
  have bounds : 48 ≤ c.toNat ∧ c.toNat ≤ 57 := by
    simpa [Char.isDigit, UInt32.le_iff_toNat_le] using digit
  have octet : c.toNat < 256 := by omega
  refine ⟨UInt8.ofNat c.toNat, utf8EncodeChar_ascii (by omega), ?_, ?_⟩
  · simpa [Bytes.isDigit, Utf8.le_octet octet, Utf8.octet_le octet] using bounds
  · rw [Bytes.digitValue, Utf8.toNat_octet octet]

/-- An octet that is a digit stands for the same number as its character. -/
theorem exists_digit {b : UInt8} (digit : Bytes.isDigit b) :
    ∃ c : Char, c.isDigit ∧ String.utf8EncodeChar c = [b] := by
  have bounds : 48 ≤ b.toNat ∧ b.toNat ≤ 57 := by
    simpa [Bytes.isDigit, UInt8.le_iff_toNat_le] using digit
  have valid : b.toNat.isValidChar := .inl (by omega)
  refine ⟨Char.ofNat b.toNat, ?_, ?_⟩
  · rw [Char.isDigit_iff_toNat, Utf8.toNat_ofNat valid]
    exact bounds
  · rw [Utf8.utf8EncodeChar_ofNat valid, if_pos (by omega), UInt8.ofNat_toNat]

/-- Digits are written in as many octets, which write the same number. -/
theorem digits_octets {digits : List Char} (all : ∀ c ∈ digits, c.isDigit) (value : Nat) :
    (∀ b ∈ digits.flatMap String.utf8EncodeChar, Bytes.isDigit b) ∧
      (digits.flatMap String.utf8EncodeChar).foldl Frame.grow value =
        Nat.ofDigitChars 10 digits value := by
  induction digits generalizing value with
  | nil => simp
  | cons c digits ih =>
    obtain ⟨first, others⟩ := List.forall_mem_cons.1 all
    obtain ⟨b, octets, digit, same⟩ := utf8EncodeChar_digit first
    obtain ⟨later, stands⟩ := ih others (Frame.grow value b)
    rw [List.flatMap_cons, octets, List.singleton_append, List.forall_mem_cons, List.foldl_cons,
      stands, Nat.ofDigitChars_cons, Frame.grow, same, Nat.mul_comm]
    exact ⟨⟨digit, later⟩, rfl⟩

/-- Octets that are digits are those of digits. -/
theorem exists_digits {octets : Bytes} (all : ∀ b ∈ octets, Bytes.isDigit b) :
    ∃ digits : List Char, (∀ c ∈ digits, c.isDigit) ∧
      digits.flatMap String.utf8EncodeChar = octets := by
  induction octets with
  | nil => exact ⟨[], by simp, rfl⟩
  | cons b octets ih =>
    obtain ⟨first, others⟩ := List.forall_mem_cons.1 all
    obtain ⟨c, digit, octet⟩ := exists_digit first
    obtain ⟨digits, later, same⟩ := ih others
    refine ⟨c :: digits, List.forall_mem_cons.2 ⟨digit, later⟩, ?_⟩
    rw [List.flatMap_cons, octet, same, List.singleton_append]

/-- The octets that are read as a number are those that write it. -/
theorem decimal?_utf8_iff {bound n : Nat} {octets : Bytes} :
    ((ofUtf8? octets).bind fun text => decimal? bound text.toList) = some n ↔
      octets.Writes n ∧ n < bound := by
  have sign : String.utf8EncodeChar '+' = [Bytes.plus] := by decide
  simp only [Option.bind_eq_some_iff, ofUtf8?_eq_some_iff, decimal?_eq_some_iff]
  constructor
  · rintro ⟨text, rfl, digits, form, some_digit, all, stands, small⟩
    obtain ⟨octets, value⟩ := digits_octets all 0
    refine ⟨⟨digits.flatMap String.utf8EncodeChar, ?_, ?_, octets, value.trans stands⟩, small⟩
    · unfold utf8
      rcases form with form | form
      · exact .inl (by rw [form])
      · exact .inr (by rw [form, List.flatMap_cons, sign, List.singleton_append])
    · obtain ⟨c, rest, rfl⟩ := List.exists_cons_of_ne_nil some_digit
      simp [String.utf8EncodeChar_ne_nil]
  · rintro ⟨⟨digits, form, some_digit, all, stands⟩, small⟩
    obtain ⟨chars, digit, rfl⟩ := exists_digits all
    obtain ⟨_, value⟩ := digits_octets digit 0
    have some_char : chars ≠ [] := by
      rintro rfl
      exact some_digit rfl
    rcases form with rfl | rfl
    · exact ⟨String.ofList chars, by simp [utf8], chars, .inl (by simp), some_char, digit,
        value.symm.trans stands, small⟩
    · exact ⟨String.ofList ('+' :: chars), by simp [utf8, sign], chars, .inr (by simp), some_char,
        digit, value.symm.trans stands, small⟩

/-! ## Numbers that are printed -/

theorem isDigit_of_mem_toString {n : Nat} : ∀ c ∈ (toString n).toList, c.isDigit := by
  intro c member
  rw [Nat.toString_eq_ofList_toDigits, String.toList_ofList] at member
  exact Nat.isDigit_of_mem_toDigits (by decide) (by decide) member

theorem bne_of_mem_toString {mark : Char} (other : mark.isDigit = false) {n : Nat} :
    ∀ c ∈ (toString n).toList, (c != mark) = true := by
  intro c member
  rw [bne_iff_ne]
  rintro rfl
  exact absurd (isDigit_of_mem_toString _ member) (by simp [other])

theorem toList_toString_ne_nil (n : Nat) : (toString n).toList ≠ [] := by
  rw [Nat.toString_eq_ofList_toDigits, String.toList_ofList]
  exact Nat.toDigits_ne_nil

theorem ofDigitChars_toString (n : Nat) : Nat.ofDigitChars 10 (toString n).toList 0 = n := by
  rw [Nat.toString_eq_ofList_toDigits, String.toList_ofList, Nat.ofDigitChars_ten_toDigits]

/-- A number is read as it is written. -/
theorem decimal?_toString {bound n : Nat} (small : n < bound) :
    decimal? bound (toString n).toList = some n :=
  decimal?_eq_some_iff.2 ⟨_, .inl rfl, toList_toString_ne_nil n, isDigit_of_mem_toString,
    ofDigitChars_toString n, small⟩

theorem digitsBelow?_toString {bound n : Nat} (small : n < bound) :
    digitsBelow? bound (toString n).toList = some n :=
  digitsBelow?_eq_some_iff.2 ⟨toList_toString_ne_nil n, isDigit_of_mem_toString,
    ofDigitChars_toString n, small⟩

/-- A number is written without leading zeros. -/
theorem toString_of_head?_eq_zero {n : Nat} (zero : (toString n).toList.head? = some '0') :
    (toString n).toList = ['0'] := by
  have leads : n = 0 := by
    rw [Nat.toString_eq_ofList_toDigits, String.toList_ofList] at zero
    induction n using Nat.strongRecOn with
    | ind n ih =>
      rw [Nat.toDigits_eq_if (by decide)] at zero
      split at zero
      · next small =>
        have all : ∀ n ∈ List.range 10, [n.digitChar].head? = some '0' → n = 0 := by decide
        exact all n (List.mem_range.2 small) zero
      · -- The number without its last digit has the same first one.
        rw [List.head?_append_of_ne_nil _ Nat.toDigits_ne_nil] at zero
        have := ih (n / 10) (by omega) zero
        omega
  rw [leads]
  rfl

end Text

namespace Bytes

theorem writes_toString (n : Nat) : Writes (Text.utf8 (toString n)) n := by
  have read : ((Text.ofUtf8? (Text.utf8 (toString n))).bind
      fun text => Text.decimal? (n + 1) text.toList) = some n := by
    rw [Text.ofUtf8?_utf8]
    exact Text.decimal?_toString (Nat.lt_succ_self n)
  exact (Text.decimal?_utf8_iff.1 read).1

variable {octets : Bytes} {n : Nat} (writes : octets.Writes n)
include writes

theorem Writes.ne_nil : octets ≠ [] := by
  obtain ⟨digits, rfl | rfl, some_digit, _⟩ := writes
  · exact some_digit
  · exact List.cons_ne_nil _ _

theorem Writes.space_not_mem : space ∉ octets := by
  obtain ⟨digits, form, _, all, _⟩ := writes
  have others : space ∉ digits := fun member => absurd (all space member) (by decide)
  rcases form with rfl | rfl
  · exact others
  · exact fun member => (List.mem_cons.1 member).elim (by decide) others

end Bytes

end ClusterProxy
