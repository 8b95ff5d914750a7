import ClusterProxy.Text.Utf8
import Mathlib.Data.List.Induction

/-!
# Text that is written is read back

`Text.ofUtf8?_utf8` says that reading the octets of a text gives the text. The reader goes through
one character at a time, and takes each of the four forms of a character from the state between
characters back to it (`Utf8.Reader.foldl_step_utf8EncodeChar`).

No other octets are read as a text (`Text.ofUtf8?_eq_some_iff`). The invariant is
`Utf8.Reader.Holds`: as long as nothing was refused, the octets are those of the characters read,
and of a character under way that whatever may follow completes (`Utf8.Spells`).

An octet below 0x80 stands for itself wherever it occurs (`Text.mem_utf8_iff`), so line breaks and
spaces in the octets are line breaks and spaces of the text.
-/

namespace ClusterProxy

namespace Utf8

section

variable {k : UInt8} {n : Nat} (octet : n < 256)
include octet

theorem toNat_octet : (UInt8.ofNat n).toNat = n := by
  rw [UInt8.toNat_ofNat']
  omega

theorem le_octet : k ≤ UInt8.ofNat n ↔ k.toNat ≤ n := by
  rw [UInt8.le_iff_toNat_le, toNat_octet octet]

theorem octet_le : UInt8.ofNat n ≤ k ↔ n ≤ k.toNat := by
  rw [UInt8.le_iff_toNat_le, toNat_octet octet]

theorem octet_lt : UInt8.ofNat n < k ↔ n < k.toNat := by
  rw [UInt8.lt_iff_toNat_lt, toNat_octet octet]

theorem octet_eq : UInt8.ofNat n = k ↔ n = k.toNat := by
  rw [← UInt8.toNat_inj, toNat_octet octet]

end

namespace Reader

/-- Between characters, with these characters read. -/
def between (read : List Char) (clean : Bool) : Reader := ⟨read, none, clean⟩

theorem step_ascii {n : Nat} (ascii : n ≤ 0x7F) (read : List Char) (clean : Bool) :
    (between read clean).step (UInt8.ofNat n) = between (Char.ofNat n :: read) clean := by
  have octet : n < 256 := by omega
  have small : UInt8.ofNat n < 0x80 := (octet_lt octet).2 (by simp; omega)
  simp [step, between, lead, small, toNat_octet octet]

theorem step_lead {n : Nat} {p : Pending} (octet : n < 256) (large : 0x80 ≤ n)
    (announced : Pending.ofLead? (UInt8.ofNat n) = some p) (read : List Char) (clean : Bool) :
    (between read clean).step (UInt8.ofNat n) = ⟨read, some p, clean⟩ := by
  have notAscii : ¬ UInt8.ofNat n < 0x80 := by
    rw [octet_lt octet]
    simp
    omega
  simp [step, between, lead, notAscii, announced]

theorem step_more {n owed bits : Nat} {low high : UInt8} (octet : n < 256)
    (above : low.toNat ≤ n) (below : n ≤ high.toNat) (read : List Char) (clean : Bool) :
    step ⟨read, some ⟨low, high, owed + 1, bits⟩, clean⟩ (UInt8.ofNat n) =
      ⟨read, some ⟨0x80, 0xBF, owed, bits * 0x40 + n % 0x40⟩, clean⟩ := by
  simp [step, (le_octet octet).2 above, (octet_le octet).2 below, toNat_octet octet]

theorem step_last {n bits : Nat} {low high : UInt8} (octet : n < 256)
    (above : low.toNat ≤ n) (below : n ≤ high.toNat) (read : List Char) (clean : Bool) :
    step ⟨read, some ⟨low, high, 0, bits⟩, clean⟩ (UInt8.ofNat n) =
      between (Char.ofNat (bits * 0x40 + n % 0x40) :: read) clean := by
  simp [step, between, (le_octet octet).2 above, (octet_le octet).2 below, toNat_octet octet]

/-- The lead octet of a character announces the octets behind it, so that the next one is among
those that may follow. -/
theorem ofLead?_two {v : Nat} (low : 0x80 ≤ v) (high : v ≤ 0x7FF) :
    Pending.ofLead? (UInt8.ofNat (v / 64 % 0x20 + 0xC0)) = some ⟨0x80, 0xBF, 0, v / 64⟩ := by
  have octet : v / 64 % 0x20 + 0xC0 < 256 := by omega
  have inRange : 0xC2 ≤ UInt8.ofNat (v / 64 % 0x20 + 0xC0) ∧
      UInt8.ofNat (v / 64 % 0x20 + 0xC0) ≤ 0xDF := by
    rw [le_octet octet, octet_le octet]
    simp
    omega
  simp only [Pending.ofLead?, inRange, toNat_octet octet, Bool.and_eq_true, decide_true, and_self,
    if_true, Option.some.injEq, Pending.mk.injEq, true_and]
  omega

theorem ofLead?_three {v : Nat} (low : 0x800 ≤ v) (high : v ≤ 0xFFFF)
    (noSurrogate : v < 0xD800 ∨ 0xDFFF < v) :
    ∃ least most : UInt8, Pending.ofLead? (UInt8.ofNat (v / 4096 % 0x10 + 0xE0)) =
        some ⟨least, most, 1, v / 4096⟩ ∧
      least.toNat ≤ v / 64 % 0x40 + 0x80 ∧ v / 64 % 0x40 + 0x80 ≤ most.toNat := by
  have octet : v / 4096 % 0x10 + 0xE0 < 256 := by omega
  simp only [Pending.ofLead?, Bool.and_eq_true, decide_eq_true_eq, le_octet octet, octet_le octet,
    octet_eq octet, toNat_octet octet, UInt8.reduceToNat]
  rw [if_neg (by omega)]
  by_cases first : v / 4096 % 0x10 + 0xE0 = 0xE0
  · rw [if_pos first, show v / 4096 = 0 by omega]
    exact ⟨0xA0, 0xBF, rfl, by simp; omega, by simp; omega⟩
  rw [if_neg first]
  by_cases surrogates : v / 4096 % 0x10 + 0xE0 = 0xED
  · rw [if_pos surrogates, show v / 4096 = 0xD by omega]
    exact ⟨0x80, 0x9F, rfl, by simp, by simp; omega⟩
  rw [if_neg surrogates, if_pos (by omega),
    show (v / 4096 % 0x10 + 0xE0) % 0x10 = v / 4096 by omega]
  exact ⟨0x80, 0xBF, rfl, by simp, by simp; omega⟩

theorem ofLead?_four {v : Nat} (low : 0x10000 ≤ v) (high : v ≤ 0x10FFFF) :
    ∃ least most : UInt8, Pending.ofLead? (UInt8.ofNat (v / 262144 % 0x08 + 0xF0)) =
        some ⟨least, most, 2, v / 262144⟩ ∧
      least.toNat ≤ v / 4096 % 0x40 + 0x80 ∧ v / 4096 % 0x40 + 0x80 ≤ most.toNat := by
  have octet : v / 262144 % 0x08 + 0xF0 < 256 := by omega
  simp only [Pending.ofLead?, Bool.and_eq_true, decide_eq_true_eq, le_octet octet, octet_le octet,
    octet_eq octet, toNat_octet octet, UInt8.reduceToNat]
  rw [if_neg (by omega), if_neg (by omega), if_neg (by omega), if_neg (by omega)]
  by_cases first : v / 262144 % 0x08 + 0xF0 = 0xF0
  · rw [if_pos first, show v / 262144 = 0 by omega]
    exact ⟨0x90, 0xBF, rfl, by simp; omega, by simp; omega⟩
  rw [if_neg first]
  by_cases middle : 0xF1 ≤ v / 262144 % 0x08 + 0xF0 ∧ v / 262144 % 0x08 + 0xF0 ≤ 0xF3
  · rw [if_pos middle,
      show (v / 262144 % 0x08 + 0xF0) % 0x08 = v / 262144 by omega]
    exact ⟨0x80, 0xBF, rfl, by simp, by simp; omega⟩
  rw [if_neg middle, if_pos (by omega), show v / 262144 = 4 by omega]
  exact ⟨0x80, 0x8F, rfl, by simp, by simp; omega⟩

/-- The octets of a character are read as it. -/
theorem foldl_step_utf8EncodeChar (c : Char) (read : List Char) (clean : Bool) :
    (String.utf8EncodeChar c).foldl step (between read clean) = between (c :: read) clean := by
  have self : Char.ofNat c.val.toNat = c := Char.ofNat_toNat c
  have valid : c.val.toNat < 0xD800 ∨ 0xDFFF < c.val.toNat ∧ c.val.toNat < 0x110000 := c.valid
  unfold String.utf8EncodeChar
  generalize c.val.toNat = v at self valid
  dsimp only
  have tail (n : Nat) : n % 0x40 + 0x80 < 256 := by omega
  have tailLow (n : Nat) : (0x80 : UInt8).toNat ≤ n % 0x40 + 0x80 := by simp
  have tailHigh (n : Nat) : n % 0x40 + 0x80 ≤ (0xBF : UInt8).toNat := by simp; omega
  -- One case for each number of octets. Together they stand for the number they were cut from.
  split
  · next one => rw [List.foldl_cons, step_ascii one, self]; rfl
  split
  · next more two =>
    have value : v / 64 * 0x40 + (v % 0x40 + 0x80) % 0x40 = v := by omega
    rw [List.foldl_cons, List.foldl_cons,
      step_lead (by omega) (by omega) (ofLead?_two (by omega) two),
      step_last (tail v) (tailLow v) (tailHigh v), value, self]
    rfl
  split
  · next more two three =>
    obtain ⟨least, most, announced, above, below⟩ := ofLead?_three (by omega) three (by omega)
    have value : (v / 4096 * 0x40 + (v / 64 % 0x40 + 0x80) % 0x40) * 0x40 +
        (v % 0x40 + 0x80) % 0x40 = v := by omega
    rw [List.foldl_cons, List.foldl_cons, List.foldl_cons,
      step_lead (by omega) (by omega) announced, step_more (tail _) above below,
      step_last (tail v) (tailLow v) (tailHigh v), value, self]
    rfl
  · next more two three =>
    obtain ⟨least, most, announced, above, below⟩ :=
      ofLead?_four (v := v) (by omega) (by omega)
    have value : ((v / 262144 * 0x40 + (v / 4096 % 0x40 + 0x80) % 0x40) * 0x40 +
        (v / 64 % 0x40 + 0x80) % 0x40) * 0x40 + (v % 0x40 + 0x80) % 0x40 = v := by omega
    rw [List.foldl_cons, List.foldl_cons, List.foldl_cons, List.foldl_cons,
      step_lead (by omega) (by omega) announced, step_more (tail _) above below,
      step_more (tail _) (tailLow _) (tailHigh _),
      step_last (tail v) (tailLow v) (tailHigh v), value, self]
    rfl

theorem run_utf8 (text : String) : run (Text.utf8 text) = between text.toList.reverse true := by
  have readAll (chars read : List Char) :
      (chars.flatMap String.utf8EncodeChar).foldl step (between read true) =
        between (chars.reverse ++ read) true := by
    induction chars generalizing read with
    | nil => rfl
    | cons c chars ih =>
      rw [List.flatMap_cons, List.foldl_append, foldl_step_utf8EncodeChar, ih]
      simp
  have all := readAll text.toList []
  rw [List.append_nil] at all
  unfold run Text.utf8
  rw [show fresh = between [] true from rfl, all]
  rfl

end Reader

end Utf8

namespace Text

/-- The octets of a text are read as the text. -/
theorem ofUtf8?_utf8 (text : String) : ofUtf8? (utf8 text) = some text := by
  simp [ofUtf8?, Utf8.Reader.run_utf8, Utf8.Reader.between, Utf8.Reader.text]

/-- An octet below 0x80 is a character of its own. -/
theorem mem_utf8EncodeChar {b : UInt8} {c : Char} (ascii : b < 0x80)
    (member : b ∈ String.utf8EncodeChar c) : c.toNat = b.toNat := by
  have large {n : Nat} (octet : n < 256) (low : 0x80 ≤ n) : b ≠ UInt8.ofNat n := by
    rintro rfl
    rw [Utf8.octet_lt octet] at ascii
    simp at ascii
    omega
  unfold String.utf8EncodeChar at member
  rw [show c.val.toNat = c.toNat from rfl] at member
  generalize c.toNat = v at member
  have tail (n : Nat) : b ≠ UInt8.ofNat (n % 0x40 + 0x80) := large (by omega) (by omega)
  have lead2 : b ≠ UInt8.ofNat (v / 64 % 0x20 + 0xC0) := large (by omega) (by omega)
  have lead3 : b ≠ UInt8.ofNat (v / 4096 % 0x10 + 0xE0) := large (by omega) (by omega)
  have lead4 : b ≠ UInt8.ofNat (v / 262144 % 0x08 + 0xF0) := large (by omega) (by omega)
  dsimp only at member
  split at member
  · rw [List.mem_singleton] at member
    rw [member, Utf8.toNat_octet (by omega)]
  split at member
  · simp only [List.mem_cons, lead2, tail, List.not_mem_nil, or_self] at member
  split at member
  · simp only [List.mem_cons, lead3, tail, List.not_mem_nil, or_self] at member
  · simp only [List.mem_cons, lead4, tail, List.not_mem_nil, or_self] at member

theorem utf8EncodeChar_ascii {c : Char} (ascii : c.toNat ≤ 0x7F) :
    String.utf8EncodeChar c = [UInt8.ofNat c.toNat] := by
  unfold String.utf8EncodeChar
  exact if_pos ascii

/-- An ASCII character is among the octets of a text exactly if it is in the text. -/
theorem mem_utf8_iff {c : Char} (ascii : c.toNat ≤ 0x7F) {text : String} :
    UInt8.ofNat c.toNat ∈ utf8 text ↔ c ∈ text.toList := by
  have octet : c.toNat < 256 := by omega
  have small : UInt8.ofNat c.toNat < 0x80 := (Utf8.octet_lt octet).2 (Nat.lt_succ_of_le ascii)
  unfold utf8
  rw [List.mem_flatMap]
  constructor
  · rintro ⟨other, member, among⟩
    have same := mem_utf8EncodeChar small among
    rw [Utf8.toNat_octet octet] at same
    rwa [← Char.toNat_inj.1 same]
  · intro member
    exact ⟨c, member, by rw [utf8EncodeChar_ascii ascii]; exact List.mem_singleton_self _⟩

end Text

namespace Utf8

/-! ## Nothing else is read -/

theorem ofNat_eq_of_toNat {b : UInt8} {n : Nat} (same : n = b.toNat) : UInt8.ofNat n = b := by
  rw [same, UInt8.ofNat_toNat]

theorem toNat_ofNat {v : Nat} (valid : v.isValidChar) : (Char.ofNat v).toNat = v := by
  rw [Char.ofNat, dif_pos valid]
  rfl

/-- The octets of the character of a number, by the size of the number. -/
theorem utf8EncodeChar_ofNat {v : Nat} (valid : v.isValidChar) :
    String.utf8EncodeChar (Char.ofNat v) =
      if v ≤ 0x7F then [UInt8.ofNat v]
      else if v ≤ 0x7FF then
        [UInt8.ofNat (v / 64 % 0x20 + 0xC0), UInt8.ofNat (v % 0x40 + 0x80)]
      else if v ≤ 0xFFFF then
        [UInt8.ofNat (v / 4096 % 0x10 + 0xE0), UInt8.ofNat (v / 64 % 0x40 + 0x80),
          UInt8.ofNat (v % 0x40 + 0x80)]
      else
        [UInt8.ofNat (v / 262144 % 0x08 + 0xF0), UInt8.ofNat (v / 4096 % 0x40 + 0x80),
          UInt8.ofNat (v / 64 % 0x40 + 0x80), UInt8.ofNat (v % 0x40 + 0x80)] := by
  rw [String.utf8EncodeChar, show (Char.ofNat v).val.toNat = v from toNat_ofNat valid]

/-- The octets `front` are those of a character but for the ones that are still owed: with whatever
may follow they are the octets of the character that is read. -/
def Spells (front : Bytes) (low high : UInt8) (bits : Nat) : (owed : Nat) → Prop
  | 0 => ∀ b, low ≤ b → b ≤ high →
    String.utf8EncodeChar (Char.ofNat (bits * 0x40 + b.toNat % 0x40)) = front ++ [b]
  | owed + 1 => ∀ b, low ≤ b → b ≤ high →
    Spells (front ++ [b]) 0x80 0xBF (bits * 0x40 + b.toNat % 0x40) owed

/-- A lead octet of two stands for its character with any second octet. -/
theorem spells_two {b : UInt8} (low : 0xC2 ≤ b) (high : b ≤ 0xDF) :
    Spells [b] 0x80 0xBF (b.toNat % 0x20) 0 := by
  intro c above below
  simp only [UInt8.le_iff_toNat_le, UInt8.reduceToNat] at low high above below
  rw [utf8EncodeChar_ofNat (.inl (by omega)), if_neg (by omega), if_pos (by omega),
    @ofNat_eq_of_toNat b _ (by omega), @ofNat_eq_of_toNat c _ (by omega)]
  rfl

/-- A lead octet of three stands for its character if the second octet is not too small and makes
no surrogate. -/
theorem spells_three {b low high : UInt8} {bits : Nat} (lead : b.toNat = bits + 0xE0)
    (small : bits < 0x10) (above : 0x80 ≤ low) (below : high ≤ 0xBF)
    (range : ∀ n, low.toNat ≤ n → n ≤ high.toNat → 0x20 ≤ bits * 0x40 + n % 0x40 ∧
      (bits * 0x40 + n % 0x40 < 0x360 ∨ 0x380 ≤ bits * 0x40 + n % 0x40)) :
    Spells [b] low high bits 1 := by
  intro c aboveC belowC d aboveD belowD
  have inRange := range c.toNat (UInt8.le_iff_toNat_le.1 aboveC) (UInt8.le_iff_toNat_le.1 belowC)
  have tail := UInt8.le_trans above aboveC
  have tailHigh := UInt8.le_trans belowC below
  simp only [UInt8.le_iff_toNat_le, UInt8.reduceToNat] at tail tailHigh aboveD belowD
  have valid : ((bits * 0x40 + c.toNat % 0x40) * 0x40 + d.toNat % 0x40).isValidChar := by
    rcases inRange.2 with low | high
    · exact .inl (by omega)
    · exact .inr ⟨by omega, by omega⟩
  rw [utf8EncodeChar_ofNat valid, if_neg (by omega), if_neg (by omega), if_pos (by omega),
    @ofNat_eq_of_toNat b _ (by omega), @ofNat_eq_of_toNat c _ (by omega),
    @ofNat_eq_of_toNat d _ (by omega)]
  rfl

/-- A lead octet of four stands for its character if the second octet is neither too small nor too
large. -/
theorem spells_four {b low high : UInt8} {bits : Nat} (lead : b.toNat = bits + 0xF0)
    (above : 0x80 ≤ low) (below : high ≤ 0xBF)
    (range : ∀ n, low.toNat ≤ n → n ≤ high.toNat → 0x10 ≤ bits * 0x40 + n % 0x40 ∧
      bits * 0x40 + n % 0x40 < 0x110) :
    Spells [b] low high bits 2 := by
  intro c aboveC belowC d aboveD belowD e aboveE belowE
  have inRange := range c.toNat (UInt8.le_iff_toNat_le.1 aboveC) (UInt8.le_iff_toNat_le.1 belowC)
  have tail := UInt8.le_trans above aboveC
  have tailHigh := UInt8.le_trans belowC below
  simp only [UInt8.le_iff_toNat_le, UInt8.reduceToNat] at tail tailHigh aboveD belowD aboveE belowE
  have valid : (((bits * 0x40 + c.toNat % 0x40) * 0x40 + d.toNat % 0x40) * 0x40 +
      e.toNat % 0x40).isValidChar := .inr ⟨by omega, by omega⟩
  rw [utf8EncodeChar_ofNat valid, if_neg (by omega), if_neg (by omega), if_neg (by omega),
    @ofNat_eq_of_toNat b _ (by omega), @ofNat_eq_of_toNat c _ (by omega),
    @ofNat_eq_of_toNat d _ (by omega), @ofNat_eq_of_toNat e _ (by omega)]
  rfl

/-- The octets that may follow a lead octet complete a character with it. -/
theorem spells_ofLead? {b : UInt8} {p : Pending} (announced : Pending.ofLead? b = some p) :
    Spells [b] p.low p.high p.bits p.owed := by
  unfold Pending.ofLead? at announced
  simp only [Bool.and_eq_true, decide_eq_true_eq, ← UInt8.toNat_inj, UInt8.le_iff_toNat_le,
    UInt8.reduceToNat] at announced
  -- In each case the bounds of the next octet keep the number off the shorter forms, the
  -- surrogates and what is past the last character.
  split at announced
  · next two =>
    obtain rfl := Option.some.inj announced
    exact spells_two (UInt8.le_iff_toNat_le.2 two.1) (UInt8.le_iff_toNat_le.2 two.2)
  split at announced
  · next least =>
    obtain rfl := Option.some.inj announced
    dsimp only
    refine spells_three (by omega) (by omega) (by decide) (by decide) fun n above below => ?_
    simp only [UInt8.reduceToNat] at above below
    omega
  split at announced
  · next surrogates =>
    obtain rfl := Option.some.inj announced
    dsimp only
    refine spells_three (by omega) (by omega) (by decide) (by decide) fun n above below => ?_
    simp only [UInt8.reduceToNat] at above below
    omega
  split at announced
  · next unlike =>
    obtain rfl := Option.some.inj announced
    dsimp only
    refine spells_three (by omega) (by omega) (by decide) (by decide) fun n above below => ?_
    simp only [UInt8.reduceToNat] at above below
    omega
  split at announced
  · next least =>
    obtain rfl := Option.some.inj announced
    dsimp only
    refine spells_four (by omega) (by decide) (by decide) fun n above below => ?_
    simp only [UInt8.reduceToNat] at above below
    omega
  split at announced
  · next middle =>
    obtain rfl := Option.some.inj announced
    dsimp only
    refine spells_four (by omega) (by decide) (by decide) fun n above below => ?_
    simp only [UInt8.reduceToNat] at above below
    omega
  split at announced
  · next most =>
    obtain rfl := Option.some.inj announced
    dsimp only
    refine spells_four (by omega) (by decide) (by decide) fun n above below => ?_
    simp only [UInt8.reduceToNat] at above below
    omega
  · simp at announced

namespace Reader

theorem clean_of_lead {r : Reader} {b : UInt8} (clean : (r.lead b).clean) : r.clean := by
  unfold lead at clean
  split at clean
  · exact clean
  · split at clean
    · exact clean
    · simp [spoil] at clean

theorem clean_of_step {r : Reader} {b : UInt8} (clean : (r.step b).clean) : r.clean := by
  unfold step at clean
  split at clean
  · exact clean_of_lead clean
  · split at clean
    · dsimp only at clean
      split at clean <;> exact clean
    · simpa [spoil] using clean_of_lead clean

/-- The octets read so far are those of the characters read and of the one under way. -/
inductive Holds : Reader → Bytes → Prop where
  | between (read : List Char) (clean : Bool) :
      Holds (between read clean) (read.reverse.flatMap String.utf8EncodeChar)
  | underway {front : Bytes} {p : Pending} (read : List Char) (clean : Bool) :
      Spells front p.low p.high p.bits p.owed →
      Holds ⟨read, some p, clean⟩ (read.reverse.flatMap String.utf8EncodeChar ++ front)

theorem holds_cons {front : Bytes} {n : Nat} (read : List Char) (clean : Bool)
    (encoded : String.utf8EncodeChar (Char.ofNat n) = front) :
    Holds ⟨Char.ofNat n :: read, none, clean⟩
      (read.reverse.flatMap String.utf8EncodeChar ++ front) := by
  have holds := Holds.between (Char.ofNat n :: read) clean
  rw [List.reverse_cons, List.flatMap_append, List.flatMap_singleton, encoded] at holds
  exact holds

theorem Holds.step {r : Reader} {octets : Bytes} {b : UInt8} (holds : r.Holds octets)
    (clean : (r.step b).clean) : (r.step b).Holds (octets ++ [b]) := by
  cases holds with
  | between read =>
    simp only [Reader.step, Reader.between, lead] at clean ⊢
    split
    · next ascii =>
      simp only [UInt8.lt_iff_toNat_lt, UInt8.reduceToNat] at ascii
      refine holds_cons read _ ?_
      rw [utf8EncodeChar_ofNat (.inl (by omega)), if_pos (by omega), UInt8.ofNat_toNat]
    · next large =>
      rw [if_neg large] at clean
      cases announced : Pending.ofLead? b with
      | some p => exact .underway read _ (spells_ofLead? announced)
      | none => simp [announced, spoil] at clean
  | @underway front p read _ spells =>
    obtain ⟨low, high, owed, bits⟩ := p
    simp only [Reader.step] at clean ⊢
    split
    · next inRange =>
      rw [Bool.and_eq_true, decide_eq_true_eq, decide_eq_true_eq] at inRange
      rw [List.append_assoc]
      cases owed with
      | zero => exact holds_cons read _ (spells b inRange.1 inRange.2)
      | succ owed => exact .underway read _ (spells b inRange.1 inRange.2)
    · next outside =>
      rw [if_neg outside] at clean
      exact absurd (clean_of_lead clean) (by simp [spoil])

theorem holds_foldl {octets : Bytes} (clean : (octets.foldl step fresh).clean) :
    Holds (octets.foldl step fresh) octets := by
  induction octets using List.reverseRecOn with
  | nil => exact .between [] true
  | append_singleton octets b ih =>
    rw [List.foldl_append, List.foldl_cons, List.foldl_nil] at clean ⊢
    exact (ih (clean_of_step clean)).step clean

/-- Octets that are read without fault are those of the characters that are read. -/
theorem octets_of_clean {octets : Bytes} (clean : (run octets).clean) :
    octets = (run octets).read.reverse.flatMap String.utf8EncodeChar := by
  unfold run finish at clean ⊢
  split at clean
  · simp [spoil] at clean
  · next ended =>
    rw [if_neg ended]
    have holds := holds_foldl clean
    generalize octets.foldl step fresh = reader at holds ended
    cases holds with
    | between read => rfl
    | underway => simp at ended

end Reader

end Utf8

/-- Octets are read as a text exactly if they are the octets of the text. -/
theorem Text.ofUtf8?_eq_some_iff {octets : Bytes} {text : String} :
    ofUtf8? octets = some text ↔ octets = utf8 text := by
  constructor
  · intro read
    unfold ofUtf8? at read
    dsimp only at read
    split at read
    · next clean =>
      obtain rfl := Option.some.inj read
      rw [utf8, Utf8.Reader.text, String.toList_ofList]
      exact Utf8.Reader.octets_of_clean clean
    · simp at read
  · rintro rfl
    exact ofUtf8?_utf8 text

end ClusterProxy
