/-!
# Numbers in text

Unsigned numbers as they are written by hand: in decimal digits (`Text.digits?`), below a bound
(`Text.digitsBelow?`), with a sign and a bound (`Text.decimal?`), and the value of one hexadecimal
digit (`Text.hexDigit?`).

A number below a bound is read digit by digit and given up once the bound is reached, so no number
much larger than the bound is ever made. `Text.digitsBelow?_eq_filter` says that nothing is lost by
that.
-/

namespace ClusterProxy.Text

/-- The number written by one or more decimal digits. -/
def digits? (text : List Char) : Option Nat :=
  if text.isEmpty || !text.all Char.isDigit then none else some (Nat.ofDigitChars 10 text 0)

/-- The number that a decimal digit makes behind the number `n`, if it is below `bound`. -/
def growBelow? (bound n : Nat) (c : Char) : Option Nat :=
  if c.isDigit && 10 * n + (c.toNat - 48) < bound then some (10 * n + (c.toNat - 48)) else none

/-- The number below `bound` that is written by one or more decimal digits. -/
def digitsBelow? (bound : Nat) (text : List Char) : Option Nat :=
  if text.isEmpty then none else text.foldlM (growBelow? bound) 0

theorem le_ofDigitChars (text : List Char) (n : Nat) : n ≤ Nat.ofDigitChars 10 text n := by
  induction text generalizing n with
  | nil => simp
  | cons c rest ih =>
    rw [Nat.ofDigitChars_cons]
    exact Nat.le_trans (by omega) (ih _)

theorem foldlM_growBelow? {bound n : Nat} (text : List Char) (small : n < bound) :
    text.foldlM (growBelow? bound) n =
      if text.all Char.isDigit && Nat.ofDigitChars 10 text n < bound
      then some (Nat.ofDigitChars 10 text n) else none := by
  induction text generalizing n with
  | nil => simp [small]
  | cons c rest ih =>
    have grows := le_ofDigitChars rest (10 * n + (c.toNat - 48))
    rw [List.foldlM_cons, Nat.ofDigitChars_cons]
    by_cases next : 10 * n + (c.toNat - 48) < bound
    · by_cases digit : c.isDigit
      · simp [growBelow?, next, digit, ih next]
      · simp [growBelow?, digit]
    · have large : ¬ Nat.ofDigitChars 10 rest (10 * n + (c.toNat - 48)) < bound := by omega
      simp [growBelow?, next, large]

/-- Giving up at the bound finds the same numbers as reading all digits and comparing then. -/
theorem digitsBelow?_eq_filter (bound : Nat) (text : List Char) :
    digitsBelow? bound text = (digits? text).filter fun n => n < bound := by
  cases text with
  | nil => rfl
  | cons c rest =>
    rcases Nat.eq_zero_or_pos bound with zero | positive
    · subst zero
      cases digits? (c :: rest) <;> simp [digitsBelow?, growBelow?, Option.filter]
    · rw [digitsBelow?, digits?, foldlM_growBelow? _ positive]
      by_cases digits : (c :: rest).all Char.isDigit
      · simp [digits, Option.filter]
      · simp [digits]

/-- An unsigned decimal number below `bound`. A single leading `+` is allowed, and so are leading
zeros. -/
def decimal? (bound : Nat) (text : List Char) : Option Nat :=
  match text with
  | '+' :: rest => digitsBelow? bound rest
  | _ => digitsBelow? bound text

/-- The value of a hexadecimal digit in either letter case. -/
def hexDigit? (c : Char) : Option Nat :=
  if '0' ≤ c && c ≤ '9' then some (c.toNat - 48)
  else if 'a' ≤ c && c ≤ 'f' then some (c.toNat - 87)
  else if 'A' ≤ c && c ≤ 'F' then some (c.toNat - 55)
  else none

end ClusterProxy.Text
