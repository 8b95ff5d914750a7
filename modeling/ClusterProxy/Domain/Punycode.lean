import ClusterProxy.Text.Digits

/-!
# Labels in ASCII characters

A label with characters past ASCII can be written in ASCII: first its ASCII characters, with a
hyphen behind them, and then a sequence of numbers. Each number says how far to count on, through
the places of the label and from one character to the next, until the next character is inserted.

Numbers have digits of base 36, the least significant first, with no mark between them: a digit
below a threshold ends its number. The thresholds adapt to the size of the numbers before.

`Punycode.decode?` reads such a label. It goes through the digits one by one, with a `Reader` for
the characters inserted so far and the number under way.
-/

namespace ClusterProxy.Punycode

/-- The number of digits. -/
def base : Nat := 36

/-- The highest threshold; the lowest one is 1. -/
def highThreshold : Nat := 26

/-- Numbers and the weights of digits are below this bound. -/
def numberBound : Nat := 4294967296

/-- The value of a digit: letters in either case come before decimal digits. -/
def digit? (c : Char) : Option Nat :=
  if 'a' ≤ c && c ≤ 'z' then some (c.toNat - 97)
  else if 'A' ≤ c && c ≤ 'Z' then some (c.toNat - 65)
  else if '0' ≤ c && c ≤ '9' then some (c.toNat - 22)
  else none

/-- The character with a number, if there is one. -/
def char? (n : Nat) : Option Char := if n.isValidChar then some (Char.ofNat n) else none

/-- Brings the size of a number down to the bias of the thresholds. -/
def settle (size : Nat) : Nat :=
  if 455 < size then base + settle (size / 35) else base * size / (size + 38)
termination_by size
decreasing_by omega

/-- The bias behind a number, given the length of the label then. The first number counts from the
first character past ASCII and is much larger than the others. -/
def adapt (number length : Nat) (isFirst : Bool) : Nat :=
  let size := if isFirst then number / 700 else number / 2
  settle (size + size / length)

/-- The threshold of a digit, given `base` times its place, counted from 1. -/
def threshold (bias position : Nat) : Nat := min highThreshold (max 1 (position - bias))

/-- A number under way: its value so far, the weight of the next digit, and `base` times the place
of that digit. -/
structure Number where
  value : Nat
  weight : Nat
  position : Nat
deriving DecidableEq, Repr

/-- A number without digits. -/
def Number.fresh : Number := ⟨0, 1, base⟩

/-- The label so far, the character inserted last, the place behind it, the bias of the thresholds,
whether no number has ended yet, and the number under way. -/
structure Reader where
  label : List Char
  code : Nat
  place : Nat
  bias : Nat
  isFirst : Bool
  number : Number
deriving DecidableEq, Repr

namespace Reader

/-- The first character past ASCII, from which the first number counts. -/
def firstCode : Nat := 128

/-- The bias at the start. -/
def firstBias : Nat := 72

/-- A label with its ASCII characters alone. -/
def fresh (ascii : List Char) : Reader := ⟨ascii, firstCode, 0, firstBias, true, .fresh⟩

/-- Inserts the character that a number counts on to. -/
def insert? (reader : Reader) (number : Nat) : Option Reader :=
  let places := reader.label.length + 1
  let reached := reader.place + number
  let place := reached % places
  let code := reader.code + reached / places
  if numberBound ≤ reached then none
  else (char? code).map fun c =>
    { label := reader.label.take place ++ c :: reader.label.drop place
      code
      place := place + 1
      bias := adapt number places reader.isFirst
      isFirst := false
      number := .fresh }

/-- Reads a digit. -/
def step? (reader : Reader) (c : Char) : Option Reader := do
  let digit ← digit? c
  let number := reader.number
  let value := number.value + digit * number.weight
  let threshold := threshold reader.bias number.position
  let weight := number.weight * (base - threshold)
  if numberBound ≤ value then none
  else if digit < threshold then reader.insert? value
  else if numberBound ≤ weight then none
  else some { reader with number := ⟨value, weight, number.position + base⟩ }

/-- The label, if no number is under way. -/
def finish? (reader : Reader) : Option (List Char) :=
  if reader.number = .fresh then some reader.label else none

end Reader

/-- The ASCII characters in front of the last hyphen, and the digits behind it. A hyphen with
nothing in front of it is a digit out of place. -/
def split (text : List Char) : List Char × List Char :=
  match text.reverse.dropWhile fun c => c != '-' with
  | _ :: c :: ascii => ((c :: ascii).reverse, (text.reverse.takeWhile fun c => c != '-').reverse)
  | _ => ([], text)

/-- Reads a label that is written in ASCII characters. -/
def decode? (text : List Char) : Option (List Char) :=
  let (ascii, digits) := split text
  if ascii.all fun c => c.toNat < Reader.firstCode then
    (digits.foldlM Reader.step? (.fresh ascii)).bind Reader.finish?
  else none

end ClusterProxy.Punycode
