/-!
# Bytes

Byte strings are lists of octets, first octet first. This file names the octets that mean
something on the wire and the operations on byte strings that several parts of the proxy share:

* `Bytes.isDigit` and `Bytes.digitValue` read one decimal digit, `Bytes.decimal` writes a number;
* `Bytes.upper` folds ASCII letters to upper case and leaves every other octet alone, and
  `Bytes.sameLetters` compares in one letter case;
* `Bytes.tokens` cuts a byte string at spaces.
-/

namespace ClusterProxy

/-- A byte string, first octet first. -/
abbrev Bytes := List UInt8

namespace Bytes

/-- Carriage return, the first octet of a line end. -/
def cr : UInt8 := 13

/-- Line feed, the second octet of a line end. -/
def lf : UInt8 := 10

/-- The two octets that end every line of the wire format. -/
def crlf : Bytes := [cr, lf]

/-- The octet between the words of an error line. -/
def space : UInt8 := 32

/-- The sign of a negative length. -/
def minus : UInt8 := 45

/-- The octets `0` to `9`. -/
def isDigit (b : UInt8) : Bool := 48 ≤ b && b ≤ 57

/-- The number a digit stands for. -/
def digitValue (b : UInt8) : Nat := b.toNat - 48

/-- A number in decimal, without leading zeros. -/
def decimal (n : Nat) : Bytes := (Nat.toDigits 10 n).map fun digit => digit.toNat.toUInt8

/-- The octets `a` to `z`. -/
def isLower (b : UInt8) : Bool := 97 ≤ b && b ≤ 122

/-- Folds an ASCII letter to upper case; every other octet is its own fold. -/
def upper (b : UInt8) : UInt8 := if isLower b then b - 32 else b

/-- Whether two byte strings are the same in one letter case. -/
def sameLetters (one two : Bytes) : Bool := one.map upper == two.map upper

/-- The non-empty pieces between spaces. -/
def tokens (bytes : Bytes) : List Bytes := (bytes.splitOn space).filter fun piece => !piece.isEmpty

end Bytes

end ClusterProxy
