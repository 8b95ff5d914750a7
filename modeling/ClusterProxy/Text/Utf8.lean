import ClusterProxy.Bytes

/-!
# UTF-8

Text travels as UTF-8. `Text.utf8` writes it; `Text.ofUtf8?` reads it back and refuses octets that
are no text; `Text.ofUtf8Lossy` reads any octets and puts one U+FFFD in place of every maximal
piece that no text starts with.

Both readers run the same machine, `Utf8.Reader`, one octet at a time. Between characters it waits
for a lead octet. Inside a character it knows how many octets are owed and which octets the next
one may be, so overlong forms, surrogates and numbers past U+10FFFF are refused at the first octet
that rules them out. A refused octet ends the piece before it and is read again as a lead.
-/

namespace ClusterProxy

namespace Utf8

/-- A character under way: the octets the next one may be, how many follow after it, and the
number gathered so far. -/
structure Pending where
  low : UInt8
  high : UInt8
  owed : Nat
  bits : Nat
deriving DecidableEq, Repr

/-- What a lead octet announces; none for an octet that starts no character of two or more
octets. -/
def Pending.ofLead? (b : UInt8) : Option Pending :=
  if 0xC2 ≤ b && b ≤ 0xDF then some ⟨0x80, 0xBF, 0, b.toNat % 0x20⟩
  else if b = 0xE0 then some ⟨0xA0, 0xBF, 1, 0⟩
  else if b = 0xED then some ⟨0x80, 0x9F, 1, 0xD⟩
  else if 0xE1 ≤ b && b ≤ 0xEF then some ⟨0x80, 0xBF, 1, b.toNat % 0x10⟩
  else if b = 0xF0 then some ⟨0x90, 0xBF, 2, 0⟩
  else if 0xF1 ≤ b && b ≤ 0xF3 then some ⟨0x80, 0xBF, 2, b.toNat % 0x08⟩
  else if b = 0xF4 then some ⟨0x80, 0x8F, 2, 4⟩
  else none

/-- The machine between two octets: the characters read, newest first, the character under way,
and whether every octet so far belonged to a character. -/
structure Reader where
  read : List Char
  underway : Option Pending
  clean : Bool
deriving DecidableEq, Repr

namespace Reader

/-- Nothing read yet. -/
def fresh : Reader := ⟨[], none, true⟩

/-- Ends a piece that is no text. -/
def spoil (r : Reader) : Reader := ⟨'\uFFFD' :: r.read, none, false⟩

/-- Reads an octet between characters. -/
def lead (r : Reader) (b : UInt8) : Reader :=
  if b < 0x80 then { r with read := Char.ofNat b.toNat :: r.read }
  else match Pending.ofLead? b with
    | some p => { r with underway := some p }
    | none => r.spoil

/-- Reads an octet. -/
def step (r : Reader) (b : UInt8) : Reader :=
  match r.underway with
  | none => r.lead b
  | some p =>
    if p.low ≤ b && b ≤ p.high then
      let bits := p.bits * 0x40 + b.toNat % 0x40
      match p.owed with
      | 0 => ⟨Char.ofNat bits :: r.read, none, r.clean⟩
      | owed + 1 => { r with underway := some ⟨0x80, 0xBF, owed, bits⟩ }
    else r.spoil.lead b

/-- The end of the octets: a character under way stays unfinished. -/
def finish (r : Reader) : Reader := if r.underway.isSome then r.spoil else r

/-- Reads all octets. -/
def run (bytes : Bytes) : Reader := (bytes.foldl step fresh).finish

/-- The characters read, in order. -/
def text (r : Reader) : String := String.ofList r.read.reverse

end Reader

end Utf8

namespace Text

/-- The UTF-8 octets of a text. -/
def utf8 (text : String) : Bytes := text.toList.flatMap String.utf8EncodeChar

/-- The text whose UTF-8 octets these are, if there is one. -/
def ofUtf8? (bytes : Bytes) : Option String :=
  let reader := Utf8.Reader.run bytes
  if reader.clean then some reader.text else none

/-- The text of any octets, with one U+FFFD for each maximal piece that is no text. -/
def ofUtf8Lossy (bytes : Bytes) : String := (Utf8.Reader.run bytes).text

end Text

end ClusterProxy
