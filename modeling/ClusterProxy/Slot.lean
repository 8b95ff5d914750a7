import ClusterProxy.Bytes

/-!
# Slots

A cluster divides its keys into `Slot.count` slots by a checksum. `Slot.checksum` is the remainder
of the polynomial division that defines the checksum, taken bit by bit; `Slot.hashed` picks the
part of a key that counts, so that keys with the same tag share a slot; `Slot.ofKey` is the slot.
-/

namespace ClusterProxy.Slot

/-- The number of slots. -/
def count : Nat := 16384

/-- The generator polynomial x^16 + x^12 + x^5 + 1, without its leading term. -/
def generator : UInt16 := 0x1021

/-- The bits of an octet, most significant first. -/
def bits (b : UInt8) : List Bool := [7, 6, 5, 4, 3, 2, 1, 0].map fun place => b.toNat.testBit place

/-- Whether a remainder has a term of degree 15, which becomes the generator's leading term. -/
def leads (remainder : UInt16) : Bool := 0x8000 ≤ remainder

/-- Takes one more bit into the remainder. -/
def feed (remainder : UInt16) (bit : Bool) : UInt16 :=
  if leads remainder ^^ bit then (remainder <<< 1) ^^^ generator else remainder <<< 1

/-- Takes one more octet into the remainder. -/
def feedOctet (remainder : UInt16) (b : UInt8) : UInt16 := (bits b).foldl feed remainder

/-- The checksum of a byte string. It starts from zero, with no reflection and no final mask. -/
def checksum (bytes : Bytes) : UInt16 := bytes.foldl feedOctet 0

/-- The checksum takes the bits of all octets in, in order. -/
theorem checksum_eq_foldl_bits (bytes : Bytes) :
    checksum bytes = (bytes.flatMap bits).foldl feed 0 := by
  rw [List.foldl_flatMap]
  rfl

/-- The octet `{`, which opens a tag. -/
def tagOpen : UInt8 := 123

/-- The octet `}`, which closes a tag. -/
def tagClose : UInt8 := 125

/-- The part of a key that is hashed: what stands between the first opening brace and the next
closing one, unless that is nothing or the brace is never closed; then the whole key. -/
def hashed (key : Bytes) : Bytes :=
  match key.dropWhile fun b => b != tagOpen with
  | [] => key
  | _ :: rest =>
    let tag := rest.takeWhile fun b => b != tagClose
    if tag.isEmpty || tag.length == rest.length then key else tag

/-- The slot of a key: the low fourteen bits of the checksum of its hashed part. -/
def ofKey (key : Bytes) : Nat := (checksum (hashed key)).toNat % count

end ClusterProxy.Slot
