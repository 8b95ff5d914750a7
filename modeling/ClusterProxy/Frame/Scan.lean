import ClusterProxy.Frame.Basic

/-!
# Finding a frame at the front of a buffer

`Frame.find limit buffer` looks at a buffer that may still grow. Its verdict is that the front is
a complete frame, that more octets are needed, or that no frame starts this way.

The limit bounds the length of the frame. A declared length or count that cannot fit is refused
before its octets have arrived, so a peer cannot make the proxy hold more than the limit. Arrays
nest at most `nestingLimit` deep; the search is structural in the levels that are left.
-/

namespace ClusterProxy

/-- Why no frame starts a certain way. -/
inductive FrameFault where
  | unknownMark (mark : UInt8) (offset : Nat)
  | lengthTooLarge
  | noLengthDigits (offset : Nat)
  | lengthNotEnded (offset : Nat)
  | negativeLength (magnitude : Nat)
  | bulkTooLong
  | bulkNotEnded
  | nestingTooDeep
  | tooManyElements
  | frameTooLong
deriving DecidableEq, Repr

namespace FrameFault

/-- The octet as two hexadecimal digits. -/
def hexOctet (b : UInt8) : String :=
  String.ofList [Nat.digitChar (b.toNat / 16), Nat.digitChar (b.toNat % 16)]

/-- The wording of each cause. An unknown mark is located unless it is the first octet. -/
def reason : FrameFault → String
  | unknownMark mark 0 => "unknown frame type byte 0x" ++ hexOctet mark
  | unknownMark mark (offset + 1) =>
    "unknown frame type byte 0x" ++ hexOctet mark ++ " at offset " ++ toString (offset + 1)
  | lengthTooLarge => "length overflows"
  | noLengthDigits offset => "expected length digits at offset " ++ toString offset
  | lengthNotEnded offset => "length not terminated by CRLF at offset " ++ toString offset
  | negativeLength magnitude => "invalid length -" ++ toString magnitude
  | bulkTooLong => "bulk string length exceeds maximum frame size"
  | bulkNotEnded => "bulk string not terminated by CRLF"
  | nestingTooDeep => "array nesting too deep"
  | tooManyElements => "array length exceeds reasonable maximum"
  | frameTooLong => "frame exceeds maximum frame size"

end FrameFault

/-- What the octets at hand say about something that is read from them. -/
inductive Verdict (α : Type) where
  /-- More octets are needed. -/
  | incomplete
  /-- No further octets can make it right. -/
  | invalid (why : FrameFault)
  /-- It is there. -/
  | complete (value : α)
deriving DecidableEq, Repr

/-- Goes on with what was read. -/
def Verdict.andThen {α β : Type} (verdict : Verdict α) (next : α → Verdict β) : Verdict β :=
  match verdict with
  | incomplete => incomplete
  | invalid why => invalid why
  | complete value => next value

/-- A place in a buffer: its offset, and the octets from there on. -/
structure Cursor where
  offset : Nat
  rest : Bytes
deriving DecidableEq, Repr

/-- The place `count` octets further on. -/
def Cursor.skip (cursor : Cursor) (count : Nat) : Cursor :=
  ⟨cursor.offset + count, cursor.rest.drop count⟩

namespace Frame

/-- The largest length or count that can be declared, the largest signed number of 64 bits. -/
def maxLength : Nat := 9223372036854775807

/-- The fewest octets that a declared element is taken to need. -/
def minElementLength : Nat := 4

/-- How deep arrays nest, the outermost one included. -/
def nestingLimit : Nat := 128

/-- The frame size allowed where none is set: 512 MiB. -/
def defaultLimit : Nat := 512 * 1024 * 1024

/-- The offset of the first line end at or after a place, and the place after it. -/
def findLineEnd (offset : Nat) : Bytes → Option (Nat × Cursor)
  | [] => none
  | b :: rest =>
    if b = Bytes.cr ∧ rest.head? = some Bytes.lf then
      some (offset, ⟨offset + 2, rest.tail⟩)
    else findLineEnd (offset + 1) rest

/-- Reads decimal digits behind the number `value`; none once the number passes `maxLength`. -/
def readDigits (value offset : Nat) : Bytes → Option (Nat × Cursor)
  | [] => some (value, ⟨offset, []⟩)
  | b :: rest =>
    if Bytes.isDigit b then
      let grown := value * 10 + Bytes.digitValue b
      if grown ≤ maxLength then readDigits grown (offset + 1) rest else none
    else some (value, ⟨offset, b :: rest⟩)

/-- Reads a declared length and its line end. The length -1 stands for null and is `none`. -/
def readLength (cursor : Cursor) : Verdict (Option Nat × Cursor) :=
  let negative := cursor.rest.head? = some Bytes.minus
  let digits := if negative then cursor.skip 1 else cursor
  match readDigits 0 digits.offset digits.rest with
  | none => .invalid .lengthTooLarge
  | some (_, ⟨_, []⟩) => .incomplete
  | some (value, ⟨offset, first :: more⟩) =>
    if offset = digits.offset then .invalid (.noLengthDigits offset)
    else match more with
      | [] => .incomplete
      | second :: rest =>
        if first ≠ Bytes.cr ∨ second ≠ Bytes.lf then .invalid (.lengthNotEnded offset)
        else if negative ∧ 1 < value then .invalid (.negativeLength value)
        else .complete (if negative ∧ value = 1 then none else some value, ⟨offset + 2, rest⟩)

/-- Reads a line, from the octet after its mark. -/
def scanLine (kind : Kind) (cursor : Cursor) : Verdict (Content × Cursor) :=
  match findLineEnd cursor.offset cursor.rest with
  | none => .incomplete
  | some (stop, next) => .complete (⟨kind, some ⟨cursor.offset, stop⟩, false, []⟩, next)

/-- Reads a bulk, from the octet after its mark. -/
def scanBulk (limit : Nat) (cursor : Cursor) : Verdict (Content × Cursor) :=
  (readLength cursor).andThen fun (length, body) =>
    match length with
    | none => .complete (⟨.bulk, none, true, []⟩, body)
    | some length =>
      let stop := body.offset + length
      if limit < length then .invalid .bulkTooLong
      else if limit < stop + 2 then .invalid .frameTooLong
      else match body.rest.drop length with
        | first :: second :: rest =>
          if first = Bytes.cr ∧ second = Bytes.lf then
            .complete (⟨.bulk, some ⟨body.offset, stop⟩, false, []⟩, ⟨stop + 2, rest⟩)
          else .invalid .bulkNotEnded
        | _ => .incomplete

/-- Reads `count` elements with `scan`; `seen` holds those before them, newest first. -/
def scanItems (scan : Cursor → Verdict (Content × Cursor)) (limit : Nat) :
    Nat → List Item → Cursor → Verdict (List Item × Cursor)
  | 0, seen, cursor => .complete (seen.reverse, cursor)
  | count + 1, seen, cursor =>
    match scan cursor with
    | .incomplete => .incomplete
    | .invalid why => .invalid why
    | .complete (content, next) =>
      if limit < next.offset then .invalid .frameTooLong
      else scanItems scan limit count (⟨content.kind, content.payload⟩ :: seen) next

/-- Reads an array, from the octet after its mark, with `scan` for its elements. -/
def scanArray (scan : Cursor → Verdict (Content × Cursor)) (limit : Nat) (cursor : Cursor) :
    Verdict (Content × Cursor) :=
  (readLength cursor).andThen fun (count, body) =>
    match count with
    | none => .complete (⟨.array, none, true, []⟩, body)
    | some count =>
      if limit / minElementLength < count then .invalid .tooManyElements
      else (scanItems scan limit count [] body).andThen fun (items, next) =>
        .complete (⟨.array, none, false, items⟩, next)

/-- Reads a frame, with `array` for an array from the octet after its mark. -/
def scanWith (array : Cursor → Verdict (Content × Cursor)) (limit : Nat) (cursor : Cursor) :
    Verdict (Content × Cursor) :=
  match cursor.rest with
  | [] => .incomplete
  | mark :: rest =>
    let body : Cursor := ⟨cursor.offset + 1, rest⟩
    match Kind.ofMark? mark with
    | none => .invalid (.unknownMark mark cursor.offset)
    | some .array => array body
    | some .bulk => scanBulk limit body
    | some kind => scanLine kind body

/-- Reads a frame in which arrays nest at most `levels` deep. -/
def scan (limit : Nat) : (levels : Nat) → Cursor → Verdict (Content × Cursor)
  | 0 => scanWith (fun _ => .invalid .nestingTooDeep) limit
  | levels + 1 => scanWith (scanArray (scan limit levels) limit) limit

/-- Looks for a frame of at most `limit` octets at the front of a buffer. -/
def find (limit : Nat) (buffer : Bytes) : Verdict Frame :=
  match scan limit nestingLimit ⟨0, buffer⟩ with
  | .incomplete => if limit < buffer.length then .invalid .frameTooLong else .incomplete
  | .invalid why => .invalid why
  | .complete (content, next) =>
    if limit < next.offset then .invalid .frameTooLong
    else .complete ⟨content, next.offset⟩

end Frame

end ClusterProxy
