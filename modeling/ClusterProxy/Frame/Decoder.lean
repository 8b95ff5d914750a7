import ClusterProxy.Frame.Scan

/-!
# Frames from a stream

A `Decoder` holds the octets of one connection that belong to no finished frame yet. Octets are
appended as they arrive, and complete frames are split off the front with their own bytes.
-/

namespace ClusterProxy

/-- A frame with its bytes; the spans of the frame are places in these bytes. -/
structure Decoded where
  bytes : Bytes
  frame : Frame
deriving DecidableEq, Repr

namespace Decoded

/-- The text of a line or the body of a bulk that is not null. -/
def payload (decoded : Decoded) : Option Bytes :=
  decoded.frame.payload.map fun span => span.slice decoded.bytes

/-- The bodies of the elements, with none for an element that is null or no bulk. All of them are
cut from one array, so that the time does not grow with the square of their number. -/
def elements (decoded : Decoded) : List (Option Bytes) :=
  let octets := decoded.bytes.toArray
  decoded.frame.elements.map fun element =>
    element.map fun span => (octets.extract span.first span.stop).toList

/-- The body of one element; none as well past the last element. -/
def element (decoded : Decoded) (index : Nat) : Option Bytes :=
  (decoded.frame.elements[index]?).join.map fun span => span.slice decoded.bytes

/-- Each body is the stretch that the frame names. -/
theorem elements_eq_map_slice (decoded : Decoded) :
    decoded.elements = decoded.frame.elements.map fun element =>
      element.map fun span => span.slice decoded.bytes := by
  simp [elements, Span.slice, List.extract_eq_take_drop]

/-- The body of one element is an entry of all bodies. -/
theorem element_eq_getElem?_join (decoded : Decoded) (index : Nat) :
    decoded.element index = (decoded.elements[index]?).join := by
  rw [elements_eq_map_slice, List.getElem?_map]
  cases found : decoded.frame.elements[index]? <;> simp [element, found]

end Decoded

/-- The octets of a connection that are not decoded yet, and the largest frame it accepts. -/
structure Decoder where
  limit : Nat
  buffer : Bytes
deriving DecidableEq, Repr

namespace Decoder

/-- An empty decoder. -/
def empty (limit : Nat) : Decoder := ⟨limit, []⟩

/-- Adds octets that arrived. -/
def append (decoder : Decoder) (data : Bytes) : Decoder :=
  { decoder with buffer := decoder.buffer ++ data }

/-- Splits one complete frame off the front. The decoder stays as it is if there is none. -/
def next (decoder : Decoder) : Verdict Decoded × Decoder :=
  match Frame.find decoder.limit decoder.buffer with
  | .incomplete => (.incomplete, decoder)
  | .invalid why => (.invalid why, decoder)
  | .complete frame =>
    (.complete ⟨decoder.buffer.take frame.length, frame⟩,
      { decoder with buffer := decoder.buffer.drop frame.length })

end Decoder

end ClusterProxy
