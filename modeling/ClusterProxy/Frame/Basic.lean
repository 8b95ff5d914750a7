import ClusterProxy.Bytes

/-!
# Frames

A frame is one message of RESP, the protocol between Redis clients and nodes: a line (`+` status,
`-` error, `:` integer), a counted string (`$`, a bulk), or an array (`*`) of frames.

Frames that arrive are never taken apart into values. A `Frame` says where the pieces of one lie
in the buffer it was found in, as spans. Frames that the proxy writes itself are `Message`s, and
`Message.encode` gives their bytes.
-/

namespace ClusterProxy

/-- What the first octet of a frame announces. -/
inductive Frame.Kind where
  | status
  | error
  | integer
  | bulk
  | array
deriving DecidableEq, Repr

namespace Frame.Kind

/-- The octet that announces a frame of this kind. -/
def mark : Kind → UInt8
  | status => 43
  | error => 45
  | integer => 58
  | bulk => 36
  | array => 42

/-- Every kind. -/
def all : List Kind := [status, error, integer, bulk, array]

/-- The kind an octet announces. -/
def ofMark? (b : UInt8) : Option Kind := all.find? fun kind => kind.mark == b

end Frame.Kind

/-- A stretch of a buffer: the offset of its first octet and the offset after its last. -/
structure Span where
  first : Nat
  stop : Nat
deriving DecidableEq, Repr

/-- The octets of a stretch. -/
def Span.slice (span : Span) (buffer : Bytes) : Bytes :=
  (buffer.drop span.first).take (span.stop - span.first)

/-- One element of an array: its kind and, for a line or a bulk that is not null, the span of its
text or body. -/
structure Frame.Item where
  kind : Kind
  payload : Option Span
deriving DecidableEq, Repr

/-- What a frame in a buffer holds. `payload` is the span of the text of a line or the body of a
bulk. `null` holds for the null bulk and the null array. `items` has one entry for each element of
an array. -/
structure Frame.Content where
  kind : Kind
  payload : Option Span
  null : Bool
  items : List Item
deriving DecidableEq, Repr

/-- A complete frame at the front of a buffer. `length` counts all its octets, line ends
included. -/
structure Frame extends Frame.Content where
  length : Nat
deriving DecidableEq, Repr

namespace Frame

/-- The body of each element that is a bulk and not null, and none for every other element. -/
def elements (frame : Frame) : List (Option Span) :=
  frame.items.map fun item => if item.kind = .bulk then item.payload else none

/-- Arrays of which every element is a bulk: the form of a client's command. -/
def isBulkArray (frame : Frame) : Bool :=
  frame.kind = .array && frame.items.all fun item => item.kind = .bulk

end Frame

/-- A frame that the proxy writes itself. -/
inductive Message where
  | error (line : Bytes)
  | bulk (data : Bytes)
  | array (items : List Message)
deriving Inhabited, Repr

namespace Message

/-- A mark, a text and a line end. -/
def line (kind : Frame.Kind) (text : Bytes) : Bytes := kind.mark :: text ++ Bytes.crlf

mutual

/-- The bytes of a message. -/
def encode : Message → Bytes
  | error text => line .error text
  | bulk data => line .bulk (Bytes.decimal data.length) ++ data ++ Bytes.crlf
  | array items => line .array (Bytes.decimal items.length) ++ encodeAll [] items

/-- The bytes of messages one after the other; `written` holds those before them, newest first. -/
def encodeAll (written : List Bytes) : List Message → Bytes
  | [] => written.reverse.flatten
  | item :: rest => encodeAll (encode item :: written) rest

end

/-- Messages are written one after the other, behind those that were written before them. -/
theorem encodeAll_eq_flatten (written : List Bytes) (items : List Message) :
    encodeAll written items = written.reverse.flatten ++ (items.map encode).flatten := by
  induction items generalizing written with
  | nil => simp [encodeAll]
  | cons item rest ih => simp [encodeAll, ih]

/-- An array is written as its count and its elements. -/
theorem encode_array (items : List Message) :
    (array items).encode =
      line .array (Bytes.decimal items.length) ++ (items.map encode).flatten := by
  simp [encode, encodeAll_eq_flatten]

end Message

/-- Collects the bytes of messages until they are taken. -/
structure Encoder where
  pending : Bytes
deriving DecidableEq, Repr

namespace Encoder

/-- Nothing collected. -/
def empty : Encoder := ⟨[]⟩

/-- Adds the bytes of a message. -/
def push (encoder : Encoder) (message : Message) : Encoder :=
  ⟨encoder.pending ++ message.encode⟩

/-- The collected bytes, and the encoder without them. -/
def take (encoder : Encoder) : Bytes × Encoder := (encoder.pending, empty)

end Encoder

end ClusterProxy
