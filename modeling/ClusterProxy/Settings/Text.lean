import ClusterProxy.Json.Reader
import ClusterProxy.Json.Writer
import ClusterProxy.Settings.Basic

/-!
# Settings as JSON

Settings are written as one object with all fields in a fixed order. A text is read as an object,
in which fields may be missing, stand in any order and be unknown, or as an array of the values in
that order, in which the last ones may be missing. What is missing keeps its standard setting.
-/

namespace ClusterProxy.Settings

/-- The fields of settings, in the order in which they are written. -/
inductive Field where
  | maxRedirects
  | retryDelay
  | seeds
  | maxFrameSize
  | crossSlot
deriving DecidableEq, Repr

namespace Field

/-- The fields in order. -/
def all : List Field := [maxRedirects, retryDelay, seeds, maxFrameSize, crossSlot]

/-- The name of a field. -/
def name : Field → String
  | maxRedirects => "max_redirects"
  | retryDelay => "tryagain_delay"
  | seeds => "seed_nodes"
  | maxFrameSize => "max_frame_size"
  | crossSlot => "cross_slot_policy"

/-- The field of a name. -/
def ofName? (name : List Char) : Option Field := all.find? fun field => field.name.toList = name

end Field

/-- Unsigned numbers of 32 bits are below this bound. -/
def bound32 : Nat := 4294967296

/-- Unsigned numbers of 64 bits are below this bound. -/
def bound64 : Nat := 18446744073709551616

/-- The delay in whole milliseconds, as it is written: the largest number of 64 bits stands for
every longer delay. -/
def delayMillis (settings : Settings) : Nat :=
  min (settings.retryDelay / millisecond) (bound64 - 1)

/-- The word for a policy. -/
def policyName : CrossSlotPolicy → String
  | .reject => "reject"

/-- Writes the value of a field. -/
def writeField (settings : Settings) : Field → List Char
  | .maxRedirects => Json.writeNatural settings.maxRedirects.toNat
  | .retryDelay => Json.writeNatural settings.delayMillis
  | .seeds => Json.writeArray (settings.seeds.map fun seed => Json.writeText seed.toList)
  | .maxFrameSize => Json.writeNatural settings.maxFrameSize
  | .crossSlot => Json.writeText (policyName settings.crossSlot).toList

/-- Writes settings. -/
def toJson (settings : Settings) : String :=
  String.ofList
    (Json.writeObject (Field.all.map fun field => (field.name, settings.writeField field)))

/-- Reads a number below a bound, which has neither sign nor fraction nor exponent. -/
def naturalOf (bound : Nat) : Json.Value → Option Nat
  | .number number => Text.digitsBelow? bound number
  | _ => none

/-- Reads a text. -/
def textOf : Json.Value → Option String
  | .text pieces => (Json.text? pieces).map String.ofList
  | _ => none

/-- Reads texts. -/
def textsOf : Json.Value → Option (List String)
  | .array items => items.mapM textOf
  | _ => none

/-- Reads a policy: its word, or an object with its word as the only field and nothing in it. -/
def policyOf : Json.Value → Option CrossSlotPolicy
  | .text pieces => if Json.text? pieces = some "reject".toList then some .reject else none
  | .object [(name, .null)] =>
    if Json.text? name = some "reject".toList then some .reject else none
  | _ => none

/-- Reads the value of a field into settings. -/
def setField (settings : Settings) (field : Field) (value : Json.Value) : Option Settings :=
  match field with
  | .maxRedirects =>
    (naturalOf bound32 value).map fun n => { settings with maxRedirects := n.toUInt32 }
  | .retryDelay =>
    (naturalOf bound64 value).map fun n => { settings with retryDelay := n * millisecond }
  | .seeds => (textsOf value).map fun seeds => { settings with seeds }
  | .maxFrameSize =>
    (naturalOf bound64 value).map fun n => { settings with maxFrameSize := n }
  | .crossSlot => (policyOf value).map fun crossSlot => { settings with crossSlot }

/-- Reads values in the order of the fields. -/
def ofValues? (settings : Settings) : List Field → List Json.Value → Option Settings
  | _, [] => some settings
  | field :: fields, value :: values =>
    (setField settings field value).bind fun settings => ofValues? settings fields values
  | [], _ :: _ => none

/-- Reads the fields of an object. A known field stands there at most once; `seen` holds those
that did. -/
def ofFields? (settings : Settings) (seen : List Field) :
    List (List Json.Piece × Json.Value) → Option Settings
  | [] => some settings
  | (name, value) :: rest => do
    let name ← Json.text? name
    match Field.ofName? name with
    | none => ofFields? settings seen rest
    | some field =>
      if seen.contains field then none
      else
        let settings ← setField settings field value
        ofFields? settings (field :: seen) rest

/-- Reads settings from a value. -/
def ofValue? : Json.Value → Option Settings
  | .object fields => ofFields? standard [] fields
  | .array values => ofValues? standard Field.all values
  | _ => none

/-- Reads settings and checks them. -/
def ofJson (text : String) : Except Fault Settings :=
  match (Json.read? text.toList).bind ofValue? with
  | none => .error (.invalidArgument "invalid router config")
  | some settings => settings.validate

end ClusterProxy.Settings
