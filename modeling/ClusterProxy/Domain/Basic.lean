import ClusterProxy.Domain.Direction
import ClusterProxy.Domain.Joining
import ClusterProxy.Domain.Punycode
import ClusterProxy.Domain.Repertoire
import ClusterProxy.Text.Composition

/-!
# Names of hosts

A name is a sequence of labels with dots between them, in characters of any script.
`Domain.ofChars?` reads one: it replaces the characters that stand for others, composes the text,
cuts it at the dots, and reads each label. A label that begins with `xn--` is written in ASCII
characters and is decoded. All labels then meet the same conditions: only characters that names
hold, composed, no mark at the beginning, and joiners only where they can be seen; and if one label
runs from right to left, every label must have one direction.
-/

namespace ClusterProxy.Domain

/-- ASCII characters that no name holds. -/
def forbidden : List Char :=
  ['#', '%', '/', ':', '<', '>', '?', '@', '[', '\\', ']', '^', '|', '\x7F']

/-- Whether a label may hold a character. -/
def isAllowed (c : Char) : Bool := 0x20 < c.toNat && !forbidden.contains c && isSettled c

/-- Whether a character is an ASCII character. -/
def isAscii (c : Char) : Bool := c.toNat < 0x80

/-- What a label in ASCII characters begins with. -/
def encodedMark : List Char := "xn--".toList

/-- The most characters of a label that is not all ASCII. -/
def labelLimit : Nat := 1000

/-- The most characters behind the mark of a label in ASCII characters. -/
def encodedLimit : Nat := 2000

/-- Whether a label meets the conditions that do not depend on the labels beside it. -/
def isLabel (label : List Char) : Bool :=
  label.all isAllowed && (label.all isAscii || label.length ≤ labelLimit)
    && !label.head?.any Mark.isMark && Joining.fits label

/-- Reads a label behind the mark of labels in ASCII characters. What it decodes to is not all
ASCII, or there would have been no need for the mark. -/
def decoded? (text : List Char) : Option (List Char) :=
  if encodedLimit < text.length then none
  else (Punycode.decode? text).filter fun label =>
    !label.all isAscii && Text.isComposed label && isLabel label

/-- Reads a label. -/
def label? (text : List Char) : Option (List Char) :=
  if encodedMark.isPrefixOf text then decoded? (text.drop encodedMark.length)
  else if isLabel text then some text else none

/-- The characters of a name, with those that stand for others replaced. -/
def settled? (text : List Char) : Option (List Char) :=
  (text.mapM settle?).map fun characters => Text.composed characters.flatten

/-- Whether the labels of a name may stand side by side. -/
def directionsFit (labels : List (List Char)) : Bool :=
  !labels.any Direction.runsLeft || labels.all Direction.fits

/-- Reads a name as its labels. -/
def ofChars? (text : List Char) : Option (List (List Char)) := do
  let name ← settled? text
  let labels ← (name.splitOn '.').mapM label?
  if directionsFit labels then some labels else none

end ClusterProxy.Domain
