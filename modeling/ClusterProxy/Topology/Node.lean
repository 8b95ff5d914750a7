import ClusterProxy.Fault
import ClusterProxy.Slot
import ClusterProxy.Text.Digits
import ClusterProxy.Text.Words

/-!
# Nodes of a cluster

A node describes the cluster it belongs to in lines of text, one for each node: identifier,
address, flags, the master it replicates, three numbers, the state of its link, and the slots it
serves. `Node.ofLine` reads one such line.
-/

namespace ClusterProxy

/-- A range of slots that holds both its bounds, and so at least one slot. -/
structure SlotRange where
  first : Nat
  last : Nat
  ordered : first ≤ last
deriving DecidableEq, Repr

namespace SlotRange

/-- The range between two bounds; it is cut to its first slot if they are the wrong way round. -/
def ofBounds (first last : Nat) : SlotRange := ⟨first, max last first, Nat.le_max_right last first⟩

/-- Whether a slot is in the range. -/
def contains (range : SlotRange) (slot : Nat) : Bool := range.first ≤ slot && slot ≤ range.last

/-- The number of slots in the range. -/
def length (range : SlotRange) : Nat := range.last - range.first + 1

/-- The slots in the range, in order. -/
def slots (range : SlotRange) : List Nat := List.range' range.first range.length

end SlotRange

/-- What a node does for its cluster. -/
inductive Role where
  /-- Serves slots. -/
  | master
  /-- Follows a master. -/
  | replica
deriving DecidableEq, Repr

/-- One node, as a line describes it. -/
structure Node where
  id : String
  address : String
  role : Role
  myself : Bool
  connected : Bool
  master : Option String
  ranges : List SlotRange
deriving DecidableEq, Repr

namespace Node

/-- The fields in front of the slots. -/
def minFields : Nat := 8

/-- The role a flag stands for. A node that is still being greeted counts as a master. -/
def roleOfFlag (flag : List Char) : Option Role :=
  if flag = "master".toList ∨ flag = "handshake".toList then some .master
  else if flag = "slave".toList ∨ flag = "replica".toList then some .replica
  else none

/-- The role the flags give; the last one that names a role decides. -/
def roleOfFlags (flags : List (List Char)) : Option Role := (flags.filterMap roleOfFlag).getLast?

/-- Reads a slot number; what is wrong otherwise. -/
def slotOfWord (word : List Char) : Except String Nat :=
  match Text.decimal? Slot.count word with
  | some slot => .ok slot
  | none => .error ("invalid slot '" ++ String.ofList word ++ "'")

/-- Reads `N` or `N-M`. A word in brackets tells of a slot that is moving and gives no range. -/
def rangeOfWord (word : List Char) : Except String (Option SlotRange) :=
  if word.head? = some '[' then .ok none
  else match word.dropWhile fun c => c != '-' with
    | [] => do
      let slot ← slotOfWord word
      return some (.ofBounds slot slot)
    | _ :: after => do
      let first ← slotOfWord (word.takeWhile fun c => c != '-')
      let last ← slotOfWord after
      return some (.ofBounds first last)

/-- Reads the slots of a master. -/
def rangesOfWords (words : List (List Char)) : Except String (List SlotRange) := do
  let ranges ← words.mapM rangeOfWord
  return ranges.filterMap fun range => range

/-- The address at which clients are served, without what a line may add to it: the cluster bus's
port after `@`, or a name after a comma. -/
def clientAddress (field : List Char) : List Char := field.takeWhile fun c => c != '@' && c != ','

/-- Reads the fields of a line; what is wrong otherwise. -/
def ofFields (fields : List (List Char)) : Except String Node :=
  match fields with
  | id :: address :: flags :: master :: _ :: _ :: _ :: link :: slots =>
    let flagWords := flags.splitOn ','
    match roleOfFlags flagWords with
    | none => .error ("no role in flags '" ++ String.ofList flags ++ "'")
    | some role => do
      let ranges ← if role = .master then rangesOfWords slots else .ok []
      return {
        id := String.ofList id
        address := String.ofList (clientAddress address)
        role
        myself := flagWords.contains "myself".toList
        connected := Text.sameWord link "connected".toList
        master := if master = ['-'] then none else some (String.ofList master)
        ranges }
  | _ =>
    .error ("expected at least " ++ toString minFields ++ " fields, found "
      ++ toString fields.length)

/-- The fields of a line. -/
def fields (line : String) : List (List Char) :=
  Text.words (Text.dropEndWhile (fun c => c == '\r' || c == '\n') line.toList)

/-- Reads a line. -/
def ofLine (line : String) : Except Fault Node :=
  match ofFields (fields line) with
  | .ok node => .ok node
  | .error reason => .error (.malformedNode line reason)

/-- Whether the node's slots count: it is a master that can be reached. -/
def ownsSlots (node : Node) : Bool := node.role = .master && node.connected

/-- Whether the address is a port alone, as that of a node that does not know its own host. -/
def hasNoHost (node : Node) : Bool := node.address.toList.head? = some ':'

end Node

end ClusterProxy
