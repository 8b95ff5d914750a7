import ClusterProxy.Command.Basic
import ClusterProxy.Fault
import ClusterProxy.Frame.Decoder
import ClusterProxy.SlotGroup
import ClusterProxy.Text.Digits
import ClusterProxy.Text.Words

/-!
# Requests

A client's frame becomes a `Request`: the command it names and its keys, in groups of one slot
each. `Request.ofDecoded` reads the frame and says what is wrong with one that is no request;
`Request.targetSlot` says where the request goes.
-/

namespace ClusterProxy

/-- A client's request: its frame, its command, and its keys by slot. -/
structure Request where
  decoded : Decoded
  command : Command
  groups : List SlotGroup
deriving DecidableEq, Repr

namespace Request

/-- The request as the client sent it. -/
def bytes (request : Request) : Bytes := request.decoded.bytes

/-- Requests without a key can go to any node. -/
def isKeyless (request : Request) : Bool := request.groups.isEmpty

/-- The slot of the request, if it has keys. Keys of different slots have no common target. -/
def targetSlot (request : Request) : Except Fault (Option Nat) :=
  match request.groups with
  | [] => .ok none
  | [group] => .ok (some group.slot)
  | groups => .error (.crossSlot groups.length)

/-- Numbers of keys are unsigned numbers of 64 bits. -/
def keyCountBound : Nat := 18446744073709551616

/-- The fault of a command that lacks a key it needs. -/
def missingKey (command : Command) : Fault :=
  .missingKey (String.ofList (Text.lower command.name.toList))

/-- All arguments, if none of them is null. -/
def present (args : List (Option Bytes)) : Option (List Bytes) := args.mapM id

/-- Items without a value. -/
def plainItems (keys : List Bytes) : List Item := keys.map fun key => ⟨key, none⟩

/-- Items of keys and values in turn; none for a key without a value at the end. `seen` holds the
items before them, newest first. -/
def pairItemsAfter (seen : List Item) : List Bytes → Option (List Item)
  | [] => some seen.reverse
  | [_] => none
  | key :: value :: rest => pairItemsAfter (⟨key, some value⟩ :: seen) rest

/-- Items of keys and values in turn; none for a key without a value at the end. -/
def pairItems (args : List Bytes) : Option (List Item) := pairItemsAfter [] args

/-- The number of keys of a script. -/
def keyCount? (text : Bytes) : Option Nat :=
  (Text.ofUtf8? text).bind fun text => Text.decimal? keyCountBound text.toList

/-- The keys of a script: `args` holds the script, the number of keys, the keys and more. -/
def scriptItems (missing : Fault) (args : List (Option Bytes)) : Except Fault (List Item) :=
  match args with
  | _ :: some number :: rest =>
    match keyCount? number with
    | none => .error (.invalidArgument "number of keys is not an integer or out of range")
    | some count =>
      if rest.length < count then .error missing
      else match present (rest.take count) with
        | none => .error missing
        | some keys => .ok (plainItems keys)
  | _ => .error missing

/-- The items of a command's arguments. -/
def itemsOf (command : Command) (args : List (Option Bytes)) : Except Fault (List Item) :=
  let orMissing : Option (List Item) → Except Fault (List Item)
    | some items => .ok items
    | none => .error (missingKey command)
  match command.shape with
  | .noKey => .ok []
  | .keys => orMissing (if args.isEmpty then none else (present args).map plainItems)
  | .pairs => orMissing (if args.isEmpty then none else (present args).bind pairItems)
  | .script => scriptItems (missingKey command) args
  | _ => orMissing (args.head?.join.map fun key => plainItems [key])

/-- Reads a client's frame as a request. -/
def ofDecoded (decoded : Decoded) : Except Fault Request :=
  if !decoded.frame.isBulkArray then .error (.protocol "expected an array of bulk strings")
  else match decoded.elements with
    | some name :: args =>
      match Command.find? name with
      | none => .error (.unknownCommand (Text.ofUtf8Lossy name))
      | some command =>
        match itemsOf command args with
        | .error fault => .error fault
        | .ok items => .ok ⟨decoded, command, SlotGroup.ofItems items⟩
    | _ => .error .emptyCommand

end Request

end ClusterProxy
