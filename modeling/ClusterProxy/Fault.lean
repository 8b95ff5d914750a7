import ClusterProxy.Frame.Scan
import ClusterProxy.Text.Utf8

/-!
# Faults

Everything that can go wrong for a request, as causes. `Fault.message` is the wording of each
cause, `Fault.reply` the error line that a client is sent for it.

Only bytes that are no frame end a client's connection (`Fault.isFatal`): after them nobody can
tell where the next request starts. Every other fault ends one request.
-/

namespace ClusterProxy

/-- Why a request, a connection, a dump or a setting is refused. -/
inductive Fault where
  | invalidFrame (reason : String)
  | unknownCommand (name : String)
  | emptyCommand
  | missingKey (command : String)
  | malformedNode (line : String) (reason : String)
  | emptyTopology (cluster : String)
  | malformedRedirect (line : String)
  | tooManyRedirects (attempts : Nat)
  | crossSlot (slots : Nat)
  | slotNotCovered (slot : Nat)
  | noSeedNode (cluster : String)
  | protocol (what : String)
  | invalidArgument (what : String)
deriving DecidableEq, Repr

namespace Fault

/-- The fault of octets that are no frame. -/
def ofFrame (why : FrameFault) : Fault := invalidFrame why.reason

/-- The wording of a fault. -/
def message : Fault → String
  | invalidFrame reason => "invalid frame: " ++ reason
  | unknownCommand name => "unknown command '" ++ name ++ "'"
  | emptyCommand => "empty command"
  | missingKey command => "wrong number of arguments for '" ++ command ++ "' command"
  | malformedNode line reason => "malformed topology line '" ++ line ++ "': " ++ reason
  | emptyTopology cluster => "topology dump for cluster '" ++ cluster ++ "' contains no nodes"
  | malformedRedirect line => "malformed redirect: " ++ line
  | tooManyRedirects attempts => "too many redirections (" ++ toString attempts ++ ")"
  | crossSlot slots =>
    "CROSSSLOT keys in request don't hash to the same slot (" ++ toString slots ++ " slots)"
  | slotNotCovered slot => "CLUSTERDOWN hash slot " ++ toString slot ++ " not served"
  | noSeedNode cluster => "no node known for cluster '" ++ cluster ++ "'"
  | protocol what => "protocol error: " ++ what
  | invalidArgument what => "invalid argument: " ++ what

/-- Whether the connection that brought the fault can be read no further. -/
def isFatal : Fault → Bool
  | invalidFrame _ => true
  | _ => false

/-- Faults whose wording starts with an error code of its own. -/
def hasCode : Fault → Bool
  | crossSlot _ => true
  | slotNotCovered _ => true
  | _ => false

/-- Line breaks become spaces, so a text stays on one line. -/
def onOneLine (text : List Char) : List Char :=
  text.map fun c => if c = '\r' ∨ c = '\n' then ' ' else c

/-- The text of the error line: an error code, then the wording, on one line. -/
def line (fault : Fault) : String :=
  let text := if fault.hasCode then fault.message else "ERR " ++ fault.message
  String.ofList (onOneLine text.toList)

/-- The error reply for the client. -/
def reply (fault : Fault) : Bytes := (Message.error (Text.utf8 fault.line)).encode

end Fault

end ClusterProxy
