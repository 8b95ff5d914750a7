import ClusterProxy.Frame.Basic
import ClusterProxy.Text.Utf8

/-!
# Commands that the proxy sends

A client's request is passed on in the bytes it came in. A `Call` is a command that the proxy
writes itself: the request for a topology dump, the `ASKING` in front of a redirected request, and
the part of a request that belongs to one slot.
-/

namespace ClusterProxy

/-- A command with its arguments. -/
structure Call where
  name : Bytes
  args : List Bytes
deriving DecidableEq, Repr

namespace Call

/-- A command without arguments. -/
def ofName (name : Bytes) : Call := ⟨name, []⟩

/-- Adds one argument at the end. -/
def add (call : Call) (arg : Bytes) : Call := { call with args := call.args ++ [arg] }

/-- Adds arguments at the end. -/
def addAll (call : Call) (args : List Bytes) : Call := { call with args := call.args ++ args }

/-- The name and the arguments. -/
def words (call : Call) : List Bytes := call.name :: call.args

/-- The call as an array of bulks. -/
def message (call : Call) : Message := .array (call.words.map .bulk)

/-- The bytes of the call. -/
def encode (call : Call) : Bytes := call.message.encode

/-- Asks a node for a topology dump. -/
def clusterNodes : Call := (ofName (Text.utf8 "CLUSTER")).add (Text.utf8 "NODES")

/-- Allows the next request on the connection to reach a slot that the node is importing. -/
def asking : Call := ofName (Text.utf8 "ASKING")

/-- Puts `ASKING` in front of a request. -/
def withAsking (request : Bytes) : Bytes := asking.encode ++ request

end Call

end ClusterProxy
