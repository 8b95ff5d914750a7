import ClusterProxy.Frame.Decoder
import ClusterProxy.Topology.Store

/-!
# What a reply says

Nodes answer with an error line to redirect a request. `MOVED` names the new owner of a slot,
`ASK` a node that is importing it, `TRYAGAIN` asks for patience; every other error is the answer.

`Reading.ofError` reads an error line, `Reading.ofFrame` any reply, and `Store.heed` writes what a
reply teaches into a store: the owner named by `MOVED`, and nothing else.
-/

namespace ClusterProxy

/-- The first word of an error line that is an answer. -/
inductive ErrorCode where
  | err
  | oom
  | busy
  | noAuth
  | loading
  | busyKey
  | misconf
  | wrongType
  | execAbort
  | masterDown
  | noReplicas
  | readOnly
  | clusterDown
  | crossSlot
  | other
deriving DecidableEq, Repr

namespace ErrorCode

/-- The words that are told apart. -/
def words : List (String × ErrorCode) := [
  ("ERR", err), ("OOM", oom), ("BUSY", busy), ("NOAUTH", noAuth), ("LOADING", loading),
  ("BUSYKEY", busyKey), ("MISCONF", misconf), ("WRONGTYPE", wrongType), ("EXECABORT", execAbort),
  ("MASTERDOWN", masterDown), ("NOREPLICAS", noReplicas), ("READONLY", readOnly),
  ("CLUSTERDOWN", clusterDown), ("CROSSSLOT", crossSlot)]

/-- The code of a word. -/
def ofWord (word : Bytes) : ErrorCode :=
  ((words.find? fun entry => Text.utf8 entry.1 == word).map Prod.snd).getD other

end ErrorCode

/-- What a reply means for the request that it answers. -/
inductive Reading where
  /-- No error. -/
  | answer
  /-- The slot has a new owner. -/
  | moved (slot : Nat) (address : String)
  /-- The slot is being imported by another node, which takes this request already. -/
  | ask (slot : Nat) (address : String)
  /-- The same node can serve the request a little later. -/
  | tryAgain
  /-- The node lacks a script. -/
  | noScript
  /-- Any other error. -/
  | failure (code : ErrorCode)
deriving DecidableEq, Repr

namespace Reading

/-- Whether the request is to be sent again. -/
def isRetry : Reading → Bool
  | moved _ _ => true
  | ask _ _ => true
  | tryAgain => true
  | _ => false

/-- The slot and the address that follow the first word of a redirect. -/
def target? (line : Bytes) : Option (Nat × String) :=
  match Bytes.tokens line with
  | _ :: slot :: address :: _ => do
    let slot ← Text.ofUtf8? slot
    let slot ← Text.decimal? Slot.count slot.toList
    let address ← Text.ofUtf8? address
    return (slot, address)
  | _ => none

/-- Reads the text of an error line, up to the first line break in it. -/
def ofError (payload : Bytes) : Except Fault Reading :=
  let line := payload.takeWhile fun b => b != Bytes.cr && b != Bytes.lf
  let code := line.takeWhile fun b => b != Bytes.space
  let redirect (reading : Nat → String → Reading) : Except Fault Reading :=
    match target? line with
    | some (slot, address) => .ok (reading slot address)
    | none => .error (.malformedRedirect (Text.ofUtf8Lossy line))
  if code = Text.utf8 "MOVED" then redirect moved
  else if code = Text.utf8 "ASK" then redirect ask
  else if code = Text.utf8 "TRYAGAIN" then .ok tryAgain
  else if code = Text.utf8 "NOSCRIPT" then .ok noScript
  else .ok (failure (ErrorCode.ofWord code))

/-- Reads a reply, whose spans are places in `buffer`. -/
def ofFrame (frame : Frame) (buffer : Bytes) : Except Fault Reading :=
  if frame.kind = .error then
    ofError ((frame.payload.map fun span => span.slice buffer).getD [])
  else .ok answer

end Reading

/-- Writes what a reply teaches about a cluster. -/
def Store.heed (store : Store) (cluster : String) : Reading → Store
  | .moved slot address => store.patch cluster slot address
  | _ => store

end ClusterProxy
