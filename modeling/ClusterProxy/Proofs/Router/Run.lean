import ClusterProxy.Proofs.Router.Step
import ClusterProxy.Proofs.Topology.Table

/-!
# Runs of a request

A request is started once. After it was sent to a node, bytes of that node are due; after a node was
asked for a dump, bytes of that node are due, and so they are for as long as more are waited for.
`Run` says which steps can follow each other. The nodes may send anything, and between two steps
others may write anything to the store, so each step is taken with a backend and a store of its own.

This file also says what is counted along a run: the times the request was sent, the nodes that were
asked for a dump, and the dumps that were accepted.
-/

namespace ClusterProxy

/-- The step that is due for a request: the first one, one for bytes of the node that the request
was sent to, or one for bytes of the node that was asked for a dump. -/
inductive Due where
  | start
  | reply
  | dump
deriving DecidableEq, Repr

def Phase.due? : Phase → Option Due
  | classified => some .start
  | bootstrapping _ _ => some .dump
  | dispatching _ => some .reply
  | awaitingReply _ => some .reply
  | done => none
  | failed _ => none

theorem Phase.due?_eq_reply_iff {phase : Phase} :
    phase.due? = some .reply ↔ ∃ attempt, phase.attempt? = some attempt := by
  cases phase <;> simp [due?, attempt?]

theorem Phase.due?_eq_dump_iff {phase : Phase} :
    phase.due? = some .dump ↔ ∃ node others, phase = .bootstrapping node others := by
  cases phase <;> simp [due?]

/-- Takes the step that is due. The first one looks at no backend. -/
def InFlight.take (flight : InFlight) (due : Due) (store : Store) (backend : Decoder) : Outcome :=
  match due with
  | .start => ⟨flight.start store, store, backend⟩
  | .reply => flight.onReply store backend
  | .dump => flight.onTopology store backend

/-- A step that was taken for a request: what it was taken with. -/
structure Turn where
  flight : InFlight
  due : Due
  store : Store
  backend : Decoder
deriving DecidableEq, Repr

namespace Turn

def outcome (turn : Turn) : Outcome := turn.flight.take turn.due turn.store turn.backend

def action (turn : Turn) : Action := turn.outcome.action

/-- The step that is due next; none if the request has ended. -/
def next? (turn : Turn) : Option Due :=
  match turn.action with
  | .dispatch _ _ _ => some .reply
  | .bootstrap _ _ => some .dump
  | .needMore => some turn.due
  | _ => none

/-- Whether the step sends the request to a node. -/
def sends (turn : Turn) : Bool :=
  match turn.action with
  | .dispatch _ _ _ => true
  | _ => false

/-- The node that the step asks for a dump. -/
def asks? (turn : Turn) : Option String :=
  match turn.action with
  | .bootstrap node _ => some node
  | _ => none

/-- The reply that the step gives to the client. -/
def replies? (turn : Turn) : Option Bytes :=
  match turn.action with
  | .forward reply => some reply
  | .respond reply => some reply
  | .dropBackend reply => some reply
  | _ => none

def waits (turn : Turn) : Bool := turn.action == .needMore

/-- Whether the step accepts a dump, which replaces the table of the cluster. -/
def learns (turn : Turn) : Bool :=
  match turn.due, turn.flight.phase, turn.backend.next.1 with
  | .dump, .bootstrapping node _, .complete reply =>
    (turn.flight.learned turn.store node reply).isOk
  | _, _, _ => false

end Turn

/-- The steps that can be taken for a request, the latest one in front of those before it. The store
starts with any writes, and any writes by others come in between; the backend of each step is any
decoder. -/
inductive Run (flight : InFlight) : Turn → List Turn → Prop where
  | start (writes : List Store.Write) (backend : Decoder) :
      Run flight ⟨flight, .start, Store.empty.after writes, backend⟩ []
  | step {turn : Turn} {before : List Turn} {due : Due} (run : Run flight turn before)
      (next : turn.next? = some due) (writes : List Store.Write) (backend : Decoder) :
      Run flight ⟨turn.outcome.flight, due, turn.outcome.store.after writes, backend⟩
        (turn :: before)

namespace Run

/-! ## What is counted along a run -/

/-- How many times the request was sent to a node. -/
def sent (turns : List Turn) : Nat := turns.countP Turn.sends

/-- The nodes that were asked for a dump, the first one in front. -/
def asked (turns : List Turn) : List String := turns.reverse.filterMap Turn.asks?

/-- The step that asked the first node for a dump. -/
def asking? (turns : List Turn) : Option Turn := turns.reverse.find? fun turn => turn.asks?.isSome

/-- How many dumps were accepted for the request. -/
def learned (turns : List Turn) : Nat := turns.countP Turn.learns

/-- How many steps did not only wait for bytes. -/
def moved (turns : List Turn) : Nat := turns.countP fun turn => !turn.waits

variable (turn : Turn) (before : List Turn)

theorem sent_cons : sent (turn :: before) = sent before + if turn.sends then 1 else 0 :=
  List.countP_cons

theorem learned_cons : learned (turn :: before) = learned before + if turn.learns then 1 else 0 :=
  List.countP_cons

theorem moved_cons : moved (turn :: before) = moved before + if turn.waits then 0 else 1 := by
  unfold moved
  rw [List.countP_cons]
  cases turn.waits <;> rfl

theorem asked_cons : asked (turn :: before) = asked before ++ turn.asks?.toList := by
  unfold asked
  rw [List.reverse_cons, List.filterMap_append]
  cases asks : turn.asks? <;> simp [asks]

theorem asking?_cons :
    asking? (turn :: before) =
      (asking? before).or (if turn.asks?.isSome then some turn else none) := by
  unfold asking?
  rw [List.reverse_cons, List.find?_append]
  cases asks : turn.asks? <;> simp [asks]

end Run

/-! ## What a step writes -/

theorem InFlight.Heard.store_eq {flight : InFlight} {attempt : Attempt} {store : Store}
    {backend : Decoder} {outcome : Outcome} (heard : Heard flight attempt store backend outcome) :
    outcome.store = store ∨
      ∃ slot address, outcome.store = store.patch flight.cluster slot address := by
  cases heard with
  | settled given kept read =>
    unfold Store.heed
    split
    · exact .inr ⟨_, _, rfl⟩
    · exact .inl rfl
  | _ => exact .inl rfl

/-- What a step writes: a whole table if it accepts a dump, else a single slot at most. -/
inductive Turn.Writes (turn : Turn) : Prop where
  | nothing : turn.learns = false → turn.outcome.store = turn.store → Turn.Writes turn
  | slot {slot : Nat} {address : String} : turn.learns = false →
      turn.outcome.store = turn.store.patch turn.flight.cluster slot address → Turn.Writes turn
  | table {dump : String} {origin : Option String} {summary : Dump.Summary} :
      turn.learns = true →
      turn.store.replace turn.flight.cluster dump origin = .ok (summary, turn.outcome.store) →
      Turn.Writes turn

theorem Turn.writes (turn : Turn) : turn.Writes := by
  obtain ⟨flight, due, store, backend⟩ := turn
  cases due with
  | start => exact .nothing rfl rfl
  | reply =>
    cases attempted : flight.phase.attempt? with
    | none =>
      refine .nothing rfl ?_
      simp [outcome, InFlight.take, InFlight.onReply, attempted]
    | some attempt =>
      obtain ⟨answered, rest, _, heard⟩ := (InFlight.replied attempted store backend).heard
      rcases heard.store_eq with same | ⟨slot, address, patched⟩
      · exact .nothing rfl same
      · exact .slot rfl patched
  | dump =>
    cases phase : flight.phase with
    | bootstrapping node others =>
      have taken : (⟨flight, .dump, store, backend⟩ : Turn).outcome =
        flight.onTopology store backend := rfl
      have informed := InFlight.informed phase store backend
      generalize flight.onTopology store backend = outcome at taken informed
      cases informed with
      | waits missing => exact .nothing (by simp [learns, phase, missing]) (by rw [taken])
      | breaks wrong => exact .nothing (by simp [learns, phase, wrong]) (by rw [taken])
      | failsOver given unusable listed =>
        exact .nothing (by simp [learns, phase, given, unusable, Except.isOk, Except.toBool])
          (by rw [taken])
      | givesUp given unusable listed =>
        exact .nothing (by simp [learns, phase, given, unusable, Except.isOk, Except.toBool])
          (by rw [taken])
      | @learns reply rest written given learned =>
        obtain ⟨dump, summary, _, replaced⟩ := InFlight.replace_of_learned learned
        rw [show written = (⟨flight, .dump, store, backend⟩ : Turn).outcome.store by rw [taken]]
          at replaced
        exact .table (by simp [Turn.learns, phase, given, learned, Except.isOk, Except.toBool])
          replaced
    -- In every other phase the call is refused before anything is read.
    | _ =>
      refine .nothing (by simp [learns, phase]) ?_
      simp [outcome, InFlight.take, InFlight.onTopology, phase]

theorem Turn.sound_outcome {turn : Turn} (sound : turn.store.Sound) : turn.outcome.store.Sound := by
  cases turn.writes with
  | nothing _ same => exact same ▸ sound
  | slot _ patched => exact patched ▸ sound.patch _ _ _
  | table _ replaced => exact sound.replace replaced

theorem Run.sound_store {flight : InFlight} {turn : Turn} {before : List Turn}
    (run : Run flight turn before) : turn.store.Sound := by
  induction run with
  | start writes backend => exact Store.sound_empty.after writes
  | step run next writes backend ih => exact (Turn.sound_outcome ih).after writes

theorem Run.sound_of_mem {flight : InFlight} {turn : Turn} {before : List Turn}
    (run : Run flight turn before) : ∀ past ∈ turn :: before, past.store.Sound := by
  induction run with
  | start writes backend => simpa using Store.sound_empty.after writes
  | step run next writes backend ih =>
    exact List.forall_mem_cons.2 ⟨(Run.step run next writes backend).sound_store, ih⟩

/-! ## What a run keeps -/

theorem Turn.follows (turn : Turn) : turn.flight.Follows turn.outcome.toStep := by
  unfold outcome InFlight.take
  cases turn.due with
  | start => exact InFlight.follows_start _ _
  | reply => exact InFlight.follows_onReply _ _ _
  | dump => exact InFlight.follows_onTopology _ _ _

/-- A run is one of the same request throughout. -/
theorem Run.kept {flight : InFlight} {turn : Turn} {before : List Turn}
    (run : Run flight turn before) : ∀ past ∈ turn :: before, flight.Kept past.flight := by
  induction run with
  | start writes backend => exact fun past member => List.mem_singleton.1 member ▸ .refl flight
  | @step turn before due run next writes backend ih =>
    exact List.forall_mem_cons.2 ⟨(ih turn List.mem_cons_self).trans turn.follows.kept, ih⟩

/-! ## A run -/

namespace Run.Sample

def router : Router := ⟨⟨2, 0, ["s:1"], 200, .reject⟩⟩

/-- A client's connection with one request, for a key of slot 9. -/
def client : Decoder := ⟨200, Text.utf8 "*2\r\n$3\r\nGET\r\n$2\r\nru\r\n"⟩

def decoded : Decoded :=
  ⟨client.buffer,
    ⟨⟨.array, none, false, [⟨.bulk, some ⟨8, 11⟩⟩, ⟨.bulk, some ⟨17, 19⟩⟩]⟩, 21⟩⟩

def flight : InFlight := router.receive "c" decoded

theorem given : client.next = (.complete decoded, .empty 200) := by decide +kernel

theorem accepted : (router.accept "c" client).1 = .complete flight := by decide +kernel

def node (text : String) : Decoder := ⟨200, Text.utf8 text⟩

/-- The seed is asked for a dump. -/
def asking : Turn := ⟨flight, .start, Store.empty.after [], node ""⟩

/-- Its dump is accepted, and the request is sent to a node. -/
def learning : Turn :=
  ⟨asking.outcome.flight, .dump, asking.outcome.store.after [.patch "d" 7 "x:1"],
    node "$48\r\nid0 a:1@2 master - 0 0 1 connected 0-9\nbad line\n\r\n"⟩

/-- The node sends the request on. -/
def moving : Turn :=
  ⟨learning.outcome.flight, .reply, learning.outcome.store.after [], node "-ASK 9 b:1\r\n"⟩

/-- The other node answers it. -/
def serving : Turn :=
  ⟨moving.outcome.flight, .reply, moving.outcome.store.after [.patch "c" 9 "b:1"],
    node "+OK\r\n$-1\r\n:1\r\n"⟩

/-- The request learns the cluster from the seed and is sent to a node. -/
theorem learned : Run flight learning [asking] := by
  have first : Run flight asking [] := .start [] _
  exact first.step (by decide +kernel) _ _

/-- The request has to be sent on. -/
theorem sent : Run flight moving [learning, asking] := learned.step (by decide +kernel) _ _

/-- The other node answers it. -/
theorem run : Run flight serving [moving, learning, asking] :=
  sent.step (by decide +kernel) _ _

end Run.Sample

end ClusterProxy
