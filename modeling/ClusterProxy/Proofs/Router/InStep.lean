import ClusterProxy.Proofs.Router.Run

/-!
# Connections to nodes stay in step

A node answers each command it is sent by one frame, in order. So for each time a request is sent,
as many frames have to be read from the connection as commands were sent, or the next request on it
gets an answer that is not its own. `InStep` says what this comes to, and `Run.in_step` that it
holds for each time a request is sent in any run, whatever the node sends and in whatever pieces.

The argument is a balance: `Attempt.owed` is the number of frames that are to come, and `Reads` says
that the frames that were read and the frames that are owed make up what was owed before
(`InFlight.reads` for one call, `Hears.reads` for all of them).
-/

namespace ClusterProxy

def Attempt.owed (attempt : Attempt) : Nat := if attempt.ack = .pending then 2 else 1

theorem Attempt.owed_pos (attempt : Attempt) : 1 ≤ attempt.owed := by
  unfold owed
  split <;> omega

/-- The frames that were read from the front of a stream in answer to what is owed, and what came of
it. Only a step that waits leaves something owed, apart from one that gives up the connection. -/
structure Reads (owed : Nat) (stream : Bytes) (outcome : Outcome) (frames : List Bytes) : Prop where
  stream : stream = frames.flatten ++ outcome.backend.buffer
  framed : ∀ frame ∈ frames, IsFrame frame
  atMost : frames.length ≤ owed
  waits : outcome.action = .needMore →
    ∃ attempt, outcome.flight.phase.attempt? = some attempt ∧ frames.length + attempt.owed = owed
  all : outcome.action ≠ .needMore → (∀ reply, outcome.action ≠ .dropBackend reply) →
    frames.length = owed
  last : ∀ reply, outcome.action = .forward reply → frames.getLast? = some reply

namespace Reads

variable {backend rest : Decoder} {reply : Decoded} {outcome : Outcome}

/-- Nothing is read, and either more is waited for or the connection is given up. -/
theorem nothing {attempt : Attempt} (left : outcome.backend = backend)
    (ends : outcome.action = .needMore ∧ outcome.flight.phase.attempt? = some attempt ∨
      ∃ reply, outcome.action = .dropBackend reply) :
    Reads attempt.owed backend.buffer outcome [] := by
  rcases ends with ⟨acts, attempted⟩ | ⟨reply, acts⟩
  · exact ⟨by simp [left], by simp, Nat.zero_le _, fun _ => ⟨attempt, attempted, Nat.zero_add _⟩,
      fun done => absurd acts done, by simp [acts]⟩
  · exact ⟨by simp [left], by simp, Nat.zero_le _, by simp [acts],
      fun _ kept => absurd acts (kept reply), by simp [acts]⟩

theorem one (given : backend.next = (.complete reply, rest)) (left : outcome.backend = rest)
    (done : outcome.action ≠ .needMore)
    (passed : ∀ bytes, outcome.action = .forward bytes → bytes = reply.bytes) :
    Reads 1 backend.buffer outcome [reply.bytes] where
  stream := by
    rw [List.flatten_singleton, left, Decoder.bytes_append_buffer given]
  framed := by
    simpa using isFrame_of_next given
  atMost := Nat.le_refl 1
  waits acts := absurd acts done
  all _ _ := rfl
  last bytes acts := by
    rw [passed bytes acts]
    rfl

theorem cons {owed : Nat} {frames : List Bytes} (given : backend.next = (.complete reply, rest))
    (reads : Reads owed rest.buffer outcome frames) :
    Reads (owed + 1) backend.buffer outcome (reply.bytes :: frames) where
  stream := by
    rw [List.flatten_cons, List.append_assoc, ← reads.stream, Decoder.bytes_append_buffer given]
  framed := List.forall_mem_cons.2 ⟨isFrame_of_next given, reads.framed⟩
  atMost := Nat.succ_le_succ reads.atMost
  waits acts := by
    obtain ⟨attempt, attempted, balance⟩ := reads.waits acts
    exact ⟨attempt, attempted, by rw [List.length_cons]; omega⟩
  all done kept := by rw [List.length_cons, reads.all done kept]
  last bytes acts := by
    rw [List.getLast?_cons, reads.last bytes acts]
    rfl

/-- More octets arrive and are read after a step that waits. -/
theorem append {owed : Nat} {stream data : Bytes} {next : Outcome} {attempt : Attempt}
    {frames others : List Bytes} (reads : Reads owed stream outcome frames)
    (balance : frames.length + attempt.owed = owed)
    (onward : Reads attempt.owed (outcome.backend.append data).buffer next others) :
    Reads owed (stream ++ data) next (frames ++ others) where
  stream := by
    rw [List.flatten_append, List.append_assoc, ← onward.stream, reads.stream, List.append_assoc]
    rfl
  framed frame member := by
    rcases List.mem_append.1 member with member | member
    · exact reads.framed frame member
    · exact onward.framed frame member
  atMost := by
    have := onward.atMost
    rw [List.length_append]
    omega
  waits acts := by
    obtain ⟨later, attempted, rest⟩ := onward.waits acts
    exact ⟨later, attempted, by rw [List.length_append]; omega⟩
  all done kept := by
    rw [List.length_append, onward.all done kept, balance]
  last bytes acts := by
    rw [List.getLast?_append, onward.last bytes acts]
    rfl

end Reads

namespace InFlight

variable {flight : InFlight} {attempt : Attempt} {store : Store} {backend : Decoder}
  {outcome : Outcome}

theorem Heard.reads (heard : Heard flight attempt store backend outcome)
    (answered : attempt.ack ≠ .pending) :
    ∃ frames, Reads attempt.owed backend.buffer outcome frames := by
  have single : attempt.owed = 1 := if_neg answered
  -- Once a frame is read the exchange is over, so nothing is owed any more.
  cases heard with
  | waits missing => exact ⟨[], .nothing rfl (.inl ⟨rfl, rfl⟩)⟩
  | breaks wrong => exact ⟨[], .nothing rfl (.inr ⟨_, rfl⟩)⟩
  | @refused reply rest fault given ack =>
    rw [single]
    have closes := closes_fail flight fault
    exact ⟨_, .one given rfl closes.done fun _ acts => absurd acts (closes.kept _)⟩
  | @malformed reply rest fault given kept unread =>
    rw [single]
    have closes := closes_fail flight fault
    exact ⟨_, .one given rfl closes.done fun _ acts => absurd acts (closes.kept _)⟩
  | @settled reply rest reading given kept read =>
    rw [single]
    rcases settle_cases flight attempt reply reading with
      ⟨_, ends⟩ | ⟨_, node, delay, asking, ends, _⟩
    · exact ⟨_, .one given rfl (by simp [ends]) (by simp [ends])⟩
    · have closes := closes_redirect flight node delay asking
      rw [← ends] at closes
      exact ⟨_, .one given rfl closes.done fun _ acts => absurd acts (closes.kept _)⟩

/-- A call for bytes of the node reads no more frames than are owed, and all of them unless it waits
or gives up the connection. Behind `ASKING` it is the later one that can be passed on. -/
theorem reads (attempted : flight.phase.attempt? = some attempt) (store : Store)
    (backend : Decoder) :
    ∃ frames, Reads attempt.owed backend.buffer (flight.onReply store backend) frames := by
  have replied := replied attempted store backend
  generalize flight.onReply store backend = outcome at replied
  cases replied with
  | direct answered heard => exact heard.reads answered
  | waits pending missing => exact ⟨[], .nothing rfl (.inl ⟨rfl, rfl⟩)⟩
  | breaks pending wrong => exact ⟨[], .nothing rfl (.inr ⟨_, rfl⟩)⟩
  | @acked answer rest outcome pending given heard =>
    have answered := ackOf_ne_pending answer
    obtain ⟨frames, reads⟩ := heard.reads answered
    have owed : attempt.owed = Attempt.owed { attempt with ack := ackOf answer } + 1 := by
      unfold Attempt.owed
      rw [if_pos pending, if_neg answered]
    rw [owed]
    exact ⟨_, .cons given reads⟩

end InFlight

/-! ## All calls for one time the request is sent -/

/-- What came of the calls for bytes of the node that a request was sent to. The first call is made
with what was left on the connection and what arrived since, and another one is made whenever more
is waited for. Others may write to the store in between. -/
inductive Hears (flight : InFlight) (backend : Decoder) : Bytes → Outcome → Prop where
  | first (store : Store) (data : Bytes) :
      Hears flight backend data (flight.onReply store (backend.append data))
  | more {arrived : Bytes} {outcome : Outcome} (hears : Hears flight backend arrived outcome)
      (waits : outcome.action = .needMore) (store : Store) (data : Bytes) :
      Hears flight backend (arrived ++ data)
        (outcome.flight.onReply store (outcome.backend.append data))

/-- All calls together read no more frames than were owed. -/
theorem Hears.reads {flight : InFlight} {attempt : Attempt} {backend : Decoder} {arrived : Bytes}
    {outcome : Outcome} (attempted : flight.phase.attempt? = some attempt)
    (hears : Hears flight backend arrived outcome) :
    ∃ frames, Reads attempt.owed (backend.buffer ++ arrived) outcome frames := by
  induction hears with
  | first store data => exact InFlight.reads attempted store (backend.append data)
  | @more arrived outcome hears waits store data ih =>
    obtain ⟨frames, reads⟩ := ih
    obtain ⟨later, awaited, balance⟩ := reads.waits waits
    obtain ⟨others, onward⟩ := InFlight.reads awaited store (outcome.backend.append data)
    rw [← List.append_assoc]
    exact ⟨_, reads.append balance onward⟩

/-! ## Every time a request is sent -/

/-- What was read from a connection in answer to a payload.

* `sent`, `payload`: `commands` are the commands in it, each in a frame of its own: the request,
  behind `ASKING` or not.
* `stream`: `frames` were read from the front of the stream, and the rest is left as it was.
* `atMost`, `waits`, `all`: no more frames were read than commands were sent, fewer while more is
  waited for, and as many in the end, if the connection is not given up.
* `last`: the reply that is passed on answers the last command, which is the request. -/
structure InStep (request : Request) (payload stream : Bytes) (outcome : Outcome)
    (commands frames : List Bytes) : Prop where
  sent : commands = [request.bytes] ∨ commands = [Call.asking.encode, request.bytes]
  payload : Framed payload commands
  stream : ∃ removed, Framed removed frames ∧ stream = removed ++ outcome.backend.buffer
  atMost : frames.length ≤ commands.length
  waits : outcome.action = .needMore → frames.length < commands.length
  all : outcome.action ≠ .needMore → (∀ reply, outcome.action ≠ .dropBackend reply) →
    frames.length = commands.length
  last : ∀ reply, outcome.action = .forward reply →
    frames.length = commands.length ∧ frames.getLast? = some reply

def InFlight.commands (request : Request) (asking : Bool) : List Bytes :=
  if asking then [Call.asking.encode, request.bytes] else [request.bytes]

theorem InFlight.framed_payload {request : Request} (framed : IsFrame request.bytes)
    (asking : Bool) : Framed (payload request asking) (commands request asking) := by
  unfold payload commands
  cases asking with
  | true => exact (Framed.singleton isFrame_asking).append (.singleton framed)
  | false => exact .singleton framed

/-- Whenever a request is sent, its connection stays in step. A call that the phase of a request
does not allow reads nothing. -/
theorem Run.in_step {router : Router} {cluster : String} {client : Decoder} {flight : InFlight}
    (accepted : (router.accept cluster client).1 = .complete flight)
    {turn : Turn} {before : List Turn} (run : Run flight turn before)
    {node : Option String} {payload : Bytes} {delay : Option Nat}
    (sends : turn.action = .dispatch node payload delay)
    {backend : Decoder} {arrived : Bytes} {outcome : Outcome}
    (hears : Hears turn.outcome.flight backend arrived outcome) :
    (∃ request commands frames, flight.request = some request ∧
        InStep request payload (backend.buffer ++ arrived) outcome commands frames) ∧
      ∀ (other : InFlight) (store : Store) (idle : Decoder),
        (other.phase.due? ≠ some .reply → (other.onReply store idle).backend = idle) ∧
          (other.phase.due? ≠ some .dump → (other.onTopology store idle).backend = idle) := by
  constructor
  · obtain ⟨request, asking, known, rfl, phase⟩ := turn.follows.sends _ _ _ sends
    rw [(run.kept turn List.mem_cons_self).request] at known
    obtain ⟨frames, reads⟩ := hears.reads (congrArg Phase.attempt? phase)
    -- When the request is sent, as many frames are owed as commands are in the payload.
    have owed : (⟨node, asking, if asking then .pending else .settled⟩ : Attempt).owed =
        (InFlight.commands request asking).length := by cases asking <;> rfl
    rw [owed] at reads
    refine ⟨request, InFlight.commands request asking, frames, known, ?_,
      InFlight.framed_payload (Router.isFrame_accept accepted known) asking,
      ⟨frames.flatten, ⟨rfl, reads.framed⟩, reads.stream⟩, reads.atMost, ?_, reads.all, ?_⟩
    · cases asking
      · exact .inl rfl
      · exact .inr rfl
    · intro waits
      obtain ⟨attempt, _, balance⟩ := reads.waits waits
      have left := attempt.owed_pos
      omega
    · intro reply acts
      exact ⟨reads.all (by simp [acts]) (by simp [acts]), reads.last reply acts⟩
  · intro other store idle
    unfold InFlight.onReply InFlight.onTopology
    cases other.phase <;> simp [Phase.due?, Phase.attempt?]

namespace Run.Sample

/-- The node that was sent `ASKING` and the request answers one of them, and a part of the other. -/
def early : Outcome :=
  moving.outcome.flight.onReply .empty ((node "").append (Text.utf8 "+OK\r\n$-"))

/-- The rest of the answer arrives, and a frame that answers neither. -/
def late : Outcome :=
  early.flight.onReply .empty (early.backend.append (Text.utf8 "1\r\n:1\r\n"))

theorem hears : Hears moving.outcome.flight (node "")
    (Text.utf8 "+OK\r\n$-" ++ Text.utf8 "1\r\n:1\r\n") late := by
  have first : Hears moving.outcome.flight (node "") (Text.utf8 "+OK\r\n$-") early := .first _ _
  exact first.more (by decide +kernel) _ _

theorem sends :
    moving.action = .dispatch (some "b:1") (Call.withAsking client.buffer) none := by
  decide +kernel

end Run.Sample

/-- Two frames are read behind `ASKING`, and a third one is left. -/
theorem Run.in_step_sample :
    (Sample.router.accept "c" Sample.client).1 = .complete Sample.flight ∧
      Run Sample.flight Sample.moving [Sample.learning, Sample.asking] ∧
      Sample.moving.action = .dispatch (some "b:1") (Call.withAsking Sample.client.buffer) none ∧
      Hears Sample.moving.outcome.flight (Sample.node "")
        (Text.utf8 "+OK\r\n$-" ++ Text.utf8 "1\r\n:1\r\n") Sample.late ∧
      Sample.late.action = .forward (Text.utf8 "$-1\r\n") ∧
      Sample.late.backend.buffer = Text.utf8 ":1\r\n" ∧
      ∃ request commands frames, Sample.flight.request = some request ∧
        InStep request (Call.withAsking Sample.client.buffer)
          (Text.utf8 "+OK\r\n$-" ++ Text.utf8 "1\r\n:1\r\n") Sample.late commands frames :=
  ⟨Sample.accepted, Sample.sent, Sample.sends, Sample.hears, by decide +kernel, by decide +kernel,
    (Run.in_step Sample.accepted Sample.sent Sample.sends Sample.hears).1⟩

end ClusterProxy
