import ClusterProxy.Proofs.Router.Progress
import ClusterProxy.Proofs.Router.Sending
import ClusterProxy.Proofs.Router.Way

/-!
# Each time a request is sent, the reply before says why

`Run.Exchange` says which frames were read from the node since the request was sent to it, and
`Answers` which of them is the reply to the request: the second one behind `ASKING`, once the first
one allowed it. `Run.exchanges` is what this comes to over a whole run, for any mix of redirects:
the reply alone decides what follows.

The attempt in the phase of a request knows what was sent last (`Attempt.Stands`), and keeps knowing
it while more is waited for (`Run.stands`).
-/

namespace ClusterProxy

/-! ## What is read -/

/-- The latest sending in a run, and the frames that were read since. -/
inductive Run.Exchange : List Turn → Sending → List Decoded → Prop where
  | sent {turn : Turn} {before : List Turn} {sending : Sending} :
      turn.action.sending? = some sending → Exchange (turn :: before) sending []
  | waited {turn : Turn} {before : List Turn} {sending : Sending} {read more : List Decoded} :
      Exchange before sending read → turn.action = .needMore →
      turn.backend.Takes more turn.outcome.backend →
      Exchange (turn :: before) sending (read ++ more)

/-- The frames that answer a payload, and the reply to the request among them. Behind `ASKING` the
reply is the second frame, and the first one is a status line. -/
inductive Answers (bytes : Bytes) : (payload : Bytes) → List Decoded → Decoded → Prop where
  | plain (reply : Decoded) : Answers bytes bytes [reply] reply
  | asking {ack : Decoded} (reply : Decoded) : ack.frame.kind = .status →
      Answers bytes (Call.withAsking bytes) [ack, reply] reply

/-- The latest sending before a step is answered in it: what is on the connection completes the
frames that were read before to an answer. -/
def Run.Answered (bytes : Bytes) (turn : Turn) (before : List Turn) (last : Sending)
    (reply : Decoded) (left : Decoder) : Prop :=
  ∃ read new, Run.Exchange before last read ∧ turn.backend.Takes new left ∧
    Answers bytes last.payload (read ++ new) reply

/-! ## What the attempt knows -/

/-- The attempt knows which node was sent which bytes, and what was read of the answer to them. -/
structure Attempt.Stands (attempt : Attempt) (request : Request) (last : Sending)
    (read : List Decoded) : Prop where
  node : last.node = attempt.node
  payload : last.payload = InFlight.payload request attempt.asking
  read : (read = [] ∧ attempt.ack = if attempt.asking then .pending else .settled) ∨
    attempt.asking = true ∧ ∃ answer, read = [answer] ∧ attempt.ack = InFlight.ackOf answer

namespace InFlight

variable {flight : InFlight} {attempt : Attempt} {request : Request} {last : Sending}
  {read : List Decoded} {store : Store} {backend left : Decoder} {reply : Decoded}

/-- After a call that waits the attempt stands as before, with what the call has read. -/
theorem stands_of_waits (attempted : flight.phase.attempt? = some attempt)
    (stands : attempt.Stands request last read)
    (waits : (flight.onReply store backend).action = .needMore) {more : List Decoded}
    (takes : backend.Takes more (flight.onReply store backend).backend) :
    ∃ later, (flight.onReply store backend).flight.phase.attempt? = some later ∧
      later.Stands request last (read ++ more) := by
  rcases (replied attempted store backend).eq_of_waits waits with
    same | ⟨pending, answer, rest, given, same⟩
  · rw [same] at takes ⊢
    obtain rfl := takes.unique (.nothing backend)
    exact ⟨attempt, rfl, by rwa [List.append_nil]⟩
  · rw [same] at takes ⊢
    obtain rfl := takes.unique (Decoder.Takes.singleton_iff.2 given)
    refine ⟨_, rfl, stands.node, stands.payload, .inr ?_⟩
    rcases stands.read with ⟨rfl, ack⟩ | ⟨_, _, _, ack⟩
    · refine ⟨?_, answer, rfl, rfl⟩
      by_contra plain
      rw [if_neg plain, pending] at ack
      cases ack
    · exact absurd (ack.symm.trans pending) (ackOf_ne_pending _)

theorem takes_of_waits (attempted : flight.phase.attempt? = some attempt)
    (waits : (flight.onReply store backend).action = .needMore) :
    ∃ more, backend.Takes more (flight.onReply store backend).backend := by
  rcases (replied attempted store backend).eq_of_waits waits with
    same | ⟨_, answer, rest, given, same⟩
  · exact same ▸ ⟨[], .nothing backend⟩
  · exact same ▸ ⟨[answer], Decoder.Takes.singleton_iff.2 given⟩

end InFlight

/-! ## What a request that was not sent can do -/

namespace Run

variable {flight : InFlight} {turn : Turn} {before : List Turn} {last : Sending}
  {read : List Decoded}

theorem Exchange.sent_pos {turns : List Turn} (exchange : Exchange turns last read) :
    1 ≤ Run.sent turns := by
  induction exchange with
  | @sent turn before sending sends =>
    have acts := Action.sending?_eq_some_iff.1 sends
    rw [sent_cons]
    simp [Turn.sends, acts]
  | waited exchange waits takes ih =>
    rw [sent_cons]
    omega

theorem Exchange.exists_sending {turns : List Turn} (exchange : Exchange turns last read) :
    ∃ past ∈ turns, past.action.sending? = some last := by
  induction exchange with
  | sent sends => exact ⟨_, List.mem_cons_self, sends⟩
  | waited exchange waits takes ih =>
    obtain ⟨past, member, sends⟩ := ih
    exact ⟨past, List.mem_cons_of_mem _ member, sends⟩

theorem stands_of_sending (run : Run flight turn before) {sending : Sending}
    (sends : turn.action.sending? = some sending) :
    turn.next? = some .reply ∧ ∃ request attempt, flight.request = some request ∧
      turn.outcome.flight.phase.attempt? = some attempt ∧ attempt.Stands request sending [] := by
  have acts := Action.sending?_eq_some_iff.1 sends
  obtain ⟨request, asking, known, bytes, phase⟩ := turn.follows.sends _ _ _ acts
  rw [(run.kept turn List.mem_cons_self).request] at known
  exact ⟨by simp [Turn.next?, acts], request, _, known, congrArg Phase.attempt? phase, rfl, bytes,
    .inl ⟨rfl, rfl⟩⟩

/-- The attempt in the phase of a request knows the latest sending and what was read since. -/
theorem stands (run : Run flight turn before) (exchange : Exchange (turn :: before) last read) :
    turn.next? = some .reply ∧ ∃ request attempt, flight.request = some request ∧
      turn.outcome.flight.phase.attempt? = some attempt ∧ attempt.Stands request last read := by
  induction run generalizing last read with
  | start writes backend =>
    cases exchange with
    | sent sends => exact stands_of_sending (.start writes backend) sends
    | waited exchange => cases exchange
  | @step turn before due run next writes backend ih =>
    cases exchange with
    | sent sends => exact stands_of_sending (.step run next writes backend) sends
    | waited exchange waits takes =>
      obtain ⟨awaits, request, attempt, known, attempted, stands⟩ := ih exchange
      obtain rfl : Due.reply = due := Option.some.inj (awaits.symm.trans next)
      obtain ⟨later, reattempted, stands⟩ := InFlight.stands_of_waits attempted stands waits takes
      refine ⟨?_, request, later, known, reattempted, stands⟩
      unfold Turn.next?
      rw [waits]

/-- Whenever a reply is due, the request was sent before. -/
theorem exists_exchange (run : Run flight turn before) (awaits : turn.next? = some .reply) :
    ∃ last read, Exchange (turn :: before) last read := by
  have begins {turn : Turn} (awaits : turn.next? = some .reply) :
      (∃ sending, turn.action.sending? = some sending) ∨
        turn.action = .needMore ∧ turn.due = .reply := by
    unfold Turn.next? at awaits
    unfold Action.sending?
    cases acts : turn.action <;> simp_all
  induction run with
  | start writes backend =>
    rcases begins awaits with ⟨sending, sends⟩ | ⟨_, due⟩
    · exact ⟨sending, [], .sent sends⟩
    · cases due
  | @step turn before due run next writes backend ih =>
    rcases begins awaits with ⟨sending, sends⟩ | ⟨waits, rfl⟩
    · exact ⟨sending, [], .sent sends⟩
    · obtain ⟨last, read, exchange⟩ := ih next
      obtain ⟨_, _, attempt, _, attempted, _⟩ := run.stands exchange
      obtain ⟨more, takes⟩ := InFlight.takes_of_waits attempted waits
      exact ⟨last, read ++ more, .waited exchange waits takes⟩

/-- Before a request was sent, no reply is due. -/
theorem due_ne_reply (run : Run flight turn before) (unsent : Run.sent before = 0) :
    turn.due ≠ .reply := by
  cases run with
  | start => simp
  | step run next =>
    rintro rfl
    obtain ⟨last, read, exchange⟩ := run.exists_exchange next
    have pos := exchange.sent_pos
    omega

/-- Before a request was sent, something is passed on only if the request is routed. -/
theorem routes_of_unsent (run : Run flight turn before) (unsent : Run.sent before = 0)
    (passes : turn.action.passes = true) :
    ∃ now, flight.Kept now ∧ ((turn.due = .start ∧ now = turn.flight) ∨ turn.learns = true) ∧
      now.Routes turn.outcome.store turn.outcome.toStep := by
  have kept := run.kept turn List.mem_cons_self
  cases turn.way with
  | routes still begins routes => exact ⟨_, kept.trans still, begins, routes⟩
  | goesOn goesOn => exact absurd (goesOn.passes passes) (run.due_ne_reply unsent)

section

variable {bytes : Bytes} (came : ∀ request, flight.request = some request → request.bytes = bytes)
include came

variable (fresh : Tally flight [] flight)
  (bounded : flight.settings.maxRedirects.toNat < 4294967295)
include fresh bounded

end

namespace Sample

def granted : Decoded := ⟨Text.utf8 "+OK\r\n", ⟨⟨.status, some ⟨1, 3⟩, false, []⟩, 5⟩⟩

def absent : Decoded := ⟨Text.utf8 "$-1\r\n", ⟨⟨.bulk, none, true, []⟩, 5⟩⟩

/-- What was sent behind `ASKING` is answered by the second frame of the node. -/
theorem answered : Answered decoded.bytes serving [moving, learning, asking]
    ⟨some "b:1", Call.withAsking decoded.bytes, none⟩ absent (node ":1\r\n") := by
  have first : serving.backend.next = (.complete granted, node "$-1\r\n:1\r\n") := by
    decide +kernel
  have second : (node "$-1\r\n:1\r\n").next = (.complete absent, node ":1\r\n") := by
    decide +kernel
  exact ⟨[], [granted, absent], .sent (by decide +kernel),
    .frame first (.frame second (.nothing _)), .asking absent rfl⟩

end Sample

end Run

end ClusterProxy
