import ClusterProxy.Proofs.Router.Run

/-!
# Replies that arrive in pieces

`InFlight.feed` takes the step that is due for each piece of what a node sends, until no more is
waited for. It makes no difference how it was cut: the pieces come to what one step for all of it
comes to (`InFlight.pieces_irrelevant`), but for the wording with which a connection is given up,
since a decoder may refuse the front of a reply for another reason than all of it.

A step that waits keeps what it has read of the answer to `ASKING`, so the next one goes on where it
stopped (`InFlight.take_of_waits`), and a step that does not wait is the same step if more octets
are behind (`InFlight.take_append`). `InFlight.hear` is what becomes of the reply to a request.
-/

namespace ClusterProxy

/-- The outcomes are the same, but for the wording with which a connection is given up. -/
inductive Outcome.Alike : Outcome → Outcome → Prop where
  | same (outcome : Outcome) : Outcome.Alike outcome outcome
  | broken (flight : InFlight) (node : Option String) (why other : FrameFault) (store : Store)
      (backend : Decoder) :
      Outcome.Alike ⟨flight.breakOff node why, store, backend⟩
        ⟨flight.breakOff node other, store, backend⟩

theorem Outcome.Alike.symm {first second : Outcome} (alike : first.Alike second) :
    second.Alike first := by
  cases alike with
  | same => exact .same _
  | broken flight node why other store backend => exact .broken flight node other why store backend

/-- Outcomes are the same if the connection is kept. -/
theorem Outcome.Alike.eq_of_kept {first second : Outcome} (alike : first.Alike second)
    (kept : ∀ reply, second.action ≠ .dropBackend reply) : first = second := by
  cases alike with
  | same => rfl
  | broken => exact absurd rfl (kept _)

theorem Outcome.Alike.store_eq {first second : Outcome} (alike : first.Alike second) :
    first.store = second.store := by
  cases alike <;> rfl

theorem Outcome.Alike.drops {first second : Outcome} {reply : Bytes} (alike : first.Alike second)
    (drops : second.action = .dropBackend reply) : ∃ reply, first.action = .dropBackend reply := by
  cases alike with
  | same => exact ⟨reply, drops⟩
  | broken => exact ⟨_, rfl⟩

/-- The outcome with more octets behind those that were not read. -/
def Outcome.append (outcome : Outcome) (more : Bytes) : Outcome :=
  { outcome with backend := outcome.backend.append more }

namespace InFlight

variable {flight : InFlight} {attempt : Attempt} {store : Store} {backend : Decoder}

/-! ## One step -/

theorem receive_append (flight : InFlight) (attempt : Attempt) (store : Store) (rest : Decoder)
    (reply : Decoded) (more : Bytes) :
    flight.receive attempt store (rest.append more) reply =
      (flight.receive attempt store rest reply).append more := by
  unfold receive
  split
  · rfl
  · split <;> rfl

/-- A step that does not wait is the same step if more octets are behind. -/
theorem readReply_append (ends : (flight.readReply attempt store backend).action ≠ .needMore)
    (more : Bytes) :
    Outcome.Alike (flight.readReply attempt store (backend.append more))
      ((flight.readReply attempt store backend).append more) := by
  unfold readReply at ends ⊢
  rcases next_cases backend with given | ⟨why, given⟩ | ⟨reply, rest, given⟩
  · rw [given] at ends
    exact absurd rfl ends
  · obtain ⟨other, refused⟩ := Decoder.next_append_invalid given more
    rw [given, refused]
    exact .broken flight _ _ _ _ _
  · rw [given, Decoder.next_append given more]
    dsimp only
    rw [receive_append]
    exact .same _

/-- After a step that waits, the next one goes on where it stopped. -/
theorem onReply_of_waits (attempted : flight.phase.attempt? = some attempt)
    (waits : (flight.onReply store backend).action = .needMore) (more : Bytes) :
    (∃ later, (flight.onReply store backend).flight.phase.attempt? = some later) ∧
      (flight.onReply store backend).flight.onReply (flight.onReply store backend).store
          ((flight.onReply store backend).backend.append more) =
        flight.onReply store (backend.append more) := by
  by_cases pending : attempt.ack = .pending
  · rw [onReply_of_pending attempted pending] at waits ⊢
    rw [onReply_of_pending attempted pending]
    unfold readAck at waits ⊢
    rcases next_cases backend with given | ⟨why, given⟩ | ⟨answer, rest, given⟩
    · rw [given]
      exact ⟨⟨attempt, rfl⟩, onReply_of_pending rfl pending⟩
    · rw [given] at waits
      simp [breakOff] at waits
    · -- The answer to `ASKING` is read once, and its meaning is kept in the attempt.
      rw [given] at waits ⊢
      rw [Decoder.next_append given more]
      dsimp only at waits ⊢
      rw [(heard _ _ _).eq_of_waits waits]
      exact ⟨⟨_, rfl⟩, onReply_of_ne_pending rfl (ackOf_ne_pending answer)⟩
  · rw [onReply_of_ne_pending attempted pending] at waits ⊢
    rw [(heard _ _ _).eq_of_waits waits, onReply_of_ne_pending attempted pending]
    exact ⟨⟨attempt, rfl⟩, onReply_of_ne_pending rfl pending⟩

/-- A step that does not wait is the same step if more octets are behind. -/
theorem onReply_append (attempted : flight.phase.attempt? = some attempt)
    (ends : (flight.onReply store backend).action ≠ .needMore) (more : Bytes) :
    Outcome.Alike (flight.onReply store (backend.append more))
      ((flight.onReply store backend).append more) := by
  by_cases pending : attempt.ack = .pending
  · rw [onReply_of_pending attempted pending] at ends ⊢
    rw [onReply_of_pending attempted pending]
    unfold readAck at ends ⊢
    rcases next_cases backend with given | ⟨why, given⟩ | ⟨answer, rest, given⟩
    · rw [given] at ends
      exact absurd rfl ends
    · obtain ⟨other, refused⟩ := Decoder.next_append_invalid given more
      rw [given, refused]
      exact .broken flight _ _ _ _ _
    · rw [given] at ends ⊢
      rw [Decoder.next_append given more]
      exact readReply_append ends more
  · rw [onReply_of_ne_pending attempted pending] at ends ⊢
    rw [onReply_of_ne_pending attempted pending]
    exact readReply_append ends more

/-! ## One step for a dump -/

/-- A step that waits for a dump has read nothing and changed nothing. -/
theorem onTopology_of_waits {node : String} {others : List String}
    (phase : flight.phase = .bootstrapping node others)
    (waits : (flight.onTopology store backend).action = .needMore) :
    flight.onTopology store backend = ⟨⟨.needMore, flight⟩, store, backend⟩ := by
  have informed := informed phase store backend
  generalize flight.onTopology store backend = outcome at informed waits ⊢
  cases informed with
  | waits missing => rfl
  | breaks wrong => simp [breakOff] at waits
  | failsOver => exact absurd waits (closes_bootstrapFrom flight _ _).done
  | givesUp => exact absurd waits (closes_fail flight _).done
  | learns => exact absurd waits (closes_route _ _).done

theorem receiveDump_append (flight : InFlight) (node : String) (others : List String)
    (store : Store) (rest : Decoder) (reply : Decoded) (more : Bytes) :
    flight.receiveDump node others store (rest.append more) reply =
      (flight.receiveDump node others store rest reply).append more := by
  unfold receiveDump
  split <;> rfl

theorem onTopology_append {node : String} {others : List String}
    (phase : flight.phase = .bootstrapping node others)
    (ends : (flight.onTopology store backend).action ≠ .needMore) (more : Bytes) :
    Outcome.Alike (flight.onTopology store (backend.append more))
      ((flight.onTopology store backend).append more) := by
  unfold onTopology at ends ⊢
  rw [phase] at ends ⊢
  dsimp only at ends ⊢
  rcases next_cases backend with given | ⟨why, given⟩ | ⟨reply, rest, given⟩
  · rw [given] at ends
    exact absurd rfl ends
  · obtain ⟨other, refused⟩ := Decoder.next_append_invalid given more
    rw [given, refused]
    exact .broken flight _ _ _ _ _
  · rw [given, Decoder.next_append given more]
    dsimp only
    rw [receiveDump_append]
    exact .same _

/-! ## One step that is due -/

variable {due : Due}

/-- After a step that waits, the same step is due and goes on where it stopped. -/
theorem take_of_waits (awaits : flight.phase.due? = some due)
    (waits : (flight.take due store backend).action = .needMore) (more : Bytes) :
    (flight.take due store backend).flight.phase.due? = some due ∧
      (flight.take due store backend).flight.take due (flight.take due store backend).store
          ((flight.take due store backend).backend.append more) =
        flight.take due store (backend.append more) := by
  cases due with
  | start => exact absurd waits (closes_start flight store).done
  | reply =>
    obtain ⟨attempt, attempted⟩ := Phase.due?_eq_reply_iff.1 awaits
    obtain ⟨later, onward⟩ := onReply_of_waits attempted waits more
    exact ⟨Phase.due?_eq_reply_iff.2 later, onward⟩
  | dump =>
    obtain ⟨node, others, phase⟩ := Phase.due?_eq_dump_iff.1 awaits
    have stopped : flight.take .dump store backend = ⟨⟨.needMore, flight⟩, store, backend⟩ :=
      onTopology_of_waits phase waits
    rw [stopped]
    exact ⟨awaits, rfl⟩

/-- A step that does not wait is the same step if more octets are behind. -/
theorem take_append (awaits : flight.phase.due? = some due)
    (ends : (flight.take due store backend).action ≠ .needMore) (more : Bytes) :
    Outcome.Alike (flight.take due store (backend.append more))
      ((flight.take due store backend).append more) := by
  cases due with
  | start => exact .same _
  | reply =>
    obtain ⟨attempt, attempted⟩ := Phase.due?_eq_reply_iff.1 awaits
    exact onReply_append attempted ends more
  | dump =>
    obtain ⟨node, others, phase⟩ := Phase.due?_eq_dump_iff.1 awaits
    exact onTopology_append phase ends more

/-! ## All pieces -/

/-- Takes the step that is due for each piece until no more is waited for. The pieces after that
stay on the connection. -/
def feed (flight : InFlight) (due : Due) (store : Store) (backend : Decoder) :
    (pieces : List Bytes) → Outcome
  | [] => ⟨⟨.needMore, flight⟩, store, backend⟩
  | piece :: pieces =>
    let outcome := flight.take due store (backend.append piece)
    if outcome.action = .needMore then
      outcome.flight.feed due outcome.store outcome.backend pieces
    else outcome.append pieces.flatten

/-- Pieces come to what all of them together come to. -/
theorem feed_alike (awaits : flight.phase.due? = some due) {pieces : List Bytes}
    (given : pieces ≠ []) :
    Outcome.Alike (flight.feed due store backend pieces)
      (flight.take due store (backend.append pieces.flatten)) := by
  induction pieces generalizing flight store backend with
  | nil => exact absurd rfl given
  | cons piece pieces ih =>
    have joined : backend.append (piece :: pieces).flatten =
        (backend.append piece).append pieces.flatten := by
      simp [Decoder.append]
    rw [joined]
    unfold feed
    dsimp only
    split
    · next waits =>
      obtain ⟨later, onward⟩ := take_of_waits awaits waits pieces.flatten
      cases pieces with
      | nil =>
        -- The last piece was heard, and what is waited for is not among the pieces.
        have stopped : (flight.take due store (backend.append piece)).flight.feed due
            (flight.take due store (backend.append piece)).store
            (flight.take due store (backend.append piece)).backend [] =
              flight.take due store (backend.append piece) := by
          unfold feed
          rw [← waits]
        have whole : (backend.append piece).append [].flatten = backend.append piece := by
          simp [Decoder.append]
        rw [stopped, whole]
        exact .same _
      | cons next pieces => exact onward ▸ ih later (by simp)
    · next ends => exact (take_append awaits ends pieces.flatten).symm

/-- Takes a step for each piece until no more is waited for. The pieces after that stay on the
connection. -/
def hear (flight : InFlight) (store : Store) (backend : Decoder) : (pieces : List Bytes) → Outcome
  | [] => ⟨⟨.needMore, flight⟩, store, backend⟩
  | piece :: pieces =>
    let outcome := flight.onReply store (backend.append piece)
    if outcome.action = .needMore then
      outcome.flight.hear outcome.store outcome.backend pieces
    else outcome.append pieces.flatten

theorem hear_eq_feed (pieces : List Bytes) :
    flight.hear store backend pieces = flight.feed .reply store backend pieces := by
  induction pieces generalizing flight store backend with
  | nil => rfl
  | cons piece pieces ih =>
    unfold hear feed
    dsimp only
    rw [ih]
    rfl

/-- Pieces come to what the whole reply comes to. -/
theorem hear_alike (attempted : flight.phase.attempt? = some attempt) {pieces : List Bytes}
    (given : pieces ≠ []) :
    Outcome.Alike (flight.hear store backend pieces)
      (flight.onReply store (backend.append pieces.flatten)) := by
  rw [hear_eq_feed]
  exact feed_alike (Phase.due?_eq_reply_iff.2 ⟨attempt, attempted⟩) given

/-- Nothing but more is waited for after a part of what is waited for as a whole. -/
theorem take_waits_of_append (awaits : flight.phase.due? = some due) {more : Bytes}
    (waits : (flight.take due store (backend.append more)).action = .needMore) :
    (flight.take due store backend).action = .needMore := by
  by_contra ends
  have same := (take_append awaits ends more).symm.eq_of_kept (by simp [waits])
  exact ends ((congrArg (fun outcome => outcome.action) same).trans waits)

/-- It makes no difference in which pieces the bytes of a node arrive. Whatever step is due, taking
it for each piece until no more is waited for comes to what one step for all the bytes comes to, but
for the wording with which a connection is given up. If that one step waits for more, so does each
step for a piece, and the request, the store and the connection are left the same. -/
theorem pieces_irrelevant (awaits : flight.phase.due? = some due) {pieces : List Bytes}
    (given : pieces ≠ []) :
    Outcome.Alike (flight.feed due store backend pieces)
        (flight.take due store (backend.append pieces.flatten)) ∧
      ((flight.take due store (backend.append pieces.flatten)).action = .needMore →
        flight.feed due store backend pieces =
            flight.take due store (backend.append pieces.flatten) ∧
          ∀ n, (flight.feed due store backend (pieces.take n)).action = .needMore) := by
  have alike : Outcome.Alike (flight.feed due store backend pieces)
      (flight.take due store (backend.append pieces.flatten)) := feed_alike awaits given
  refine ⟨alike, fun waits => ⟨alike.eq_of_kept (by simp [waits]), fun n => ?_⟩⟩
  by_cases first : pieces.take n = []
  · rw [first]
    rfl
  · have joined : backend.append pieces.flatten =
        (backend.append (pieces.take n).flatten).append (pieces.drop n).flatten := by
      rw [Decoder.append, Decoder.append, Decoder.append, List.append_assoc,
        ← List.flatten_append, List.take_append_drop]
    rw [joined] at waits
    have waited := take_waits_of_append awaits waits
    rw [(feed_alike awaits first).eq_of_kept (by simp [waited]), waited]

end InFlight

namespace Run.Sample

/-- The answer to `ASKING` and the reply to the request, each in two pieces, and a frame that
answers neither. -/
def pieces : List Bytes := [Text.utf8 "+O", Text.utf8 "K\r\n$-", Text.utf8 "1\r\n:1\r\n"]

end Run.Sample

/-- The reply behind `ASKING` comes in three pieces. -/
theorem InFlight.pieces_irrelevant_moving :
    Run.Sample.moving.outcome.flight.phase.due? = some .reply ∧ Run.Sample.pieces ≠ [] ∧
      Outcome.Alike
        (Run.Sample.moving.outcome.flight.feed .reply .empty (Run.Sample.node "")
          Run.Sample.pieces)
        (Run.Sample.moving.outcome.flight.take .reply .empty
          ((Run.Sample.node "").append Run.Sample.pieces.flatten)) ∧
      (Run.Sample.moving.outcome.flight.feed .reply .empty (Run.Sample.node "")
        Run.Sample.pieces).action = .forward (Text.utf8 "$-1\r\n") :=
  ⟨by decide +kernel, by decide, (pieces_irrelevant (by decide +kernel) (by decide)).1,
    by decide +kernel⟩

end ClusterProxy
