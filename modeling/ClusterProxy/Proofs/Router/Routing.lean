import ClusterProxy.Proofs.Keys
import ClusterProxy.Proofs.Router.Exchange

/-!
# Where a request goes

A request that is refused is answered at once and changes nothing. One without a key goes to any
node and learns nothing first. One whose keys lie in one slot goes to the owner that the store names
for the slot, at once if it can, and after a dump was accepted for it if it cannot. `Run.wellRouted`
says so of every run, whatever was written to the store before and whatever others write to it in
between.
-/

namespace ClusterProxy

/-! ## What routing says of the target -/

namespace InFlight.Routes

variable {flight : InFlight} {store : Store} {step : Step} {slot : Nat}
  (routes : Routes flight store step)

theorem dispatch_of_target {target : Except Fault (Option Nat)}
    (known : flight.request.map Request.targetSlot = some target) (node : Option String) :
    ∃ (request : Request) (attempt : Attempt), flight.dispatch node none false =
      ⟨.dispatch node request.bytes none, { flight with phase := .dispatching attempt }⟩ := by
  obtain ⟨request, known, _⟩ := Option.map_eq_some_iff.1 known
  rw [dispatch_eq known]
  exact ⟨request, _, rfl⟩

include routes

/-- Only a request with a slot learns. -/
theorem target_of_learning (learning : step.Learning) :
    ∃ slot, flight.request.map Request.targetSlot = some (.ok (some slot)) := by
  cases routes with
  | unread => exact absurd learning (not_learning_fail flight _)
  | refused => exact absurd learning (not_learning_fail flight _)
  | keyless target =>
    obtain ⟨request, attempt, ends⟩ := dispatch_of_target target none
    simp [ends, Step.Learning] at learning
  | owned target => exact ⟨_, target⟩
  | asks target => exact ⟨_, target⟩
  | lost target => exact ⟨_, target⟩
  | uncovered target => exact ⟨_, target⟩

/-- A request is sent to any node only if it has no slot, and else to the owner of its slot. -/
theorem target_of_dispatch {node : Option String} {payload : Bytes} {delay : Option Nat}
    (sends : step.action = .dispatch node payload delay) :
    (node = none ∧ flight.request.map Request.targetSlot = some (.ok none)) ∨
      ∃ slot, flight.request.map Request.targetSlot = some (.ok (some slot)) ∧ node.isSome ∧
        store.owner flight.cluster slot = node ∧
          (flight.bootstraps = 0 → store.needsBootstrap flight.cluster = false) := by
  cases routes with
  | keyless target =>
    obtain ⟨request, attempt, ends⟩ := dispatch_of_target target none
    rw [ends] at sends
    cases sends
    exact .inl ⟨rfl, target⟩
  | @owned slot owner target owned known =>
    obtain ⟨request, attempt, ends⟩ := dispatch_of_target target (some owner)
    rw [ends] at sends
    cases sends
    exact .inr ⟨slot, target, rfl, owned, known⟩
  | asks => simp [bootstrapFrom] at sends
  | _ => exact absurd sends (fail_ne_dispatch flight _ _ _ _)

/-- A slot is found without owner only after a dump was accepted. -/
theorem owner_of_uncovered (failed : step.flight.phase = .failed (.slotNotCovered slot)) :
    flight.request.map Request.targetSlot = some (.ok (some slot)) ∧
      store.owner flight.cluster slot = none ∧ flight.bootstraps ≠ 0 := by
  cases routes with
  | unread => cases failed
  | @refused fault target =>
    obtain ⟨request, _, refused⟩ := Option.map_eq_some_iff.1 target
    exact absurd (Phase.failed.inj failed) (Request.not_uncovered_of_targetSlot refused slot)
  | keyless target =>
    obtain ⟨request, attempt, ends⟩ := dispatch_of_target target none
    simp [ends] at failed
  | @owned _ owner target =>
    obtain ⟨request, attempt, ends⟩ := dispatch_of_target target (some owner)
    simp [ends] at failed
  | asks => cases failed
  | lost => cases failed
  | uncovered target missing later =>
    cases failed
    exact ⟨target, missing, later⟩

end InFlight.Routes

/-! ## What holds along a run -/

/-- A request for which no step was taken: no dump was accepted or asked for, and no slot was found
without owner. -/
structure InFlight.Fresh (flight : InFlight) : Prop where
  bootstraps : flight.bootstraps = 0
  unasked : ∀ node others, flight.phase ≠ .bootstrapping node others
  unblamed : ∀ slot, flight.phase ≠ .failed (.slotNotCovered slot)

theorem Turn.next?_ne_start (turn : Turn) : turn.next? ≠ some .start := by
  intro next
  unfold next? at next
  cases acts : turn.action with
  | needMore =>
    rw [acts] at next
    obtain ⟨flight, due, store, backend⟩ := turn
    obtain rfl : due = .start := Option.some.inj next
    exact (InFlight.closes_start flight store).done acts
  | _ => simp [acts] at next

namespace Run

variable {flight : InFlight} {turn : Turn} {before : List Turn} {slot : Nat}

/-- Only a request with a slot learns. -/
theorem target_of_learning (fresh : flight.Fresh) (run : Run flight turn before)
    (learning : turn.outcome.toStep.Learning) :
    ∃ slot, flight.request.map Request.targetSlot = some (.ok (some slot)) := by
  induction run with
  | start writes backend =>
    cases Turn.way ⟨flight, .start, Store.empty.after writes, backend⟩ with
    | routes kept _ routes => exact kept.request ▸ routes.target_of_learning learning
    | goesOn goesOn =>
      obtain ⟨node, others, phase⟩ := goesOn.learning learning
      exact absurd phase (fresh.unasked node others)
  | @step last before due run next writes backend ih =>
    have kept := (run.kept last List.mem_cons_self).trans last.follows.kept
    cases Turn.way ⟨last.outcome.flight, due, last.outcome.store.after writes, backend⟩ with
    | routes still _ routes =>
      exact (kept.trans still).request ▸ routes.target_of_learning learning
    | goesOn goesOn => exact ih (.inr (goesOn.learning learning))

/-- A request without a slot asks no node for a dump. -/
theorem asks?_eq_none (fresh : flight.Fresh) (run : Run flight turn before)
    (target : flight.request.map Request.targetSlot = some (.ok none)) : turn.asks? = none := by
  cases asks : turn.asks? with
  | none => rfl
  | some node =>
    have learning : turn.outcome.toStep.Learning := by
      unfold Turn.asks? at asks
      split at asks
      · next acts => exact .inl ⟨_, _, acts⟩
      · simp at asks
    obtain ⟨slot, aim⟩ := run.target_of_learning fresh learning
    simp [target] at aim

/-- A request is sent to any node only if it has no slot, also when it is sent again. -/
theorem target_of_unnamed (run : Run flight turn before) :
    ∀ past ∈ turn :: before, ∀ payload delay, past.action = .dispatch none payload delay →
      flight.request.map Request.targetSlot = some (.ok none) := by
  have routed {now : InFlight} {store : Store} {step : Step} {payload : Bytes} {delay : Option Nat}
      (kept : flight.Kept now) (routes : now.Routes store step)
      (sends : step.action = .dispatch none payload delay) :
      flight.request.map Request.targetSlot = some (.ok none) := by
    rcases routes.target_of_dispatch sends with ⟨_, target⟩ | ⟨_, _, named, _⟩
    · exact kept.request ▸ target
    · simp at named
  induction run with
  | start writes backend =>
    intro past member payload delay sends
    obtain rfl := List.mem_singleton.1 member
    cases Turn.way ⟨flight, .start, Store.empty.after writes, backend⟩ with
    | routes kept _ routes => exact routed kept routes sends
    | goesOn goesOn => cases goesOn.passes (by rw [sends]; rfl)
  | @step last before due run next writes backend ih =>
    have kept := (run.kept last List.mem_cons_self).trans last.follows.kept
    refine List.forall_mem_cons.2 ⟨fun payload delay sends => ?_, ih⟩
    cases Turn.way ⟨last.outcome.flight, due, last.outcome.store.after writes, backend⟩ with
    | routes still _ routes => exact routed (kept.trans still) routes sends
    | goesOn goesOn =>
      -- The node was left open already when the request was sent before.
      obtain rfl : due = .reply := goesOn.passes (by rw [sends]; rfl)
      obtain ⟨attempt, attempted, unnamed⟩ := goesOn.unnamed payload delay sends
      obtain ⟨sending, read, exchange⟩ := run.exists_exchange next
      obtain ⟨_, request, other, _, known, stands⟩ := run.stands exchange
      obtain rfl := Option.some.inj (known.symm.trans attempted)
      obtain ⟨past, member, sent⟩ := exchange.exists_sending
      have acts := Action.sending?_eq_some_iff.1 sent
      rw [stands.node, unnamed] at acts
      exact ih past member _ _ acts

/-- The first time that a request with a slot is sent, it is sent to the owner of the slot. -/
theorem owner_of_dispatch (run : Run flight turn before) (unsent : Run.sent before = 0)
    (target : flight.request.map Request.targetSlot = some (.ok (some slot)))
    {node : Option String} {payload : Bytes} {delay : Option Nat}
    (sends : turn.action = .dispatch node payload delay) :
    node.isSome ∧ turn.outcome.store.owner flight.cluster slot = node := by
  obtain ⟨now, kept, _, routes⟩ := run.routes_of_unsent unsent (by rw [sends]; rfl)
  rw [← kept.request] at target
  rw [← kept.cluster]
  rcases routes.target_of_dispatch sends with ⟨_, other⟩ | ⟨other, aim, named, owned, _⟩
  · simp [target] at other
  · obtain rfl : slot = other := by simpa using target.symm.trans aim
    exact ⟨named, owned⟩

theorem of_due_eq_start (run : Run flight turn before) (starts : turn.due = .start) :
    turn.flight = flight ∧ before = [] := by
  cases run with
  | start => exact ⟨rfl, rfl⟩
  | @step last _ _ run next =>
    obtain rfl := starts
    exact absurd next last.next?_ne_start

/-- A request that is routed at its start is sent at once only if its slot has an owner, in a table
that was learned. -/
theorem learns_of_unsent (fresh : flight.Fresh) (run : Run flight turn before)
    (target : flight.request.map Request.targetSlot = some (.ok (some slot)))
    (unsent : Run.sent before = 0) (sends : turn.sends = true)
    (needed : turn.due = .start → turn.store.needsBootstrap flight.cluster = true ∨
      turn.store.owner flight.cluster slot = none) : turn.learns = true := by
  obtain ⟨node, payload, delay, acts⟩ : ∃ node payload delay,
      turn.action = .dispatch node payload delay := by
    unfold Turn.sends at sends
    cases acts : turn.action <;> simp_all
  obtain ⟨now, kept, ⟨starts, rfl⟩ | learns, routes⟩ :=
    run.routes_of_unsent unsent (by rw [acts]; rfl)
  · obtain ⟨same, -⟩ := run.of_due_eq_start starts
    have still : turn.outcome.store = turn.store := by
      unfold Turn.outcome
      rw [starts]
      rfl
    rw [same, still] at routes
    rcases routes.target_of_dispatch acts with ⟨_, other⟩ | ⟨other, aim, named, owned, known⟩
    · simp [target] at other
    · obtain rfl : slot = other := by simpa using target.symm.trans aim
      rcases needed starts with empty | missing
      · simp [known fresh.bootstraps] at empty
      · simp [← owned, missing] at named
  · exact learns

/-- A request whose slot had no owner at its start, or no table that was learned, is sent only after
a dump was accepted for it. -/
theorem learned_pos (fresh : flight.Fresh) (run : Run flight turn before)
    (target : flight.request.map Request.targetSlot = some (.ok (some slot)))
    {first : Turn} (member : first ∈ turn :: before) (starts : first.due = .start)
    (needed : first.store.needsBootstrap flight.cluster = true ∨
      first.store.owner flight.cluster slot = none)
    (sent : 1 ≤ Run.sent (turn :: before)) : 1 ≤ Run.learned (turn :: before) := by
  induction run with
  | start writes backend =>
    obtain rfl := List.mem_singleton.1 member
    have sends : (⟨flight, .start, Store.empty.after writes, backend⟩ : Turn).sends = true := by
      by_contra silent
      simp [silent, Run.sent] at sent
    have learns :=
      (Run.start writes backend).learns_of_unsent fresh target rfl sends fun _ => needed
    simp [learned_cons, learns]
  | @step last before due run next writes backend ih =>
    have later : due ≠ .start := by
      rintro rfl
      exact last.next?_ne_start next
    have listed : first ∈ last :: before := by
      rcases List.mem_cons.1 member with rfl | listed
      · exact absurd starts later
      · exact listed
    rw [learned_cons]
    by_cases unsent : Run.sent (last :: before) = 0
    · have sends : (⟨last.outcome.flight, due, last.outcome.store.after writes, backend⟩ :
          Turn).sends = true := by
        by_contra silent
        simp [sent_cons _ (last :: before), silent, unsent] at sent
      have learns := (Run.step run next writes backend).learns_of_unsent fresh target unsent sends
        fun starts => absurd starts later
      simp [learns]
    · have learned := ih listed (Nat.one_le_iff_ne_zero.2 unsent)
      omega

/-- A slot is found without owner only right after a dump was accepted. -/
theorem learns_of_uncovered (fresh : flight.Fresh) (run : Run flight turn before)
    (failed : turn.outcome.flight.phase = .failed (.slotNotCovered slot)) :
    turn.learns = true ∧ turn.outcome.store.owner flight.cluster slot = none ∧
      flight.request.map Request.targetSlot = some (.ok (some slot)) := by
  have kept := run.kept turn List.mem_cons_self
  cases turn.way with
  | @routes now still begins routes =>
    obtain ⟨target, missing, later⟩ := routes.owner_of_uncovered failed
    rw [(kept.trans still).request] at target
    rw [(kept.trans still).cluster] at missing
    rcases begins with ⟨starts, rfl⟩ | learns
    · rw [(run.of_due_eq_start starts).1] at later
      exact absurd fresh.bootstraps later
    · exact ⟨learns, missing, target⟩
  | goesOn goesOn =>
    rcases goesOn.uncovered slot failed with ⟨starts, blamed⟩ | ⟨reply, attempt, attempted, refused⟩
    · rw [(run.of_due_eq_start starts).1] at blamed
      exact absurd blamed (fresh.unblamed slot)
    · cases run with
      | start => cases reply
      | step run next =>
        obtain rfl := reply
        -- What is remembered of a refusal of `ASKING` is its wording.
        obtain ⟨last, read, exchange⟩ := run.exists_exchange next
        obtain ⟨_, request, other, _, known, stands⟩ := run.stands exchange
        obtain rfl := Option.some.inj (known.symm.trans attempted)
        rcases stands.read with ⟨_, ack⟩ | ⟨_, answer, _, ack⟩
        · rw [refused] at ack
          split at ack <;> cases ack
        · obtain ⟨what, other⟩ := InFlight.protocol_of_ackOf (ack.symm.trans refused)
          cases other

/-- A request that fails when it starts is answered then, and that is all. -/
theorem eq_nil_of_fail (run : Run flight turn before) {fault : Fault}
    (harmless : fault.isFatal = false) (ends : ∀ store, flight.start store = flight.fail fault) :
    before = [] ∧ turn.action = .respond fault.reply ∧ turn.outcome.store = turn.store := by
  induction run with
  | start writes backend =>
    refine ⟨rfl, ?_, rfl⟩
    unfold Turn.action Turn.outcome InFlight.take
    rw [ends, InFlight.fail_eq harmless]
  | step run next writes backend ih =>
    obtain ⟨-, acts, -⟩ := ih
    simp [Turn.next?, acts] at next

/-- A request that is sent when it starts. -/
theorem action_of_start {request : Request} (known : flight.request = some request)
    (run : Run flight turn []) {node : Option String}
    (ends : flight.start turn.store = flight.dispatch node none false) :
    turn.action = .dispatch node request.bytes none := by
  cases run with
  | start writes backend =>
    unfold Turn.action Turn.outcome InFlight.take
    dsimp only at ends ⊢
    rw [ends, InFlight.dispatch_eq known]
    rfl

/-! ## Every run -/

/-- What holds at each step for a request whose keys lie in one slot.

* `owner`: the first time it is sent, it is sent to the owner that the store names for the slot
  then.
* `prompt`: it is sent at once if a dump of the cluster was accepted before and the slot has an
  owner.
* `learned`: if not, it is sent only after a dump was accepted for it. -/
structure Keyed (cluster : String) (request : Request) (slot : Nat) (turn : Turn)
    (before : List Turn) : Prop where
  owner : ∀ node payload delay, turn.action = .dispatch node payload delay → Run.sent before = 0 →
    node.isSome ∧ turn.outcome.store.owner cluster slot = node
  prompt : before = [] → turn.store.needsBootstrap cluster = false → ∀ address,
    turn.store.owner cluster slot = some address →
      turn.action = .dispatch (some address) request.bytes none
  learned : ∀ first ∈ turn :: before, first.due = .start →
    (first.store.needsBootstrap cluster = true ∨ first.store.owner cluster slot = none) →
      1 ≤ Run.sent (turn :: before) → 1 ≤ Run.learned (turn :: before)

/-- What holds at each step for a client's frame.

* `misread`, `crossing`: a frame that is no request, and one whose keys lie in different slots, is
  answered by the first step. That is the only one, and it writes nothing.
* `keyless`: a request without keys is sent to any node by the first step, and no node is asked for
  a dump.
* `keyed`: a request whose keys lie in one slot goes to the owner of the slot.
* `uncovered`: that a slot has no owner is said only by a step that accepted a dump, of the slot of
  the request, and if it has none then.
* `unnamed`: only a request without keys is ever sent to any node. -/
structure WellRouted (cluster : String) (decoded : Decoded) (turn : Turn) (before : List Turn) :
    Prop where
  misread : ∀ fault, Request.ofDecoded decoded = .error fault →
    before = [] ∧ turn.action = .respond fault.reply ∧ turn.outcome.store = turn.store
  crossing : ∀ request, Request.ofDecoded decoded = .ok request →
    (∃ key ∈ request.keys, ∃ other ∈ request.keys, Slot.ofKey key ≠ Slot.ofKey other) →
      before = [] ∧
        turn.action =
          .respond (Fault.crossSlot (request.keys.map Slot.ofKey).toFinset.card).reply ∧
        turn.outcome.store = turn.store
  keyless : ∀ request, Request.ofDecoded decoded = .ok request → request.keys = [] →
    (before = [] → turn.action = .dispatch none request.bytes none) ∧ turn.asks? = none
  keyed : ∀ request slot, Request.ofDecoded decoded = .ok request → request.keys ≠ [] →
    (∀ key ∈ request.keys, Slot.ofKey key = slot) → Keyed cluster request slot turn before
  uncovered : ∀ slot, turn.outcome.flight.phase = .failed (.slotNotCovered slot) →
    turn.learns = true ∧ turn.outcome.store.owner cluster slot = none ∧
      ∃ request, Request.ofDecoded decoded = .ok request ∧ request.keys ≠ [] ∧
        ∀ key ∈ request.keys, Slot.ofKey key = slot
  unnamed : ∀ payload delay, turn.action = .dispatch none payload delay →
    ∃ request, Request.ofDecoded decoded = .ok request ∧ request.keys = []

theorem wellRouted_of_error {router : Router} {cluster : String} {decoded : Decoded} {fault : Fault}
    (refused : Request.ofDecoded decoded = .error fault)
    (run : Run (router.receive cluster decoded) turn before) :
    WellRouted cluster decoded turn before := by
  have received : router.receive cluster decoded =
      ⟨cluster, router.settings, none, .failed fault, 0, 0⟩ := by
    simp [Router.receive, refused]
  rw [received] at run
  have fresh : InFlight.Fresh ⟨cluster, router.settings, none, .failed fault, 0, 0⟩ :=
    ⟨rfl, by simp, fun slot same =>
      Request.not_uncovered_of_ofDecoded refused slot (Phase.failed.inj same)⟩
  refine ⟨fun other same => ?_, by simp [refused], by simp [refused], by simp [refused],
    fun slot failed => ?_, fun payload delay sends => ?_⟩
  · obtain rfl := Except.error.inj (refused.symm.trans same)
    exact run.eq_nil_of_fail (Request.isFatal_of_ofDecoded refused) fun _ => rfl
  · obtain ⟨_, _, target⟩ := run.learns_of_uncovered fresh failed
    simp at target
  · have target := run.target_of_unnamed turn List.mem_cons_self payload delay sends
    simp at target

theorem wellRouted_of_ok {router : Router} {cluster : String} {decoded : Decoded}
    {request : Request} (read : Request.ofDecoded decoded = .ok request)
    (run : Run (router.receive cluster decoded) turn before) :
    WellRouted cluster decoded turn before := by
  have grouped := Request.grouped_of_ofDecoded read
  generalize received : router.receive cluster decoded = flight at run
  have accepted : flight = ⟨cluster, router.settings, some request, .classified, 0, 0⟩ := by
    simp [← received, Router.receive, read]
  have fresh : flight.Fresh := by
    subst accepted
    exact ⟨rfl, by simp, by simp⟩
  have aims {target : Except Fault (Option Nat)} :
      flight.request.map Request.targetSlot = some target ↔ request.targetSlot = target := by
    simp [accepted]
  have known : flight.request = some request := by rw [accepted]
  have named : flight.cluster = cluster := by rw [accepted]
  have only {other : Request} (same : Request.ofDecoded decoded = .ok other) : request = other :=
    Except.ok.inj (read.symm.trans same)
  refine ⟨by simp [read], ?_, ?_, ?_, fun slot failed => ?_, fun payload delay sends => ?_⟩
  · rintro _ same crossing
    obtain rfl := only same
    have target := grouped.targetSlot_eq_error_iff.2 ⟨crossing, rfl⟩
    refine run.eq_nil_of_fail rfl fun store => ?_
    simp [accepted, InFlight.start, InFlight.route, target]
  · rintro _ same none_left
    obtain rfl := only same
    have target := grouped.targetSlot_eq_none_iff.2 none_left
    constructor
    · rintro rfl
      exact run.action_of_start known (by simp [accepted, InFlight.start, InFlight.route, target])
    · exact run.asks?_eq_none fresh (aims.2 target)
  · rintro _ slot same some_key all
    obtain rfl := only same
    have target := aims.2 (grouped.targetSlot_eq_some_iff.2 ⟨some_key, all⟩)
    refine ⟨fun node payload delay sends unsent => ?_, ?_,
      fun first member starts needed sent => ?_⟩
    · exact named ▸ run.owner_of_dispatch unsent target sends
    · rintro rfl populated address owned
      refine run.action_of_start known ?_
      simp [accepted, InFlight.start, InFlight.route, aims.1 target, populated, owned]
    · rw [← named] at needed
      exact run.learned_pos fresh target member starts needed sent
  · obtain ⟨learns, missing, target⟩ := run.learns_of_uncovered fresh failed
    obtain ⟨some_key, all⟩ := grouped.targetSlot_eq_some_iff.1 (aims.1 target)
    exact ⟨learns, named ▸ missing, request, read, some_key, all⟩
  · have target := run.target_of_unnamed turn List.mem_cons_self payload delay sends
    exact ⟨request, read, grouped.targetSlot_eq_none_iff.1 (aims.1 target)⟩

/-- Every run of every request that a router accepts is well routed, whatever the store held before,
whatever nodes send and whatever others write to the store. -/
theorem wellRouted {router : Router} {cluster : String} {client rest : Decoder} {decoded : Decoded}
    (given : client.next = (.complete decoded, rest))
    (accepted : (router.accept cluster client).1 = .complete flight)
    (run : Run flight turn before) : WellRouted cluster decoded turn before := by
  obtain ⟨other, left, taken, rfl⟩ := router.accept_eq_complete accepted
  obtain ⟨whole, -⟩ := Prod.mk.inj (given.symm.trans taken)
  obtain rfl := Verdict.complete.inj whole
  cases read : Request.ofDecoded decoded with
  | error fault => exact wellRouted_of_error read run
  | ok request => exact wellRouted_of_ok read run

/-- A request with one key, of slot 9. The cluster is learned for it, and it is sent to the owner.
-/
theorem wellRouted_learning :
    Sample.client.next = (.complete Sample.decoded, .empty 200) ∧
      (Sample.router.accept "c" Sample.client).1 = .complete Sample.flight ∧
      Run Sample.flight Sample.learning [Sample.asking] ∧
      (Request.ofDecoded Sample.decoded).toOption.map Request.keys = some [Text.utf8 "ru"] ∧
      Slot.ofKey (Text.utf8 "ru") = 9 ∧
      Sample.learning.action.sending?.map Sending.node = some (some "a:1") ∧
      WellRouted "c" Sample.decoded Sample.learning [Sample.asking] :=
  ⟨Sample.given, Sample.accepted, Sample.learned, by decide +kernel, by decide +kernel,
    by decide +kernel, wellRouted Sample.given Sample.accepted Sample.learned⟩

end Run

end ClusterProxy
