import ClusterProxy.Proofs.Frame.Whole
import ClusterProxy.Proofs.Request
import ClusterProxy.Proofs.Topology.Reading
import ClusterProxy.Router.Basic

/-!
# What one step can do

For every step that is taken for a request this file says once what it can come to, as a relation
with one case for each way out: `InFlight.Routed`, `InFlight.Heard`, `InFlight.Replied` and
`InFlight.Informed`. A case names what was read, and shows the step as one of those that steps end
with. Whatever is proved about runs is proved from these cases.

No step meets a fault that is fatal, so no step closes the connection to the client, and every reply
that a step gives to the client is one frame.
-/

namespace ClusterProxy

/-! ## Error replies -/

theorem Fault.not_mem_line (fault : Fault) {c : Char} (breaks : c = '\r' ∨ c = '\n') :
    c ∉ fault.line.toList := by
  rw [Fault.line, String.toList_ofList, onOneLine, List.mem_map]
  rintro ⟨other, _, same⟩
  split at same
  · subst same
    simp at breaks
  · next kept => exact kept (same ▸ breaks)

theorem Fault.return_not_mem_line (fault : Fault) : Bytes.cr ∉ Text.utf8 fault.line := fun member =>
  fault.not_mem_line (.inl rfl) ((Text.mem_utf8_iff (c := '\r') (by decide)).1 member)

theorem Fault.feed_not_mem_line (fault : Fault) : Bytes.lf ∉ Text.utf8 fault.line := fun member =>
  fault.not_mem_line (.inr rfl) ((Text.mem_utf8_iff (c := '\n') (by decide)).1 member)

theorem Fault.isFrame_reply (fault : Fault) : IsFrame fault.reply :=
  isFrame_error fault.return_not_mem_line

theorem Reading.isFatal_of_ofFrame {frame : Frame} {buffer : Bytes} {fault : Fault}
    (refused : ofFrame frame buffer = .error fault) : fault.isFatal = false := by
  obtain ⟨text, rfl⟩ := exists_text_of_ofFrame refused
  rfl

theorem Call.ne_withAsking (bytes : Bytes) : bytes ≠ Call.withAsking bytes := by
  intro same
  have longer := congrArg List.length same
  have asked : Call.asking.encode.length = 16 := by decide +kernel
  rw [Call.withAsking, List.length_append, asked] at longer
  omega

theorem Reading.not_uncovered_of_ofFrame {frame : Frame} {buffer : Bytes} {fault : Fault}
    (refused : ofFrame frame buffer = .error fault) (slot : Nat) :
    fault ≠ .slotNotCovered slot := by
  obtain ⟨text, rfl⟩ := exists_text_of_ofFrame refused
  exact Fault.noConfusion

namespace InFlight

variable {flight : InFlight}

/-- A request that fails with a fault that is not fatal answers the client. -/
theorem fail_eq {fault : Fault} (harmless : fault.isFatal = false) :
    flight.fail fault = ⟨.respond fault.reply, { flight with phase := .failed fault }⟩ := by
  simp [fail, Action.ofFault, harmless]

def payload (request : Request) (asking : Bool) : Bytes :=
  if asking then Call.withAsking request.bytes else request.bytes

theorem dispatch_eq {request : Request} (known : flight.request = some request)
    (node : Option String) (delay : Option Nat) (asking : Bool) :
    flight.dispatch node delay asking =
      ⟨.dispatch node (payload request asking) delay,
        { flight with
          phase := .dispatching ⟨node, asking, if asking then .pending else .settled⟩ }⟩ := by
  simp [dispatch, known, payload]

theorem dispatch_of_unread (unread : flight.request = none) (node : Option String)
    (delay : Option Nat) (asking : Bool) :
    flight.dispatch node delay asking = flight.fail .emptyCommand := by
  simp [dispatch, unread]

/-! ## Routing -/

/-- What routing comes to, and when.

* `unread`: the client's frame was no request.
* `refused`: the keys have no slot in common.
* `keyless`: any node will do.
* `owned`: the slot of the keys has an owner, in a table that was learned from a dump, or after a
  dump was accepted for the request.
* `asks`, `lost`: the table was not learned or the slot has no owner, and no dump was accepted for
  the request; a node can be asked for one, or there is none.
* `uncovered`: a dump was accepted for the request, and the slot has no owner. -/
inductive Routes (flight : InFlight) (store : Store) : Step → Prop where
  | unread : flight.request = none → Routes flight store (flight.fail .emptyCommand)
  | refused {fault : Fault} : flight.request.map Request.targetSlot = some (.error fault) →
      Routes flight store (flight.fail fault)
  | keyless : flight.request.map Request.targetSlot = some (.ok none) →
      Routes flight store (flight.dispatch none none false)
  | owned {slot : Nat} {node : String} :
      flight.request.map Request.targetSlot = some (.ok (some slot)) →
      store.owner flight.cluster slot = some node →
      (flight.bootstraps = 0 → store.needsBootstrap flight.cluster = false) →
      Routes flight store (flight.dispatch (some node) none false)
  | asks {slot : Nat} {node : String} {others : List String} :
      flight.request.map Request.targetSlot = some (.ok (some slot)) →
      (store.needsBootstrap flight.cluster = true ∨ store.owner flight.cluster slot = none) →
      flight.bootstraps = 0 → flight.candidates store = node :: others →
      Routes flight store (flight.bootstrapFrom node others)
  | lost {slot : Nat} : flight.request.map Request.targetSlot = some (.ok (some slot)) →
      (store.needsBootstrap flight.cluster = true ∨ store.owner flight.cluster slot = none) →
      flight.bootstraps = 0 → Routes flight store (flight.fail (.noSeedNode flight.cluster))
  | uncovered {slot : Nat} : flight.request.map Request.targetSlot = some (.ok (some slot)) →
      store.owner flight.cluster slot = none → flight.bootstraps ≠ 0 →
      Routes flight store (flight.fail (.slotNotCovered slot))

theorem routes (flight : InFlight) (store : Store) :
    Routes flight store (flight.route store) := by
  have asks {slot : Nat} (target : flight.request.map Request.targetSlot = some (.ok (some slot)))
      (needed : store.needsBootstrap flight.cluster = true ∨
        store.owner flight.cluster slot = none) (first : flight.bootstraps = 0) :
      Routes flight store (flight.bootstrap store) := by
    unfold bootstrap
    split
    · next node others listed => exact .asks target needed first listed
    · exact .lost target needed first
  unfold route
  split
  · next unread => exact .unread (Option.map_eq_none_iff.1 unread)
  · next fault target => exact .refused target
  · next target => exact .keyless target
  · next slot target =>
    split
    · next needed =>
      simp only [Bool.and_eq_true, beq_iff_eq] at needed
      exact asks target (.inl needed.1) needed.2
    · next known =>
      simp only [Bool.and_eq_true, beq_iff_eq, not_and] at known
      split
      · next node owned =>
        exact .owned target owned fun first =>
          Bool.eq_false_iff.2 fun needed => known needed first
      · next missing =>
        split
        · next first => exact asks target (.inr missing) (by simpa using first)
        · next later => exact .uncovered target missing (by simpa using later)

/-- What routing can come to: the request is refused, sent to a node, or a node is asked for a dump,
which happens only if none was accepted for the request before. -/
inductive Routed (flight : InFlight) (store : Store) : Step → Prop where
  | refused {fault : Fault} : fault.isFatal = false → Routed flight store (flight.fail fault)
  | sent (node : Option String) : Routed flight store (flight.dispatch node none false)
  | asked {node : String} {others : List String} : flight.bootstraps = 0 →
      flight.candidates store = node :: others →
      Routed flight store (flight.bootstrapFrom node others)

theorem routed (flight : InFlight) (store : Store) : Routed flight store (flight.route store) := by
  have routes := routes flight store
  generalize flight.route store = step at routes
  cases routes with
  | unread => exact .refused rfl
  | refused target =>
    obtain ⟨request, _, refused⟩ := Option.map_eq_some_iff.1 target
    exact .refused (Request.isFatal_of_targetSlot refused)
  | keyless => exact .sent none
  | owned => exact .sent _
  | asks _ _ first listed => exact .asked first listed
  | lost => exact .refused rfl
  | uncovered => exact .refused rfl

/-! ## The reply to a request -/

/-- What reading a node's reply to the request can come to.

* `waits`: the reply is not there as a whole.
* `breaks`: what is there is no reply.
* `refused`: the reply is read and thrown away, since `ASKING` was refused.
* `malformed`: the reply is a redirect that cannot be read.
* `settled`: the reply is read and acted on. -/
inductive Heard (flight : InFlight) (attempt : Attempt) (store : Store) (backend : Decoder) :
    Outcome → Prop where
  | waits : backend.next.1 = .incomplete →
      Heard flight attempt store backend ⟨flight.await attempt, store, backend⟩
  | breaks {why : FrameFault} : backend.next.1 = .invalid why →
      Heard flight attempt store backend ⟨flight.breakOff attempt.node why, store, backend⟩
  | refused {reply : Decoded} {rest : Decoder} {fault : Fault} :
      backend.next = (.complete reply, rest) → attempt.ack = .refused fault →
      Heard flight attempt store backend ⟨flight.fail fault, store, rest⟩
  | malformed {reply : Decoded} {rest : Decoder} {fault : Fault} :
      backend.next = (.complete reply, rest) → (∀ fault, attempt.ack ≠ .refused fault) →
      Reading.ofFrame reply.frame reply.bytes = .error fault →
      Heard flight attempt store backend ⟨flight.fail fault, store, rest⟩
  | settled {reply : Decoded} {rest : Decoder} {reading : Reading} :
      backend.next = (.complete reply, rest) → (∀ fault, attempt.ack ≠ .refused fault) →
      Reading.ofFrame reply.frame reply.bytes = .ok reading →
      Heard flight attempt store backend
        ⟨flight.settle attempt reply reading, store.heed flight.cluster reading, rest⟩

theorem next_cases (backend : Decoder) :
    backend.next = (.incomplete, backend) ∨ (∃ why, backend.next = (.invalid why, backend)) ∨
      ∃ reply rest, backend.next = (.complete reply, rest) := by
  unfold Decoder.next
  cases Frame.find backend.limit backend.buffer with
  | incomplete => exact .inl rfl
  | invalid why => exact .inr (.inl ⟨why, rfl⟩)
  | complete frame => exact .inr (.inr ⟨_, _, rfl⟩)

theorem heard (attempt : Attempt) (store : Store) (backend : Decoder) :
    Heard flight attempt store backend (flight.readReply attempt store backend) := by
  unfold readReply
  rcases next_cases backend with given | ⟨why, given⟩ | ⟨reply, rest, given⟩
  · rw [given]
    exact .waits (by rw [given])
  · rw [given]
    exact .breaks (by rw [given])
  · rw [given]
    unfold receive
    dsimp only
    split
    · next fault ack => exact .refused given ack
    · next kept =>
      split
      · next fault unread => exact .malformed given kept unread
      · next reading read => exact .settled given kept read

theorem ackOf_ne_pending (answer : Decoded) : ackOf answer ≠ .pending := by
  unfold ackOf
  split <;> simp

/-- What a call with bytes of the node that the request was sent to can come to.

* `direct`: no answer to `ASKING` is to come, or it was read before.
* `waits`, `breaks`: the answer to `ASKING` is not there as a whole, or what is there is none.
* `acked`: the answer to `ASKING` is read, and then the reply. -/
inductive Replied (flight : InFlight) (attempt : Attempt) (store : Store) (backend : Decoder) :
    Outcome → Prop where
  | direct {outcome : Outcome} : attempt.ack ≠ .pending →
      Heard flight attempt store backend outcome → Replied flight attempt store backend outcome
  | waits : attempt.ack = .pending → backend.next.1 = .incomplete →
      Replied flight attempt store backend ⟨flight.await attempt, store, backend⟩
  | breaks {why : FrameFault} : attempt.ack = .pending → backend.next.1 = .invalid why →
      Replied flight attempt store backend ⟨flight.breakOff attempt.node why, store, backend⟩
  | acked {answer : Decoded} {rest : Decoder} {outcome : Outcome} : attempt.ack = .pending →
      backend.next = (.complete answer, rest) →
      Heard flight { attempt with ack := ackOf answer } store rest outcome →
      Replied flight attempt store backend outcome

theorem protocol_of_ackOf {answer : Decoded} {fault : Fault}
    (refused : ackOf answer = .refused fault) : ∃ what, fault = .protocol what := by
  unfold ackOf at refused
  split at refused
  · simp at refused
  · exact ⟨_, (Ack.refused.inj refused).symm⟩

theorem onReply_of_pending {attempt : Attempt} {store : Store} {backend : Decoder}
    (attempted : flight.phase.attempt? = some attempt) (pending : attempt.ack = .pending) :
    flight.onReply store backend = flight.readAck attempt store backend := by
  simp [onReply, attempted, pending]

theorem onReply_of_ne_pending {attempt : Attempt} {store : Store} {backend : Decoder}
    (attempted : flight.phase.attempt? = some attempt) (answered : attempt.ack ≠ .pending) :
    flight.onReply store backend = flight.readReply attempt store backend := by
  simp [onReply, attempted, answered]

theorem replied {attempt : Attempt} (due : flight.phase.attempt? = some attempt) (store : Store)
    (backend : Decoder) :
    Replied flight attempt store backend (flight.onReply store backend) := by
  by_cases ack : attempt.ack = .pending
  · rw [onReply_of_pending due ack]
    unfold readAck
    rcases next_cases backend with given | ⟨why, given⟩ | ⟨answer, rest, given⟩
    · rw [given]
      exact .waits ack (by rw [given])
    · rw [given]
      exact .breaks ack (by rw [given])
    · rw [given]
      exact .acked ack given (heard _ store rest)
  · rw [onReply_of_ne_pending due ack]
    exact .direct ack (heard attempt store backend)

/-- Reading a reply comes to what reading one frame comes to, behind `ASKING` as well. -/
theorem Replied.heard {attempt : Attempt} {store : Store} {backend : Decoder} {outcome : Outcome}
    (replied : Replied flight attempt store backend outcome) :
    ∃ answered rest,
      (answered = attempt ∨ ∃ answer, answered = { attempt with ack := ackOf answer }) ∧
        Heard flight answered store rest outcome := by
  cases replied with
  | direct settled heard => exact ⟨attempt, backend, .inl rfl, heard⟩
  | waits pending missing => exact ⟨attempt, backend, .inl rfl, .waits missing⟩
  | breaks pending wrong => exact ⟨attempt, backend, .inl rfl, .breaks wrong⟩
  | acked pending given heard => exact ⟨_, _, .inr ⟨_, rfl⟩, heard⟩

theorem redirect_cases (flight : InFlight) (node : Option String) (delay : Option Nat)
    (asking : Bool) :
    let counted := { flight with redirects := flight.redirects + 1 }
    (flight.settings.maxRedirects < flight.redirects + 1 ∧
        flight.redirect node delay asking =
          counted.fail (.tooManyRedirects (flight.redirects + 1).toNat)) ∨
      (flight.redirects + 1 ≤ flight.settings.maxRedirects ∧
        flight.redirect node delay asking = counted.dispatch node delay asking) := by
  unfold redirect
  dsimp only
  split
  · next many => exact .inl ⟨many, rfl⟩
  · next few => exact .inr ⟨UInt32.not_lt.1 few, rfl⟩

/-- A reply that is no redirect goes to the client; a redirect is followed, to a node that it names
or to the same one. -/
theorem settle_cases (flight : InFlight) (attempt : Attempt) (reply : Decoded) (reading : Reading) :
    (reading.isRetry = false ∧
        flight.settle attempt reply reading =
          ⟨.forward reply.bytes, { flight with phase := .done }⟩) ∨
      (reading.isRetry = true ∧ ∃ node delay asking,
        flight.settle attempt reply reading = flight.redirect node delay asking ∧
          (node = none → attempt.node = none)) := by
  cases reading with
  | answer => exact .inl ⟨rfl, rfl⟩
  | moved slot address => exact .inr ⟨rfl, _, _, _, rfl, by simp⟩
  | ask slot address => exact .inr ⟨rfl, _, _, _, rfl, by simp⟩
  | tryAgain => exact .inr ⟨rfl, _, _, _, rfl, id⟩
  | noScript => exact .inl ⟨rfl, rfl⟩
  | failure code => exact .inl ⟨rfl, rfl⟩

/-- A step that neither waits for more nor passes a reply on. -/
structure Closes (step : Step) : Prop where
  done : step.action ≠ .needMore
  kept : ∀ reply, step.action ≠ .forward reply

theorem closes_fail (flight : InFlight) (fault : Fault) : Closes (flight.fail fault) := by
  unfold fail Action.ofFault
  constructor <;> split <;> simp

theorem closes_dispatch (flight : InFlight) (node : Option String) (delay : Option Nat)
    (asking : Bool) : Closes (flight.dispatch node delay asking) := by
  unfold dispatch
  split
  · exact closes_fail _ _
  · exact ⟨by simp, by simp⟩

theorem closes_redirect (flight : InFlight) (node : Option String) (delay : Option Nat)
    (asking : Bool) : Closes (flight.redirect node delay asking) := by
  rcases redirect_cases flight node delay asking with ⟨_, ends⟩ | ⟨_, ends⟩
  · exact ends ▸ closes_fail _ _
  · exact ends ▸ closes_dispatch _ _ _ _

theorem closes_bootstrapFrom (flight : InFlight) (node : String) (others : List String) :
    Closes (flight.bootstrapFrom node others) :=
  ⟨by simp [bootstrapFrom], by simp [bootstrapFrom]⟩

theorem closes_route (flight : InFlight) (store : Store) : Closes (flight.route store) := by
  have routed := routed flight store
  generalize flight.route store = step at routed
  cases routed with
  | refused => exact closes_fail flight _
  | sent => exact closes_dispatch flight _ _ _
  | asked => exact closes_bootstrapFrom flight _ _

theorem closes_start (flight : InFlight) (store : Store) : Closes (flight.start store) := by
  unfold start
  split
  · exact closes_fail flight _
  · exact closes_route flight store
  · exact closes_fail flight _

/-- A step that waits for the reply has read nothing and changed nothing else. -/
theorem Heard.eq_of_waits {attempt : Attempt} {store : Store} {backend : Decoder}
    {outcome : Outcome} (heard : Heard flight attempt store backend outcome)
    (waits : outcome.action = .needMore) :
    outcome = ⟨flight.await attempt, store, backend⟩ := by
  cases heard with
  | waits missing => rfl
  | breaks wrong => simp [breakOff] at waits
  | refused => exact absurd waits (closes_fail flight _).done
  | malformed => exact absurd waits (closes_fail flight _).done
  | @settled reply rest reading =>
    rcases settle_cases flight attempt reply reading with
      ⟨_, ends⟩ | ⟨_, node, delay, asking, ends, _⟩
    · simp [ends] at waits
    · exact absurd (ends ▸ waits) (closes_redirect flight _ _ _).done

/-- A call that waits has read nothing, or the answer to `ASKING`. -/
theorem Replied.eq_of_waits {attempt : Attempt} {store : Store} {backend : Decoder}
    {outcome : Outcome} (replied : Replied flight attempt store backend outcome)
    (waits : outcome.action = .needMore) :
    outcome = ⟨flight.await attempt, store, backend⟩ ∨
      attempt.ack = .pending ∧ ∃ answer rest, backend.next = (.complete answer, rest) ∧
        outcome = ⟨flight.await { attempt with ack := ackOf answer }, store, rest⟩ := by
  cases replied with
  | direct answered heard => exact .inl (heard.eq_of_waits waits)
  | waits => exact .inl rfl
  | breaks => simp [breakOff] at waits
  | acked pending given heard => exact .inr ⟨pending, _, _, given, heard.eq_of_waits waits⟩

/-! ## The reply to the request for a dump -/

/-- What a call with bytes of the node that was asked for a dump can come to.

* `waits`: the reply is not there as a whole.
* `breaks`: what is there is no reply.
* `failsOver`, `givesUp`: the reply cannot be used, and another node is left to be asked or none.
* `learns`: the reply holds a dump, which is accepted. -/
inductive Informed (flight : InFlight) (node : String) (others : List String) (store : Store)
    (backend : Decoder) : Outcome → Prop where
  | waits : backend.next.1 = .incomplete →
      Informed flight node others store backend ⟨⟨.needMore, flight⟩, store, backend⟩
  | breaks {why : FrameFault} : backend.next.1 = .invalid why →
      Informed flight node others store backend ⟨flight.breakOff (some node) why, store, backend⟩
  | failsOver {reply : Decoded} {rest : Decoder} {fault : Fault} {next : String}
      {more : List String} : backend.next = (.complete reply, rest) →
      flight.learned store node reply = .error fault → others = next :: more →
      Informed flight node others store backend ⟨flight.bootstrapFrom next more, store, rest⟩
  | givesUp {reply : Decoded} {rest : Decoder} {fault : Fault} :
      backend.next = (.complete reply, rest) → flight.learned store node reply = .error fault →
      others = [] → Informed flight node others store backend ⟨flight.fail fault, store, rest⟩
  | learns {reply : Decoded} {rest : Decoder} {written : Store} :
      backend.next = (.complete reply, rest) → flight.learned store node reply = .ok written →
      Informed flight node others store backend
        ⟨{ flight with bootstraps := flight.bootstraps + 1 }.route written, written, rest⟩

theorem informed {node : String} {others : List String}
    (due : flight.phase = .bootstrapping node others) (store : Store) (backend : Decoder) :
    Informed flight node others store backend (flight.onTopology store backend) := by
  unfold onTopology
  rw [due]
  dsimp only
  rcases next_cases backend with given | ⟨why, given⟩ | ⟨reply, rest, given⟩
  · rw [given]
    exact .waits (by rw [given])
  · rw [given]
    exact .breaks (by rw [given])
  · rw [given]
    unfold receiveDump
    dsimp only
    split
    · next fault unusable =>
      unfold failOver
      cases others with
      | nil => exact .givesUp given unusable rfl
      | cons next more => exact .failsOver given unusable rfl
    · next written learned => exact .learns given learned

/-- What is learned from a node is what replaces the table of the cluster. -/
theorem replace_of_learned {store written : Store} {node : String} {reply : Decoded}
    (learned : flight.learned store node reply = .ok written) :
    ∃ dump summary, dumpOf reply = .ok dump ∧
      store.replace flight.cluster dump (some node) = .ok (summary, written) := by
  unfold InFlight.learned at learned
  split at learned
  · simp at learned
  · next dump held =>
    cases replaced : store.replace flight.cluster dump (some node) with
    | error fault => simp [replaced, Except.map] at learned
    | ok result =>
      obtain ⟨summary, after⟩ := result
      simp only [replaced, Except.map, Except.ok.injEq] at learned
      exact ⟨dump, summary, held, by rw [replaced, learned]⟩

theorem not_uncovered_of_learned {store : Store} {node : String} {reply : Decoded} {fault : Fault}
    (refused : flight.learned store node reply = .error fault) (slot : Nat) :
    fault ≠ .slotNotCovered slot := by
  unfold InFlight.learned dumpOf Store.replace at refused
  grind [Except.map]

theorem isFatal_of_learned {store : Store} {node : String} {reply : Decoded} {fault : Fault}
    (refused : flight.learned store node reply = .error fault) : fault.isFatal = false := by
  unfold InFlight.learned dumpOf Store.replace at refused
  grind [Fault.isFatal, Except.map]

/-! ## What no step changes -/

structure Kept (flight now : InFlight) : Prop where
  cluster : now.cluster = flight.cluster
  settings : now.settings = flight.settings
  request : now.request = flight.request

theorem Kept.refl (flight : InFlight) : flight.Kept flight := ⟨rfl, rfl, rfl⟩

theorem Kept.trans {middle now : InFlight} (first : flight.Kept middle) (second : middle.Kept now) :
    flight.Kept now :=
  ⟨second.cluster.trans first.cluster, second.settings.trans first.settings,
    second.request.trans first.request⟩

/-- A step for the same request. If it sends the request, it is due to hear from the node, and it
awaits an answer to `ASKING` exactly if it sent `ASKING`. -/
structure Follows (flight : InFlight) (step : Step) : Prop where
  kept : flight.Kept step.flight
  sends : ∀ node bytes delay, step.action = .dispatch node bytes delay →
    ∃ request asking, flight.request = some request ∧ bytes = payload request asking ∧
      step.flight.phase = .dispatching ⟨node, asking, if asking then .pending else .settled⟩

theorem Follows.of_kept {now : InFlight} {step : Step} (kept : flight.Kept now)
    (follows : now.Follows step) : flight.Follows step where
  kept := kept.trans follows.kept
  sends node bytes delay acts := by
    rw [← kept.request]
    exact follows.sends node bytes delay acts

theorem follows_fail (flight : InFlight) (fault : Fault) : flight.Follows (flight.fail fault) where
  kept := ⟨rfl, rfl, rfl⟩
  sends node bytes delay acts := by
    simp only [fail, Action.ofFault] at acts
    split at acts <;> simp at acts

theorem follows_dispatch (flight : InFlight) (node : Option String) (delay : Option Nat)
    (asking : Bool) : flight.Follows (flight.dispatch node delay asking) := by
  cases known : flight.request with
  | none =>
    rw [dispatch_of_unread known]
    exact follows_fail flight _
  | some request =>
    rw [dispatch_eq known]
    refine ⟨⟨rfl, rfl, rfl⟩, ?_⟩
    rintro _ _ _ ⟨⟩
    exact ⟨request, asking, known, rfl, rfl⟩

theorem follows_bootstrapFrom (flight : InFlight) (node : String) (others : List String) :
    flight.Follows (flight.bootstrapFrom node others) :=
  ⟨⟨rfl, rfl, rfl⟩, fun _ _ _ acts => by simp [bootstrapFrom] at acts⟩

theorem follows_breakOff (flight : InFlight) (node : Option String) (why : FrameFault) :
    flight.Follows (flight.breakOff node why) :=
  ⟨⟨rfl, rfl, rfl⟩, fun _ _ _ acts => by simp [breakOff] at acts⟩

theorem follows_route (flight : InFlight) (store : Store) :
    flight.Follows (flight.route store) := by
  have routed := routed flight store
  generalize flight.route store = step at routed
  cases routed with
  | refused => exact follows_fail flight _
  | sent => exact follows_dispatch flight _ _ _
  | asked => exact follows_bootstrapFrom flight _ _

theorem follows_start (flight : InFlight) (store : Store) :
    flight.Follows (flight.start store) := by
  unfold start
  split
  · exact follows_fail flight _
  · exact follows_route flight store
  · exact follows_fail flight _

theorem follows_settle (flight : InFlight) (attempt : Attempt) (reply : Decoded)
    (reading : Reading) : flight.Follows (flight.settle attempt reply reading) := by
  have counted : flight.Kept { flight with redirects := flight.redirects + 1 } := ⟨rfl, rfl, rfl⟩
  rcases settle_cases flight attempt reply reading with
    ⟨_, ends⟩ | ⟨_, node, delay, asking, ends, _⟩
  · rw [ends]
    exact ⟨⟨rfl, rfl, rfl⟩, fun _ _ _ acts => by simp at acts⟩
  · rw [ends]
    rcases redirect_cases flight node delay asking with ⟨_, ends⟩ | ⟨_, ends⟩
    · exact ends ▸ .of_kept counted (follows_fail _ _)
    · exact ends ▸ .of_kept counted (follows_dispatch _ _ _ _)

theorem Heard.follows {attempt : Attempt} {store : Store} {backend : Decoder} {outcome : Outcome}
    (heard : Heard flight attempt store backend outcome) : flight.Follows outcome.toStep := by
  cases heard with
  | waits => exact ⟨⟨rfl, rfl, rfl⟩, fun _ _ _ acts => by simp [await] at acts⟩
  | breaks => exact follows_breakOff flight _ _
  | refused => exact follows_fail flight _
  | malformed => exact follows_fail flight _
  | settled => exact follows_settle flight _ _ _

theorem follows_onReply (flight : InFlight) (store : Store) (backend : Decoder) :
    flight.Follows (flight.onReply store backend).toStep := by
  cases attempted : flight.phase.attempt? with
  | none =>
    have ends : flight.onReply store backend = ⟨flight.misuse "on_reply", store, backend⟩ := by
      simp [onReply, attempted]
    exact ends ▸ follows_fail flight _
  | some attempt =>
    obtain ⟨answered, rest, _, heard⟩ := (replied attempted store backend).heard
    exact heard.follows

theorem follows_onTopology (flight : InFlight) (store : Store) (backend : Decoder) :
    flight.Follows (flight.onTopology store backend).toStep := by
  cases phase : flight.phase with
  | bootstrapping node others =>
    have informed := informed phase store backend
    generalize flight.onTopology store backend = outcome at informed
    cases informed with
    | waits => exact ⟨.refl flight, fun _ _ _ acts => by simp at acts⟩
    | breaks => exact follows_breakOff flight _ _
    | failsOver => exact follows_bootstrapFrom flight _ _
    | givesUp => exact follows_fail flight _
    | learns =>
      have counted : flight.Kept { flight with bootstraps := flight.bootstraps + 1 } :=
        ⟨rfl, rfl, rfl⟩
      exact .of_kept counted (follows_route _ _)
  | _ =>
    simp only [onTopology, phase]
    exact follows_fail flight _

end InFlight

/-! ## Requests that are accepted -/

/-- A request as it comes off a client's connection: classified, in a frame of its own, or failed
with a fault that is not fatal. -/
theorem Router.receive_cases (router : Router) (cluster : String) (decoded : Decoded) :
    (∃ request, request.decoded = decoded ∧ router.receive cluster decoded =
        ⟨cluster, router.settings, some request, .classified, 0, 0⟩) ∨
      ∃ fault, fault.isFatal = false ∧ router.receive cluster decoded =
        ⟨cluster, router.settings, none, .failed fault, 0, 0⟩ := by
  unfold receive
  cases accepted : Request.ofDecoded decoded with
  | ok request => exact .inl ⟨request, Request.decoded_of_ofDecoded accepted, rfl⟩
  | error fault => exact .inr ⟨fault, Request.isFatal_of_ofDecoded accepted, rfl⟩

theorem Router.accept_eq_complete {router : Router} {cluster : String} {client : Decoder}
    {flight : InFlight} (taken : (router.accept cluster client).1 = .complete flight) :
    ∃ decoded rest, client.next = (.complete decoded, rest) ∧
      flight = router.receive cluster decoded := by
  unfold accept at taken
  rcases InFlight.next_cases client with given | ⟨why, given⟩ | ⟨decoded, rest, given⟩
  · simp [given] at taken
  · simp [given] at taken
  · rw [given] at taken
    simp only [Verdict.complete.injEq] at taken
    exact ⟨decoded, rest, given, taken.symm⟩

/-- A request that was accepted is classified, or has failed with a fault that is not fatal. -/
theorem Router.accept_cases {router : Router} {cluster : String} {client : Decoder}
    {flight : InFlight} (taken : (router.accept cluster client).1 = .complete flight) :
    (∃ request, flight = ⟨cluster, router.settings, some request, .classified, 0, 0⟩) ∨
      ∃ fault, fault.isFatal = false ∧
        flight = ⟨cluster, router.settings, none, .failed fault, 0, 0⟩ := by
  obtain ⟨decoded, _, _, rfl⟩ := router.accept_eq_complete taken
  rcases router.receive_cases cluster decoded with
    ⟨request, _, received⟩ | ⟨fault, harmless, received⟩
  · exact .inl ⟨request, received⟩
  · exact .inr ⟨fault, harmless, received⟩

theorem Router.decoded_of_accept {router : Router} {cluster : String} {client : Decoder}
    {flight : InFlight} {request : Request}
    (taken : (router.accept cluster client).1 = .complete flight)
    (known : flight.request = some request) :
    ∃ rest, client.next = (.complete request.decoded, rest) := by
  obtain ⟨decoded, rest, given, rfl⟩ := router.accept_eq_complete taken
  rcases router.receive_cases cluster decoded with ⟨accepted, same, received⟩ | ⟨fault, _, received⟩
  · rw [received] at known
    obtain rfl := Option.some.inj known
    exact ⟨rest, same ▸ given⟩
  · rw [received] at known
    simp at known

theorem Router.isFrame_accept {router : Router} {cluster : String} {client : Decoder}
    {flight : InFlight} {request : Request}
    (taken : (router.accept cluster client).1 = .complete flight)
    (known : flight.request = some request) : IsFrame request.bytes := by
  obtain ⟨rest, given⟩ := router.decoded_of_accept taken known
  exact isFrame_of_next given

end ClusterProxy
