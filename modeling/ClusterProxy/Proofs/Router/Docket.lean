import ClusterProxy.Proofs.Router.Run
import ClusterProxy.Router.Docket

/-!
# What a docket stands for

A docket stands for a phase if its places agree with each other (`Docket.Stands`), and then it shows
the request in that phase (`Docket.Shows`). A step that is taken with such a docket gives the action
of the same step for the request, does the same to the store and to the connection, and leaves a
docket that shows the request after it (`Docket.Shows.agrees_take`). So what is known of requests
in flight is known of their dockets.

Each way in which a step ends writes several places. The lemmas are about these ways first: failing,
being sent, asking for a dump. What they need is that no fault and no refusal is written down when
they begin (`Docket.Clear`), since neither is wiped out when a request is sent on.
-/

namespace ClusterProxy

namespace Docket

/-! ## Places that agree -/

/-- What a docket tells of the node's answer to `ASKING`. -/
inductive Acks (docket : Docket) : Ack → Prop where
  | settled (read : docket.askingAck = false) (granted : docket.refused = none) :
      Acks docket .settled
  | pending (due : docket.askingAck = true) (unread : docket.refused = none) :
      Acks docket .pending
  | refused {fault : Fault} (read : docket.askingAck = false)
      (told : docket.refused = some fault) : Acks docket (.refused fault)

theorem Acks.due_iff {docket : Docket} {ack : Ack} (acks : docket.Acks ack) :
    docket.askingAck = true ↔ ack = .pending := by
  cases acks with
  | settled read => simp [read]
  | pending due => simp [due]
  | refused read => simp [read]

/-- The state is none of what tells of the answer. -/
theorem Acks.written {docket : Docket} {ack : Ack} (acks : docket.Acks ack) (state : State) :
    Acks { docket with state := state } ack := by
  cases acks with
  | settled read granted => exact .settled read granted
  | pending due unread => exact .pending due unread
  | refused read told => exact .refused read told

/-- The docket of a request that was sent to a node. -/
structure Tries (docket : Docket) (attempt : Attempt) : Prop where
  node : docket.node = attempt.node
  asking : docket.asking = attempt.asking
  ack : docket.Acks attempt.ack

/-- Neither a fault nor a refusal is written down. -/
structure Clear (docket : Docket) : Prop where
  sound : docket.fault = none
  granted : docket.refused = none

/-- The phase that a docket stands for. -/
inductive Stands (docket : Docket) : Phase → Prop where
  | classified (state : docket.state = .classified) (clear : docket.Clear) :
      Stands docket .classified
  | bootstrapping {node : String} (state : docket.state = .bootstrapping) (clear : docket.Clear)
      (asked : docket.node = some node) :
      Stands docket (.bootstrapping node docket.candidates.reverse)
  | dispatching {attempt : Attempt} (state : docket.state = .dispatching)
      (sound : docket.fault = none) (tries : docket.Tries attempt) :
      Stands docket (.dispatching attempt)
  | awaitingReply {attempt : Attempt} (state : docket.state = .awaitingReply)
      (sound : docket.fault = none) (tries : docket.Tries attempt) :
      Stands docket (.awaitingReply attempt)
  | done (state : docket.state = .done) (sound : docket.fault = none) : Stands docket .done
  | failed {fault : Fault} (state : docket.state = .failed) (told : docket.fault = some fault) :
      Stands docket (.failed fault)

/-- The request of a docket in a phase. -/
def inPhase (docket : Docket) (phase : Phase) : InFlight :=
  ⟨docket.cluster, docket.settings, docket.request, phase, docket.redirects, docket.bootstraps⟩

@[simp] theorem inPhase_cluster (docket : Docket) (phase : Phase) :
    (docket.inPhase phase).cluster = docket.cluster := rfl

@[simp] theorem inPhase_settings (docket : Docket) (phase : Phase) :
    (docket.inPhase phase).settings = docket.settings := rfl

@[simp] theorem inPhase_request (docket : Docket) (phase : Phase) :
    (docket.inPhase phase).request = docket.request := rfl

@[simp] theorem inPhase_phase (docket : Docket) (phase : Phase) :
    (docket.inPhase phase).phase = phase := rfl

@[simp] theorem inPhase_redirects (docket : Docket) (phase : Phase) :
    (docket.inPhase phase).redirects = docket.redirects := rfl

@[simp] theorem inPhase_bootstraps (docket : Docket) (phase : Phase) :
    (docket.inPhase phase).bootstraps = docket.bootstraps := rfl

/-- A docket shows the request in the phase that it stands for. -/
inductive Shows (docket : Docket) : InFlight → Prop where
  | mk (phase : Phase) (stands : docket.Stands phase) : Shows docket (docket.inPhase phase)

theorem Shows.stands {docket : Docket} {flight : InFlight} (shows : docket.Shows flight) :
    docket.Stands flight.phase := by
  cases shows with
  | mk phase stands => exact stands

theorem Shows.request_eq {docket : Docket} {flight : InFlight} (shows : docket.Shows flight) :
    docket.request = flight.request := by
  cases shows with
  | mk phase stands => rfl

/-- The docket of a move shows the request after a step with the same action. -/
structure Move.Agrees (move : Move) (step : Step) : Prop where
  action : move.action = step.action
  shows : move.docket.Shows step.flight

/-- A move that agrees, and the store and the connection are the same. -/
structure Result.Agrees (result : Result) (outcome : Outcome) : Prop where
  move : result.toMove.Agrees outcome.toStep
  store : result.store = outcome.store
  backend : result.backend = outcome.backend

theorem Stands.name_eq {docket : Docket} {phase : Phase} (stands : docket.Stands phase) :
    docket.state.name = phase.name := by
  cases stands with
  | classified state => rw [state]; rfl
  | bootstrapping state => rw [state]; rfl
  | dispatching state => rw [state]; rfl
  | awaitingReply state => rw [state]; rfl
  | done state => rw [state]; rfl
  | failed state => rw [state]; rfl

/-! ## How a step ends -/

variable {docket : Docket} {phase : Phase}

theorem agrees_fail (docket : Docket) (phase : Phase) (fault : Fault) :
    (docket.fail fault).Agrees ((docket.inPhase phase).fail fault) :=
  ⟨rfl, .mk (.failed fault) (.failed rfl rfl)⟩

theorem agrees_misuse (stands : docket.Stands phase) (call : String) :
    (docket.misuse call).Agrees ((docket.inPhase phase).misuse call) := by
  unfold misuse InFlight.misuse
  rw [stands.name_eq]
  exact agrees_fail docket phase _

theorem agrees_breakOff {node : Option String} (sent : docket.node = node) (phase : Phase)
    (why : FrameFault) :
    (docket.breakOff why).Agrees ((docket.inPhase phase).breakOff node why) := by
  subst sent
  exact ⟨rfl, .mk (.failed _) (.failed rfl rfl)⟩

theorem dispatch_eq {request : Request} (known : docket.request = some request)
    (node : Option String) (delay : Option Nat) (asking : Bool) :
    docket.dispatch node delay asking =
      ⟨.dispatch node (InFlight.payload request asking) delay, { docket with
        state := .dispatching, node := node, asking := asking, askingAck := asking }⟩ := by
  simp [dispatch, known, InFlight.payload]

theorem dispatch_of_unread (unread : docket.request = none) (node : Option String)
    (delay : Option Nat) (asking : Bool) :
    docket.dispatch node delay asking = docket.fail .emptyCommand := by
  simp [dispatch, unread]

theorem agrees_dispatch (clear : docket.Clear) (phase : Phase) (node : Option String)
    (delay : Option Nat) (asking : Bool) :
    (docket.dispatch node delay asking).Agrees
      ((docket.inPhase phase).dispatch node delay asking) := by
  cases known : docket.request with
  | none =>
    rw [dispatch_of_unread known, InFlight.dispatch_of_unread (by rwa [inPhase_request])]
    exact agrees_fail docket phase .emptyCommand
  | some request =>
    have classified : (docket.inPhase phase).request = some request := known
    rw [dispatch_eq known, InFlight.dispatch_eq classified]
    refine ⟨rfl, .mk (.dispatching _) (.dispatching rfl clear.sound ⟨rfl, rfl, ?_⟩)⟩
    cases asking with
    | false => exact .settled rfl clear.granted
    | true => exact .pending rfl clear.granted

theorem agrees_bootstrapFrom (clear : docket.Clear) (phase : Phase) (node : String) :
    (docket.bootstrapFrom node).Agrees
      ((docket.inPhase phase).bootstrapFrom node docket.candidates.reverse) :=
  ⟨rfl, .mk _ (.bootstrapping rfl ⟨clear.sound, clear.granted⟩ rfl)⟩

/-- The candidate at the end is the next one. -/
theorem agrees_askNext (clear : docket.Clear) (phase : Phase) (fault : Fault) :
    (docket.askNext fault).Agrees
      ((docket.inPhase phase).failOver docket.candidates.reverse fault) := by
  rcases List.eq_nil_or_concat docket.candidates with none_left | ⟨others, node, left⟩
  · have ends : docket.askNext fault = docket.fail fault := by simp [askNext, none_left]
    rw [ends, none_left]
    exact agrees_fail docket phase fault
  · have asks : docket.askNext fault =
        { docket with candidates := others }.bootstrapFrom node := by simp [askNext, left]
    have next : docket.candidates.reverse = node :: others.reverse := by simp [left]
    rw [asks, next]
    exact @agrees_bootstrapFrom { docket with candidates := others }
      ⟨clear.sound, clear.granted⟩ phase node

/-! ## Where the request goes -/

theorem agrees_bootstrap (clear : docket.Clear) (phase : Phase) (store : Store) :
    (docket.bootstrap store).Agrees ((docket.inPhase phase).bootstrap store) := by
  have asks : (docket.inPhase phase).bootstrap store =
      (docket.inPhase phase).failOver ((docket.inPhase phase).candidates store)
        (.noSeedNode docket.cluster) := by
    unfold InFlight.bootstrap InFlight.failOver
    cases (docket.inPhase phase).candidates store <;> rfl
  have agrees := @agrees_askNext
    { docket with candidates := ((docket.inPhase phase).candidates store).reverse }
    ⟨clear.sound, clear.granted⟩ phase (.noSeedNode docket.cluster)
  dsimp only at agrees
  rw [List.reverse_reverse] at agrees
  rw [asks]
  exact agrees

theorem agrees_route (clear : docket.Clear) (phase : Phase) (store : Store) :
    (docket.route store).Agrees ((docket.inPhase phase).route store) := by
  have still (state : State) : Clear { docket with state := state } :=
    ⟨clear.sound, clear.granted⟩
  unfold route InFlight.route
  simp only [inPhase_request, inPhase_cluster, inPhase_bootstraps]
  cases docket.request.map Request.targetSlot with
  | none => exact agrees_fail docket phase .emptyCommand
  | some target =>
    cases target with
    | error fault => exact agrees_fail docket phase fault
    | ok slot =>
      cases slot with
      | none => exact agrees_dispatch (still .noSlotNeeded) phase none none false
      | some slot =>
        dsimp only
        by_cases needed : (store.needsBootstrap docket.cluster && docket.bootstraps == 0) = true
        · simp only [needed, if_true]
          exact agrees_bootstrap (still .slotKnown) phase store
        simp only [needed]
        cases store.owner docket.cluster slot with
        | some node => exact agrees_dispatch (still .slotKnown) phase (some node) none false
        | none =>
          by_cases first : (docket.bootstraps == 0) = true
          · simp only [first, if_true]
            exact agrees_bootstrap (still .slotKnown) phase store
          · simp only [first]
            exact agrees_fail _ phase (.slotNotCovered slot)

theorem agrees_start (stands : docket.Stands phase) (store : Store) :
    (docket.start store).Agrees ((docket.inPhase phase).start store) := by
  have misused := agrees_misuse stands "start"
  unfold start InFlight.start
  cases stands with
  | classified state clear =>
    rw [state]
    exact agrees_route clear .classified store
  | @failed fault state told =>
    have again : docket.respondFault = docket.fail fault := by rw [fail, ← told]
    rw [state]
    dsimp only
    rw [again]
    exact agrees_fail docket _ fault
  | bootstrapping state => rw [state]; exact misused
  | dispatching state => rw [state]; exact misused
  | awaitingReply state => rw [state]; exact misused
  | done state => rw [state]; exact misused

/-! ## The reply to the request -/

theorem agrees_redirect (clear : docket.Clear) (phase : Phase) (node : Option String)
    (delay : Option Nat) (asking : Bool) :
    (docket.redirect node delay asking).Agrees
      ((docket.inPhase phase).redirect node delay asking) := by
  have counted : Clear { docket with redirects := docket.redirects + 1 } :=
    ⟨clear.sound, clear.granted⟩
  unfold redirect InFlight.redirect
  simp only [inPhase_settings, inPhase_redirects]
  by_cases many : docket.settings.maxRedirects < docket.redirects + 1
  · simp only [many, if_true]
    exact agrees_fail _ phase _
  · simp only [many, if_false]
    exact agrees_dispatch counted phase node delay asking

theorem agrees_settle {attempt : Attempt} (clear : docket.Clear) (tries : docket.Tries attempt)
    (phase : Phase) (reply : Decoded) (reading : Reading) :
    (docket.settle reply reading).Agrees
      ((docket.inPhase phase).settle attempt reply reading) := by
  have forwards : Move.Agrees ⟨.forward reply.bytes, { docket with state := .done }⟩
      ⟨.forward reply.bytes, { docket.inPhase phase with phase := .done }⟩ :=
    ⟨rfl, .mk .done (.done rfl clear.sound)⟩
  cases reading with
  | moved slot address => exact agrees_redirect clear phase (some address) none false
  | ask slot address => exact agrees_redirect clear phase (some address) none true
  | tryAgain =>
    have again := agrees_redirect clear phase attempt.node (some docket.settings.retryDelay)
      attempt.asking
    rw [← tries.node, ← tries.asking] at again
    rw [settle, InFlight.settle, ← tries.node, ← tries.asking]
    exact again
  | answer => exact forwards
  | noScript => exact forwards
  | failure code => exact forwards

/-- A docket whose request waits for a reply of a node. -/
structure Waits (docket : Docket) (attempt : Attempt) : Prop where
  state : docket.state = .awaitingReply
  sound : docket.fault = none
  tries : docket.Tries attempt

theorem Waits.stands {attempt : Attempt} (waits : docket.Waits attempt) :
    docket.Stands (.awaitingReply attempt) :=
  .awaitingReply waits.state waits.sound waits.tries

theorem agrees_await {attempt : Attempt} (waits : docket.Waits attempt) (phase : Phase) :
    Move.Agrees ⟨.needMore, docket⟩ ((docket.inPhase phase).await attempt) :=
  ⟨rfl, .mk _ waits.stands⟩

theorem agrees_receive {attempt : Attempt} (waits : docket.Waits attempt)
    (answered : attempt.ack ≠ .pending) (phase : Phase) (store : Store) (backend : Decoder)
    (reply : Decoded) :
    (docket.receive store backend reply).Agrees
      ((docket.inPhase phase).receive attempt store backend reply) := by
  have acks := waits.tries.ack
  unfold receive InFlight.receive
  generalize given : attempt.ack = ack at acks answered
  cases acks with
  | pending => exact absurd rfl answered
  | refused _ told =>
    rw [told]
    exact ⟨agrees_fail { docket with refused := none } phase _, rfl, rfl⟩
  | settled _ granted =>
    rw [granted]
    dsimp only
    cases Reading.ofFrame reply.frame reply.bytes with
    | error fault => exact ⟨agrees_fail docket phase fault, rfl, rfl⟩
    | ok reading =>
      exact ⟨agrees_settle ⟨waits.sound, granted⟩ waits.tries phase reply reading, rfl, rfl⟩

theorem agrees_readReply {attempt : Attempt} (waits : docket.Waits attempt)
    (answered : attempt.ack ≠ .pending) (phase : Phase) (store : Store) (backend : Decoder) :
    (docket.readReply store backend).Agrees
      ((docket.inPhase phase).readReply attempt store backend) := by
  unfold readReply InFlight.readReply
  rcases InFlight.next_cases backend with given | ⟨why, given⟩ | ⟨reply, rest, given⟩
  · rw [given]
    exact ⟨agrees_await waits phase, rfl, rfl⟩
  · rw [given]
    exact ⟨agrees_breakOff waits.tries.node phase why, rfl, rfl⟩
  · rw [given]
    exact agrees_receive waits answered phase store rest reply

/-- The answer to `ASKING` is written down as what it means. -/
theorem waits_acknowledge {attempt : Attempt} (waits : docket.Waits attempt)
    (pending : attempt.ack = .pending) (answer : Decoded) :
    (docket.acknowledge answer).Waits { attempt with ack := InFlight.ackOf answer } := by
  have granted : docket.refused = none := by
    have acks := waits.tries.ack
    rw [pending] at acks
    cases acks with
    | pending _ unread => exact unread
  unfold acknowledge InFlight.ackOf
  split
  · exact ⟨waits.state, waits.sound, waits.tries.node, waits.tries.asking, .settled rfl granted⟩
  · exact ⟨waits.state, waits.sound, waits.tries.node, waits.tries.asking, .refused rfl rfl⟩

theorem inPhase_acknowledge (docket : Docket) (answer : Decoded) (phase : Phase) :
    (docket.acknowledge answer).inPhase phase = docket.inPhase phase := by
  unfold acknowledge
  split <;> rfl

theorem agrees_readAck {attempt : Attempt} (waits : docket.Waits attempt)
    (pending : attempt.ack = .pending) (phase : Phase) (store : Store) (backend : Decoder) :
    (docket.readAck store backend).Agrees
      ((docket.inPhase phase).readAck attempt store backend) := by
  unfold readAck InFlight.readAck
  rcases InFlight.next_cases backend with given | ⟨why, given⟩ | ⟨answer, rest, given⟩
  · rw [given]
    exact ⟨agrees_await waits phase, rfl, rfl⟩
  · rw [given]
    exact ⟨agrees_breakOff waits.tries.node phase why, rfl, rfl⟩
  · rw [given]
    have read := agrees_readReply (waits_acknowledge waits pending answer)
      (InFlight.ackOf_ne_pending answer) phase store rest
    rwa [inPhase_acknowledge] at read

/-- The state is written before anything is read. -/
theorem Tries.waits {attempt : Attempt} (tries : docket.Tries attempt)
    (sound : docket.fault = none) : Waits { docket with state := .awaitingReply } attempt :=
  ⟨rfl, sound, tries.node, tries.asking, tries.ack.written .awaitingReply⟩

theorem agrees_onReply_of_tries {attempt : Attempt} (tries : docket.Tries attempt)
    (sound : docket.fault = none)
    (sent : docket.state = .dispatching ∨ docket.state = .awaitingReply)
    (attempted : phase.attempt? = some attempt) (store : Store) (backend : Decoder) :
    (docket.onReply store backend).Agrees ((docket.inPhase phase).onReply store backend) := by
  have waits := tries.waits sound
  have due := waits.tries.ack.due_iff
  unfold onReply
  rw [if_pos sent]
  dsimp only at due ⊢
  by_cases pending : attempt.ack = .pending
  · rw [if_pos (due.2 pending), InFlight.onReply_of_pending attempted pending]
    exact agrees_readAck waits pending phase store backend
  · rw [if_neg (mt due.1 pending), InFlight.onReply_of_ne_pending attempted pending]
    exact agrees_readReply waits pending phase store backend

theorem agrees_onReply (stands : docket.Stands phase) (store : Store) (backend : Decoder) :
    (docket.onReply store backend).Agrees ((docket.inPhase phase).onReply store backend) := by
  have misused := agrees_misuse stands "on_reply"
  -- In every other state the call is refused before anything is read.
  have refused (other : ¬(docket.state = .dispatching ∨ docket.state = .awaitingReply))
      (none_due : phase.attempt? = none) :
      (docket.onReply store backend).Agrees ((docket.inPhase phase).onReply store backend) := by
    unfold onReply InFlight.onReply
    rw [if_neg other, inPhase_phase, none_due]
    exact ⟨misused, rfl, rfl⟩
  cases stands with
  | dispatching state sound tries =>
    exact agrees_onReply_of_tries tries sound (.inl state) rfl store backend
  | awaitingReply state sound tries =>
    exact agrees_onReply_of_tries tries sound (.inr state) rfl store backend
  | classified state => exact refused (by simp [state]) rfl
  | bootstrapping state => exact refused (by simp [state]) rfl
  | done state => exact refused (by simp [state]) rfl
  | failed state => exact refused (by simp [state]) rfl

/-! ## The reply to the request for a dump -/

theorem agrees_receiveDump {node : String} (clear : docket.Clear)
    (asked : docket.node = some node) (phase : Phase) (store : Store) (backend : Decoder)
    (reply : Decoded) :
    (docket.receiveDump store backend reply).Agrees
      ((docket.inPhase phase).receiveDump node docket.candidates.reverse store backend reply) := by
  have learned : (docket.inPhase phase).learned store node reply =
      ((InFlight.dumpOf reply).bind fun dump =>
        store.replace docket.cluster dump docket.node).map Prod.snd := by
    rw [InFlight.learned, asked]
    cases InFlight.dumpOf reply <;> rfl
  unfold receiveDump InFlight.receiveDump
  rw [learned]
  cases (InFlight.dumpOf reply).bind fun dump =>
      store.replace docket.cluster dump docket.node with
  | error fault => exact ⟨agrees_askNext clear phase fault, rfl, rfl⟩
  | ok replaced =>
    have counted : Clear { docket with
        bootstraps := docket.bootstraps + 1, candidates := [], state := .slotKnown } :=
      ⟨clear.sound, clear.granted⟩
    exact ⟨agrees_route counted phase replaced.2, rfl, rfl⟩

theorem agrees_onTopology (stands : docket.Stands phase) (store : Store) (backend : Decoder) :
    (docket.onTopology store backend).Agrees
      ((docket.inPhase phase).onTopology store backend) := by
  have misused := agrees_misuse stands "on_topology"
  have refused (other : docket.state ≠ .bootstrapping)
      (ends : (docket.inPhase phase).onTopology store backend =
        ⟨(docket.inPhase phase).misuse "on_topology", store, backend⟩) :
      (docket.onTopology store backend).Agrees
        ((docket.inPhase phase).onTopology store backend) := by
    rw [ends, onTopology, if_neg other]
    exact ⟨misused, rfl, rfl⟩
  cases stands with
  | bootstrapping state clear asked =>
    unfold onTopology InFlight.onTopology
    rw [if_pos state]
    dsimp only [inPhase_phase]
    rcases InFlight.next_cases backend with given | ⟨why, given⟩ | ⟨reply, rest, given⟩
    · rw [given]
      exact ⟨⟨rfl, .mk _ (.bootstrapping state clear asked)⟩, rfl, rfl⟩
    · rw [given]
      exact ⟨agrees_breakOff asked _ why, rfl, rfl⟩
    · rw [given]
      exact agrees_receiveDump clear asked _ store rest reply
  | classified state => exact refused (by simp [state]) rfl
  | dispatching state => exact refused (by simp [state]) rfl
  | awaitingReply state => exact refused (by simp [state]) rfl
  | done state => exact refused (by simp [state]) rfl
  | failed state => exact refused (by simp [state]) rfl

/-! ## Every step -/

/-- Takes the step that is due. The first one looks at no backend. -/
def take (docket : Docket) (due : Due) (store : Store) (backend : Decoder) : Result :=
  match due with
  | .start => ⟨docket.start store, store, backend⟩
  | .reply => docket.onReply store backend
  | .dump => docket.onTopology store backend

/-- A step with a docket is the step for the request that the docket shows. -/
theorem Shows.agrees_take {flight : InFlight} (shows : docket.Shows flight) (due : Due)
    (store : Store) (backend : Decoder) :
    (docket.take due store backend).Agrees (flight.take due store backend) := by
  obtain ⟨phase, stands⟩ := shows
  cases due with
  | start => exact ⟨agrees_start stands store, rfl, rfl⟩
  | reply => exact agrees_onReply stands store backend
  | dump => exact agrees_onTopology stands store backend

end Docket

namespace Router

variable {router : Router} {cluster : String}

/-- The docket that is opened for a request shows it. -/
theorem shows_record (router : Router) (cluster : String) (decoded : Decoded) :
    (router.record cluster decoded).Shows (router.receive cluster decoded) := by
  unfold record receive
  cases Request.ofDecoded decoded with
  | ok request => exact .mk .classified (.classified rfl ⟨rfl, rfl⟩)
  | error fault => exact .mk (.failed fault) (.failed rfl rfl)

/-- A docket that is opened shows the request that is accepted. -/
theorem shows_of_enter {client : Decoder} {docket : Docket}
    (entered : (router.enter cluster client).1 = .complete docket) :
    ∃ flight, (router.accept cluster client).1 = .complete flight ∧ docket.Shows flight := by
  unfold enter at entered
  unfold accept
  rcases InFlight.next_cases client with given | ⟨why, given⟩ | ⟨decoded, rest, given⟩
  · simp [given] at entered
  · simp [given] at entered
  · rw [given] at entered ⊢
    obtain rfl := Verdict.complete.inj entered
    exact ⟨_, rfl, shows_record router cluster decoded⟩

end Router

end ClusterProxy
