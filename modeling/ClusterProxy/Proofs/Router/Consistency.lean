import ClusterProxy.Proofs.Router.Docket

/-!
# The last action tells the state of a request

Calls for a request can come in any order, also after it ended, with any connection and any store.
`Docket.Becomes` says what can become of its docket by such calls, and `Docket.consistent` what
holds of it then: the state, the fault and the action of the last call never contradict each other,
and no call closes the connection to the client.

The docket shows a request in flight throughout, also along a run (`Run.exists_docket`).
`Action.Leaves` is the phase that an action leaves that request in, and `Action.Marks` what it
leaves in the docket. Both rest on what every call keeps (`InFlight.Coherent`): a request fails on
its way only for faults that are not fatal, and only a request that has failed can be one that was
never classified.
-/

namespace ClusterProxy

/-- The phase that a request is in after a call that gave an action. -/
def Action.Leaves (due : Due) : Action → Phase → Prop
  | dispatch node _ _, phase => ∃ attempt, phase = .dispatching attempt ∧ attempt.node = node
  | bootstrap node _, phase => ∃ others, phase = .bootstrapping node others
  | forward _, phase => phase = .done
  | respond reply, phase => ∃ fault, phase = .failed fault ∧ reply = fault.reply
  | dropBackend reply, phase => ∃ fault, phase = .failed fault ∧ reply = fault.reply
  | needMore, phase => (due = .reply ∧ ∃ attempt, phase = .awaitingReply attempt) ∨
      due = .dump ∧ ∃ node others, phase = .bootstrapping node others
  | close, _ => False

/-! ## Faults on the way -/

/-- A fault that a classified request can meet: it is not fatal, and it is not that no command was
given. -/
structure Fault.OnWay (fault : Fault) : Prop where
  harmless : fault.isFatal = false
  named : fault ≠ .emptyCommand

theorem Request.onWay_of_targetSlot {request : Request} {fault : Fault}
    (refused : request.targetSlot = .error fault) : fault.OnWay := by
  refine ⟨isFatal_of_targetSlot refused, ?_⟩
  unfold targetSlot at refused
  grind

theorem Reading.onWay_of_ofFrame {frame : Frame} {buffer : Bytes} {fault : Fault}
    (refused : ofFrame frame buffer = .error fault) : fault.OnWay := by
  obtain ⟨text, rfl⟩ := exists_text_of_ofFrame refused
  exact ⟨rfl, Fault.noConfusion⟩

namespace InFlight

theorem onWay_of_learned {flight : InFlight} {store : Store} {node : String} {reply : Decoded}
    {fault : Fault} (refused : flight.learned store node reply = .error fault) : fault.OnWay := by
  refine ⟨isFatal_of_learned refused, ?_⟩
  unfold InFlight.learned dumpOf Store.replace at refused
  grind [Except.map]

theorem onWay_of_ackOf {answer : Decoded} {fault : Fault}
    (refused : ackOf answer = .refused fault) : fault.OnWay := by
  obtain ⟨what, rfl⟩ := protocol_of_ackOf refused
  exact ⟨rfl, by simp⟩

/-! ## What every call keeps -/

/-- What every call keeps.

* `harmless`: a request that failed has a fault that is not fatal.
* `unread`: a request that was never classified has failed.
* `named`: a request that was classified does not fail since no command was given.
* `refused`: nor can it do so later, for a refusal of `ASKING` that it remembers. -/
structure Coherent (flight : InFlight) : Prop where
  harmless : ∀ fault, flight.phase = .failed fault → fault.isFatal = false
  unread : flight.request = none → ∃ fault, flight.phase = .failed fault
  named : flight.request.isSome → flight.phase ≠ .failed .emptyCommand
  refused : ∀ attempt fault, flight.phase.attempt? = some attempt → attempt.ack = .refused fault →
    fault.OnWay

/-- A call that leaves the request in the phase that its action tells. -/
structure Calls (due : Due) (step : Step) : Prop where
  coherent : step.flight.Coherent
  leaves : step.action.Leaves due step.flight.phase

variable {flight : InFlight} {due : Due} {request : Request}

theorem calls_fail {fault : Fault} (harmless : fault.isFatal = false)
    (named : flight.request.isSome → fault ≠ .emptyCommand) : Calls due (flight.fail fault) := by
  rw [fail_eq harmless]
  refine ⟨⟨?_, fun _ => ⟨fault, rfl⟩, fun known => ?_, by simp [Phase.attempt?]⟩, fault, rfl, rfl⟩
  · rintro _ ⟨⟩
    exact harmless
  · simpa using named known

theorem calls_fail_onWay {fault : Fault} (onWay : fault.OnWay) : Calls due (flight.fail fault) :=
  calls_fail onWay.harmless fun _ => onWay.named

theorem calls_breakOff (flight : InFlight) (node : Option String) (why : FrameFault) :
    Calls due (flight.breakOff node why) := by
  unfold breakOff
  refine ⟨⟨?_, fun _ => ⟨_, rfl⟩, fun _ => by simp, by simp [Phase.attempt?]⟩, _, rfl, rfl⟩
  rintro _ ⟨⟩
  rfl

/-- A phase in which the request has not failed, and remembers no refusal but one on its way. -/
theorem coherent_of_alive {now : InFlight} (known : now.request = some request)
    (alive : now.phase.fault? = none)
    (refused : ∀ attempt fault, now.phase.attempt? = some attempt → attempt.ack = .refused fault →
      fault.OnWay) : now.Coherent where
  harmless fault failed := by simp [failed, Phase.fault?] at alive
  unread missing := by simp [known] at missing
  named _ failed := by simp [failed, Phase.fault?] at alive
  refused := refused

theorem calls_dispatch (known : flight.request = some request) (node : Option String)
    (delay : Option Nat) (asking : Bool) : Calls due (flight.dispatch node delay asking) := by
  rw [dispatch_eq known]
  refine ⟨coherent_of_alive known rfl ?_, _, rfl, rfl⟩
  rintro _ fault ⟨⟩ ack
  cases asking <;> simp at ack

theorem calls_bootstrapFrom (known : flight.request = some request) (node : String)
    (others : List String) : Calls due (flight.bootstrapFrom node others) :=
  ⟨coherent_of_alive known rfl (by simp [bootstrapFrom, Phase.attempt?]),
    others, rfl⟩

theorem calls_await {attempt : Attempt} (known : flight.request = some request)
    (refused : ∀ fault, attempt.ack = .refused fault → fault.OnWay) :
    Calls .reply (flight.await attempt) := by
  refine ⟨coherent_of_alive known rfl ?_, .inl ⟨rfl, attempt, rfl⟩⟩
  rintro _ fault ⟨⟩ ack
  exact refused fault ack

theorem calls_forward (known : flight.request = some request) (reply : Bytes) :
    Calls due ⟨.forward reply, { flight with phase := .done }⟩ :=
  ⟨coherent_of_alive known rfl (by simp [Phase.attempt?]), rfl⟩

theorem calls_route (known : flight.request = some request) (store : Store) :
    Calls due (flight.route store) := by
  have routes := routes flight store
  generalize flight.route store = step at routes
  cases routes with
  | unread missing => simp [known] at missing
  | refused target =>
    obtain ⟨request, _, refused⟩ := Option.map_eq_some_iff.1 target
    exact calls_fail_onWay (Request.onWay_of_targetSlot refused)
  | keyless => exact calls_dispatch known none none false
  | owned => exact calls_dispatch known _ none false
  | asks => exact calls_bootstrapFrom known _ _
  | lost => exact calls_fail_onWay ⟨rfl, by simp⟩
  | uncovered => exact calls_fail_onWay ⟨rfl, by simp⟩

/-- A request that has not failed was classified. -/
theorem Coherent.exists_request (coherent : flight.Coherent) (alive : flight.phase.fault? = none) :
    ∃ request, flight.request = some request := by
  cases known : flight.request with
  | some request => exact ⟨request, rfl⟩
  | none =>
    obtain ⟨fault, failed⟩ := coherent.unread known
    simp [failed, Phase.fault?] at alive

theorem calls_start (coherent : flight.Coherent) (store : Store) :
    Calls .start (flight.start store) := by
  unfold start
  split
  · next fault failed =>
    refine calls_fail (coherent.harmless fault failed) ?_
    rintro known rfl
    exact coherent.named known failed
  · next phase =>
    obtain ⟨request, known⟩ := coherent.exists_request (by rw [phase]; rfl)
    exact calls_route known store
  · exact calls_fail_onWay ⟨rfl, by simp⟩

theorem calls_redirect (known : flight.request = some request) (node : Option String)
    (delay : Option Nat) (asking : Bool) : Calls due (flight.redirect node delay asking) := by
  rcases redirect_cases flight node delay asking with ⟨_, ends⟩ | ⟨_, ends⟩
  · exact ends ▸ calls_fail_onWay ⟨rfl, by simp⟩
  · have counted : { flight with redirects := flight.redirects + 1 }.request = some request := known
    exact ends ▸ calls_dispatch counted node delay asking

theorem Heard.calls {attempt : Attempt} {store : Store} {backend : Decoder} {outcome : Outcome}
    (heard : Heard flight attempt store backend outcome) (known : flight.request = some request)
    (refused : ∀ fault, attempt.ack = .refused fault → fault.OnWay) :
    Calls .reply outcome.toStep := by
  cases heard with
  | waits => exact calls_await known refused
  | breaks => exact calls_breakOff flight _ _
  | refused _ ack => exact calls_fail_onWay (refused _ ack)
  | malformed _ _ unread => exact calls_fail_onWay (Reading.onWay_of_ofFrame unread)
  | @settled reply rest reading =>
    rcases settle_cases flight attempt reply reading with
      ⟨_, ends⟩ | ⟨_, node, delay, asking, ends, _⟩
    · exact ends ▸ calls_forward known reply.bytes
    · exact ends ▸ calls_redirect known node delay asking

theorem calls_onReply (coherent : flight.Coherent) (store : Store) (backend : Decoder) :
    Calls .reply (flight.onReply store backend).toStep := by
  cases attempted : flight.phase.attempt? with
  | none =>
    have ends : flight.onReply store backend = ⟨flight.misuse "on_reply", store, backend⟩ := by
      simp [onReply, attempted]
    exact ends ▸ calls_fail_onWay ⟨rfl, by simp⟩
  | some attempt =>
    obtain ⟨request, known⟩ := coherent.exists_request (by
      cases phase : flight.phase <;> simp_all [Phase.attempt?, Phase.fault?])
    obtain ⟨answered, rest, answer, heard⟩ := (replied attempted store backend).heard
    refine heard.calls known fun fault ack => ?_
    rcases answer with rfl | ⟨answer, rfl⟩
    · exact coherent.refused _ fault attempted ack
    · exact onWay_of_ackOf ack

theorem calls_onTopology (coherent : flight.Coherent) (store : Store) (backend : Decoder) :
    Calls .dump (flight.onTopology store backend).toStep := by
  cases phase : flight.phase with
  | bootstrapping node others =>
    obtain ⟨request, known⟩ := coherent.exists_request (by rw [phase]; rfl)
    have informed := informed phase store backend
    generalize flight.onTopology store backend = outcome at informed
    cases informed with
    | waits => exact ⟨coherent, .inr ⟨rfl, node, others, phase⟩⟩
    | breaks => exact calls_breakOff flight _ _
    | failsOver => exact calls_bootstrapFrom known _ _
    | givesUp _ unusable => exact calls_fail_onWay (onWay_of_learned unusable)
    | @learns _ _ written =>
      have counted : { flight with bootstraps := flight.bootstraps + 1 }.request = some request :=
        known
      exact calls_route counted written
  | _ =>
    simp only [onTopology, phase]
    exact calls_fail_onWay ⟨rfl, by simp⟩

/-- Every call leaves the request in the phase that its action tells, whatever its phase was. -/
theorem calls_take (coherent : flight.Coherent) (due : Due) (store : Store) (backend : Decoder) :
    Calls due (flight.take due store backend).toStep := by
  cases due with
  | start => exact calls_start coherent store
  | reply => exact calls_onReply coherent store backend
  | dump => exact calls_onTopology coherent store backend

end InFlight

theorem Router.coherent_accept {router : Router} {cluster : String} {client : Decoder}
    {flight : InFlight} (taken : (router.accept cluster client).1 = .complete flight) :
    flight.Coherent := by
  rcases router.accept_cases taken with ⟨request, rfl⟩ | ⟨fault, harmless, rfl⟩
  · exact @InFlight.coherent_of_alive request _ rfl rfl (by simp [Phase.attempt?])
  · refine ⟨?_, fun _ => ⟨fault, rfl⟩, by simp, by simp [Phase.attempt?]⟩
    rintro _ ⟨⟩
    exact harmless

/-! ## Calls in any order -/

/-- What can become of a request by calls in any order, each with any store and any connection. -/
inductive InFlight.Becomes (flight : InFlight) : InFlight → Prop where
  | accepted : Becomes flight flight
  | called {now : InFlight} (becomes : Becomes flight now) (due : Due) (store : Store)
      (backend : Decoder) : Becomes flight (now.take due store backend).flight

namespace InFlight.Becomes

variable {flight now : InFlight} (becomes : flight.Becomes now)
include becomes

theorem coherent (accepted : flight.Coherent) : now.Coherent := by
  induction becomes with
  | accepted => exact accepted
  | called _ due store backend ih => exact (calls_take ih due store backend).coherent

theorem kept : flight.Kept now := by
  induction becomes with
  | accepted => exact .refl flight
  | @called now _ due store backend ih =>
    exact ih.trans (Turn.follows ⟨now, due, store, backend⟩).kept

end InFlight.Becomes

/-- A run is made of such calls. -/
theorem Run.becomes {flight : InFlight} {turn : Turn} {before : List Turn}
    (run : Run flight turn before) : flight.Becomes turn.outcome.flight := by
  induction run with
  | start writes backend => exact InFlight.Becomes.accepted.called .start _ backend
  | @step last _ due _ _ writes backend ih => exact ih.called due _ backend

namespace Docket

/-- What can become of a docket by calls in any order, each with any store and any connection. -/
inductive Becomes (docket : Docket) : Docket → Prop where
  | opened : Becomes docket docket
  | called {now : Docket} (becomes : Becomes docket now) (due : Due) (store : Store)
      (backend : Decoder) : Becomes docket (now.take due store backend).docket

/-- The same calls for a request that the docket shows. -/
theorem Becomes.shows {docket now : Docket} {flight : InFlight} (becomes : docket.Becomes now)
    (shows : docket.Shows flight) : ∃ later, flight.Becomes later ∧ now.Shows later := by
  induction becomes with
  | opened => exact ⟨flight, .accepted, shows⟩
  | called _ due store backend ih =>
    obtain ⟨later, becomes, shows⟩ := ih
    exact ⟨_, becomes.called due store backend, (shows.agrees_take due store backend).move.shows⟩

end Docket

/-- The steps of a run are those that are taken with the docket, which shows the request
throughout. -/
theorem Run.exists_docket {docket : Docket} {flight : InFlight} {turn : Turn} {before : List Turn}
    (run : Run flight turn before) (shows : docket.Shows flight) :
    ∃ now, docket.Becomes now ∧ now.Shows turn.flight ∧
      (now.take turn.due turn.store turn.backend).Agrees turn.outcome := by
  induction run with
  | start writes backend => exact ⟨docket, .opened, shows, shows.agrees_take _ _ _⟩
  | @step last _ due _ _ writes backend ih =>
    obtain ⟨now, becomes, _, agrees⟩ := ih
    have shown := agrees.move.shows
    exact ⟨_, becomes.called last.due last.store last.backend, shown, shown.agrees_take due _ _⟩

/-! ## The state and the action -/

/-- What a call that gave an action leaves in the docket. -/
def Action.Marks (due : Due) : Action → Docket → Prop
  | dispatch node _ _, docket => docket.state = .dispatching ∧ docket.node = node
  | bootstrap node _, docket => docket.state = .bootstrapping ∧ docket.node = some node
  | forward _, docket => docket.state = .done
  | respond reply, docket =>
    docket.state = .failed ∧ ∃ fault, docket.fault = some fault ∧ reply = fault.reply
  | dropBackend reply, docket =>
    docket.state = .failed ∧ ∃ fault, docket.fault = some fault ∧ reply = fault.reply
  | needMore, docket => (due = .reply ∧ docket.state = .awaitingReply) ∨
      due = .dump ∧ docket.state = .bootstrapping
  | close, _ => False

/-- What holds of the docket that was opened for a request, `now` after some calls for it.

* `failed`: the state is the one of a failure exactly if a fault is written down.
* `harmless`: the fault is never that bytes are no frame.
* `kept`: it is still the same request.
* `unread`: only a request that failed can be one that was never classified, and it repeats its
  fault or is told of the misuse. So it is never sent or routed.
* `named`: one that was classified never fails since no command was given.
* `marks`: the next call leaves in the docket what the action of the call tells, and does not close
  the connection to the client.
* `stays`: once the request has failed, it stays so.
* `shows`: it shows a request in flight, and the next call does with it what the call does with that
  request. -/
structure Docket.Consistent (opened now : Docket) : Prop where
  failed : now.state = .failed ↔ now.fault.isSome
  harmless : ∀ fault, now.fault = some fault → ∀ reason, fault ≠ .invalidFrame reason
  kept : now.request = opened.request
  unread : now.request = none → now.state = .failed ∧
    ∀ due store backend, (now.take due store backend).toMove = now.respondFault ∨
      ∃ call, (now.take due store backend).toMove = now.misuse call
  named : now.request.isSome → now.fault ≠ some .emptyCommand
  marks : ∀ due store backend, (now.take due store backend).action.Marks due
    (now.take due store backend).docket
  stays : now.state = .failed → ∀ due store backend,
    (now.take due store backend).docket.state = .failed
  shows : ∃ flight, now.Shows flight ∧ ∀ due store backend,
    (now.take due store backend).Agrees (flight.take due store backend)

namespace Docket

variable {docket : Docket} {phase : Phase} {due : Due}

/-- A fault is written down exactly in a docket that stands for a failure. -/
theorem Stands.fault?_eq (stands : docket.Stands phase) : docket.fault = phase.fault? := by
  cases stands with
  | classified _ clear => exact clear.sound
  | bootstrapping _ clear _ => exact clear.sound
  | dispatching _ sound _ => exact sound
  | awaitingReply _ sound _ => exact sound
  | done _ sound => exact sound
  | failed _ told => exact told

theorem Stands.failed_iff (stands : docket.Stands phase) :
    docket.state = .failed ↔ docket.fault.isSome := by
  rw [stands.fault?_eq]
  cases stands with
  | classified state => simp [state, Phase.fault?]
  | bootstrapping state => simp [state, Phase.fault?]
  | dispatching state => simp [state, Phase.fault?]
  | awaitingReply state => simp [state, Phase.fault?]
  | done state => simp [state, Phase.fault?]
  | failed state => simp [state, Phase.fault?]

theorem Stands.eq_failed {fault : Fault} (stands : docket.Stands phase)
    (told : docket.fault = some fault) : phase = .failed fault := by
  have same := stands.fault?_eq.symm.trans told
  cases phase with
  | failed other => exact congrArg Phase.failed (Option.some.inj same)
  | _ => simp [Phase.fault?] at same

/-- The docket of a request that an action left in a phase. -/
theorem Stands.marks {action : Action} (stands : docket.Stands phase)
    (leaves : action.Leaves due phase) : action.Marks due docket := by
  cases action with
  | dispatch node payload delay =>
    obtain ⟨attempt, rfl, rfl⟩ := leaves
    cases stands with
    | dispatching state _ tries => exact ⟨state, tries.node⟩
  | bootstrap node payload =>
    obtain ⟨others, rfl⟩ := leaves
    cases stands with
    | bootstrapping state _ asked => exact ⟨state, asked⟩
  | forward reply =>
    obtain rfl := leaves
    cases stands with
    | done state => exact state
  | respond reply =>
    obtain ⟨fault, rfl, same⟩ := leaves
    cases stands with
    | failed state told => exact ⟨state, fault, told, same⟩
  | dropBackend reply =>
    obtain ⟨fault, rfl, same⟩ := leaves
    cases stands with
    | failed state told => exact ⟨state, fault, told, same⟩
  | needMore =>
    rcases leaves with ⟨replies, attempt, rfl⟩ | ⟨dumps, node, others, rfl⟩
    · cases stands with
      | awaitingReply state => exact .inl ⟨replies, state⟩
    · cases stands with
      | bootstrapping state => exact .inr ⟨dumps, state⟩
  | close => exact leaves

/-- A request that failed repeats its fault when it starts, and every other call for it is a
misuse. -/
theorem take_of_failed (failed : docket.state = .failed) (due : Due) (store : Store)
    (backend : Decoder) :
    (docket.take due store backend).toMove = docket.respondFault ∨
      ∃ call, (docket.take due store backend).toMove = docket.misuse call := by
  cases due with
  | start => exact .inl (by simp [take, start, failed])
  | reply => exact .inr ⟨"on_reply", by simp [take, onReply, failed]⟩
  | dump => exact .inr ⟨"on_topology", by simp [take, onTopology, failed]⟩

theorem state_respondFault (docket : Docket) : docket.respondFault.docket.state = .failed := by
  unfold respondFault
  cases docket.fault <;> rfl

/-- The docket of a request that a router took off a connection is consistent after any calls. -/
theorem consistent {router : Router} {cluster : String} {client : Decoder} {opened now : Docket}
    (entered : (router.enter cluster client).1 = .complete opened)
    (becomes : opened.Becomes now) : opened.Consistent now := by
  obtain ⟨flight, accepted, shows⟩ := router.shows_of_enter entered
  obtain ⟨later, calls, shown⟩ := becomes.shows shows
  have coherent := calls.coherent (Router.coherent_accept accepted)
  have kept : now.request = opened.request := by
    rw [shown.request_eq, calls.kept.request, shows.request_eq]
  have stands := shown.stands
  refine ⟨stands.failed_iff, ?_, kept, ?_, ?_, fun due store backend => ?_, ?_,
    later, shown, shown.agrees_take⟩
  · rintro _ told reason rfl
    have harmless := coherent.harmless _ (stands.eq_failed told)
    simp [Fault.isFatal] at harmless
  · intro missing
    obtain ⟨fault, ends⟩ := coherent.unread (shown.request_eq ▸ missing)
    have failed : now.state = .failed :=
      stands.failed_iff.2 (by rw [stands.fault?_eq, ends]; rfl)
    exact ⟨failed, take_of_failed failed⟩
  · intro known told
    exact coherent.named (shown.request_eq ▸ known) (stands.eq_failed told)
  · have agrees := (shown.agrees_take due store backend).move
    rw [agrees.action]
    exact agrees.shows.stands.marks (InFlight.calls_take coherent due store backend).leaves
  · intro failed due store backend
    rcases take_of_failed failed due store backend with ends | ⟨call, ends⟩
    · rw [ends]
      exact state_respondFault now
    · rw [ends]
      exact state_respondFault _

namespace Sample

open Run.Sample (router client decoded)

/-- The docket of the request. -/
def opened : Docket := router.record "c" decoded

/-- The seed is asked for a dump. -/
def asked : Docket := (opened.take .start .empty (Run.Sample.node "")).docket

/-- Its dump is accepted, and the request is sent to a node. -/
def routed : Docket :=
  (asked.take .dump .empty
    (Run.Sample.node "$48\r\nid0 a:1@2 master - 0 0 1 connected 0-9\nbad line\n\r\n")).docket

/-- The node sends the request on. -/
def sentOn : Docket := (routed.take .reply .empty (Run.Sample.node "-ASK 9 b:1\r\n")).docket

/-- While the answer to `ASKING` is due, a dump is looked for, and the request fails. -/
def misused : Docket := (sentOn.take .dump .empty (Run.Sample.node "+OK\r\n")).docket

theorem entered : (router.enter "c" client).1 = .complete opened := by decide +kernel

theorem becomes : opened.Becomes misused :=
  (((Becomes.opened.called .start _ _).called .dump _ _).called .reply _ _).called .dump _ _

theorem misused_fault : misused.state = .failed ∧
    misused.fault = some (.protocol "on_topology called in state Dispatching") ∧
    misused.askingAck = true := by decide +kernel

end Sample

/-- A request that fails by a call out of turn. What is written down of `ASKING` stays. -/
theorem consistent_misused :
    (Run.Sample.router.enter "c" Run.Sample.client).1 = .complete Sample.opened ∧
      Sample.opened.Becomes Sample.misused ∧ Sample.misused.state = .failed ∧
      Sample.misused.fault = some (.protocol "on_topology called in state Dispatching") ∧
      Sample.misused.askingAck = true ∧ Sample.opened.Consistent Sample.misused :=
  have ⟨failed, told, due⟩ := Sample.misused_fault
  ⟨Sample.entered, Sample.becomes, failed, told, due, consistent Sample.entered Sample.becomes⟩

end Docket

end ClusterProxy
