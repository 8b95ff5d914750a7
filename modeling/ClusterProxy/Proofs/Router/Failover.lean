import ClusterProxy.Proofs.Router.Consistency
import ClusterProxy.Proofs.Router.Routing
import ClusterProxy.Proofs.Topology.History

/-!
# A bootstrap goes on to the next node

A request that needs a dump asks the nodes that can be asked (`Router.candidates`) one after the
other, until one of them gives a dump that can be used (`Decoded.Gives`). `Turn.FailsOver` says what
each reply leads to, and `Run.fails_over` that this holds at each step of a bootstrap, with the
nodes that were asked before in front of the one that answers and those that are left behind it.

Bytes that are no frame are the exception: they end the request, and no other node is asked
(`Run.corrupt_reply_ends_bootstrap`).

Where a request stands is read off its phase (`Run.seeking_of_bootstrapping`), which rests on how a
step can come to wait for a dump (`Turn.Seeks`).
-/

namespace ClusterProxy

/-! ## Replies that can be used -/

/-- The reply gives a dump that can be used: it is a bulk that is not null, and some line of its
text describes a node. -/
def Decoded.Gives (reply : Decoded) (dump : String) : Prop :=
  reply.frame.kind = .bulk ∧ (∃ body, reply.payload = some body ∧ dump = Text.ofUtf8Lossy body) ∧
    Dump.nodes dump ≠ []

namespace InFlight

variable {flight : InFlight} {store written : Store} {node : String} {reply : Decoded}

theorem dumpOf_eq_ok_iff {dump : String} :
    dumpOf reply = .ok dump ↔ reply.frame.kind = .bulk ∧
      ∃ body, reply.payload = some body ∧ dump = Text.ofUtf8Lossy body := by
  unfold dumpOf
  cases reply.frame.kind <;> cases reply.payload <;> simp [eq_comm]

/-- A reply is used exactly if it gives a dump. -/
theorem learned_eq_ok_iff :
    flight.learned store node reply = .ok written ↔ ∃ dump, reply.Gives dump ∧
      ∃ summary, store.replace flight.cluster dump (some node) = .ok (summary, written) := by
  constructor
  · intro learned
    obtain ⟨dump, summary, held, replaced⟩ := replace_of_learned learned
    obtain ⟨kind, body⟩ := dumpOf_eq_ok_iff.1 held
    obtain ⟨table, described, _⟩ := Store.replace_eq_ok_iff.1 replaced
    exact ⟨dump, ⟨kind, body, Dump.exists_table?_iff.1 ⟨table, described⟩⟩, summary, replaced⟩
  · rintro ⟨dump, ⟨kind, body, _⟩, summary, replaced⟩
    unfold learned
    rw [dumpOf_eq_ok_iff.2 ⟨kind, body⟩]
    simp [replaced, Except.map]

/-- A reply that gives a dump is used, and the dump replaces the table of the cluster. -/
theorem learned_of_gives {dump : String} (gives : reply.Gives dump) :
    ∃ summary written, store.replace flight.cluster dump (some node) = .ok (summary, written) ∧
      flight.learned store node reply = .ok written := by
  obtain ⟨table, described⟩ := (@Dump.exists_table?_iff dump (some node)).2 gives.2.2
  have replaced : store.replace flight.cluster dump (some node) =
      .ok (_, store.put flight.cluster table) :=
    Store.replace_eq_ok_iff.2 ⟨table, described, rfl, rfl⟩
  exact ⟨_, _, replaced, learned_eq_ok_iff.2 ⟨dump, gives, _, replaced⟩⟩

end InFlight

/-! ## Where a request stands in a bootstrap -/

/-- How a step comes to wait for a dump of a node, with others left behind it.

* `begins`: the request starts, and this is the first node that can be asked.
* `goesOn`: another node gave nothing that can be used, and this one is next.
* `waits`: the reply of this node is still to come.
* `again`: a dump was accepted, and one is asked for once more. -/
inductive Turn.Seeks (turn : Turn) (node : String) (others : List String) : Prop where
  | begins : turn.due = .start → turn.flight.candidates turn.store = node :: others →
      turn.asks? = some node → turn.outcome.flight.bootstraps = turn.flight.bootstraps →
      Turn.Seeks turn node others
  | goesOn {last : String} : turn.flight.phase = .bootstrapping last (node :: others) →
      turn.asks? = some node → turn.outcome.flight.bootstraps = turn.flight.bootstraps →
      turn.due = .dump → Turn.Seeks turn node others
  | waits : turn.flight.phase = .bootstrapping node others → turn.asks? = none →
      turn.outcome.flight.bootstraps = turn.flight.bootstraps → turn.due = .dump →
      Turn.Seeks turn node others
  | again {last : String} {left : List String} : turn.flight.phase = .bootstrapping last left →
      turn.flight.bootstraps + 1 = 0 → turn.due = .dump → Turn.Seeks turn node others

/-- Routing that asks a node for a dump asks the first one. -/
theorem InFlight.Routed.asks_of_bootstrapping {flight : InFlight} {store : Store} {step : Step}
    (routed : Routed flight store step) {node : String} {others : List String}
    (phase : step.flight.phase = .bootstrapping node others) :
    flight.candidates store = node :: others ∧ flight.bootstraps = 0 ∧
      step = flight.bootstrapFrom node others := by
  cases routed with
  | refused => simp [fail] at phase
  | sent node =>
    unfold dispatch at phase
    split at phase
    · simp [fail] at phase
    · simp at phase
  | asked first listed =>
    obtain ⟨rfl, rfl⟩ := Phase.bootstrapping.inj phase
    exact ⟨listed, first, rfl⟩

namespace Turn

variable {turn : Turn} {flight : InFlight} {node : String} {others : List String}

theorem asks?_of_bootstrapFrom (ends : turn.outcome.toStep = flight.bootstrapFrom node others) :
    turn.asks? = some node ∧ turn.outcome.flight.bootstraps = flight.bootstraps := by
  have acts : turn.action = .bootstrap node _ := congrArg Step.action ends
  exact ⟨by simp [asks?, acts], congrArg (fun step => step.flight.bootstraps) ends⟩

theorem seeks (phase : turn.outcome.flight.phase = .bootstrapping node others) :
    turn.Seeks node others := by
  obtain ⟨flight, due, store, backend⟩ := turn
  cases due with
  | start =>
    have taken : (⟨flight, .start, store, backend⟩ : Turn).outcome.toStep = flight.start store :=
      rfl
    change (flight.start store).flight.phase = _ at phase
    unfold InFlight.start at phase taken
    split at phase
    · simp [InFlight.fail] at phase
    · next classified =>
      obtain ⟨listed, _, ends⟩ := (InFlight.routed flight store).asks_of_bootstrapping phase
      rw [classified, ends] at taken
      obtain ⟨asks, same⟩ := asks?_of_bootstrapFrom taken
      exact .begins rfl listed asks same
    · simp [InFlight.misuse, InFlight.fail] at phase
  | reply =>
    -- A reply to the request starts no bootstrap, and none is looked for while a dump is due.
    cases way ⟨flight, .reply, store, backend⟩ with
    | routes _ begins =>
      rcases begins with ⟨starts, _⟩ | learns
      · cases starts
      · cases learns
    | goesOn goesOn =>
      obtain ⟨last, left, awaited⟩ := goesOn.learning (.inr ⟨node, others, phase⟩)
      change flight.phase = _ at awaited
      change (flight.onReply store backend).flight.phase = _ at phase
      simp [InFlight.onReply, awaited, Phase.attempt?, InFlight.misuse, InFlight.fail] at phase
  | dump =>
    have taken : (⟨flight, .dump, store, backend⟩ : Turn).outcome =
      flight.onTopology store backend := rfl
    cases awaited : flight.phase with
    | bootstrapping last left =>
      have informed := InFlight.informed awaited store backend
      generalize flight.onTopology store backend = outcome at taken informed
      have ends := congrArg Outcome.toStep taken
      rw [taken] at phase
      cases informed with
      | waits =>
        obtain ⟨rfl, rfl⟩ := Phase.bootstrapping.inj (awaited.symm.trans phase)
        have acts : action ⟨flight, .dump, store, backend⟩ = .needMore := congrArg Step.action ends
        exact .waits awaited (by simp [asks?, acts]) (by rw [taken]) rfl
      | breaks => simp [InFlight.breakOff] at phase
      | failsOver _ _ listed =>
        obtain ⟨rfl, rfl⟩ := Phase.bootstrapping.inj phase
        obtain ⟨asks, same⟩ := asks?_of_bootstrapFrom ends
        exact .goesOn (awaited.trans (by rw [listed])) asks same rfl
      | givesUp => simp [InFlight.fail] at phase
      | @learns reply rest written =>
        obtain ⟨_, again, _⟩ := (InFlight.routed _ written).asks_of_bootstrapping phase
        exact .again awaited again rfl
    | _ =>
      rw [taken] at phase
      simp [InFlight.onTopology, awaited, InFlight.misuse, InFlight.fail] at phase

end Turn

/-- Where a request stands that waits for a dump of a node: the nodes that were asked before are in
front of it among those that can be asked, and the others are behind it. -/
structure Run.Seeking (flight : InFlight) (turns : List Turn) (first : Turn) (done : List String)
    (node : String) (others : List String) : Prop where
  began : Run.asking? turns = some first
  asked : Run.asked turns = done ++ [node]
  listed : flight.candidates first.store = done ++ node :: others

/-- A request that waits for a dump has asked the nodes in order, and has accepted none. -/
theorem Run.seeking_of_bootstrapping {flight : InFlight} {turn : Turn} {before : List Turn}
    (fresh : flight.Fresh) (run : Run flight turn before) {node : String} {others : List String}
    (phase : turn.outcome.flight.phase = .bootstrapping node others) :
    turn.outcome.flight.bootstraps = 0 ∧
      ∃ first done, Run.Seeking flight (turn :: before) first done node others := by
  induction run generalizing node others with
  | start writes backend =>
    cases Turn.seeks phase with
    | begins _ listed asks same =>
      refine ⟨same.trans fresh.bootstraps, ⟨flight, .start, Store.empty.after writes, backend⟩, [],
        ?_, ?_, listed⟩
      · simp [asking?, asks]
      · simp [asked, asks]
    | goesOn _ _ _ due => cases due
    | waits _ _ _ due => cases due
    | again _ _ due => cases due
  | @step last before due run next writes backend ih =>
    cases Turn.seeks phase with
    | begins starts =>
      obtain rfl : due = .start := starts
      exact absurd next last.next?_ne_start
    | @goesOn prior awaited asks same =>
      obtain ⟨none_yet, first, done, seeking⟩ := ih awaited
      refine ⟨same.trans none_yet, first, done ++ [prior], ?_, ?_, ?_⟩
      · rw [asking?_cons, seeking.began]
        rfl
      · rw [asked_cons, seeking.asked, asks]
        rfl
      · rw [seeking.listed, List.append_assoc]
        rfl
    | waits awaited asks same =>
      obtain ⟨none_yet, first, done, seeking⟩ := ih awaited
      refine ⟨same.trans none_yet, first, done, ?_, ?_, seeking.listed⟩
      · rw [asking?_cons, seeking.began]
        rfl
      · rw [asked_cons, seeking.asked, asks]
        exact List.append_nil _
    | again awaited wraps =>
      obtain ⟨none_yet, _⟩ := ih awaited
      dsimp only at wraps
      rw [none_yet] at wraps
      cases wraps

/-! ## What each reply leads to -/

/-- The nodes of a cluster that can be asked for a dump: those that the store knows, then the seeds
that are not among them, each once. -/
def Router.candidates (router : Router) (cluster : String) (store : Store) : List String :=
  store.nodes cluster ++ (router.settings.seeds.filter fun seed =>
    !(store.nodes cluster).contains seed).eraseDups

/-- What a step for the reply of a node leads to that was asked for a dump, with others left to be
asked. The keys of the request have one slot.

* `waits`: more is waited for if the reply is not there as a whole.
* `asksNext`: if the reply cannot be used, the next node is asked, and nothing is written.
* `givesUp`: if none is left, the request fails, and nothing is written either.
* `accepts`: a dump replaces the table of the cluster, with the host of the node that gave it where
  it names none. Then the request goes to the owner of its slot, or fails for want of one.
* `drops`: bytes that are no frame end the request and the connection.
* `fails`: apart from that, the request fails before a dump is accepted only if no node is left. -/
structure Turn.FailsOver (turn : Turn) (cluster : String) (request : Request) (slot : Nat)
    (node : String) (others : List String) : Prop where
  waits : turn.backend.next.1 = .incomplete →
    turn.action = .needMore ∧ turn.outcome.store = turn.store
  asksNext : ∀ reply rest, turn.backend.next = (.complete reply, rest) →
    (∀ dump, ¬ reply.Gives dump) → ∀ next more, others = next :: more →
      turn.action = .bootstrap next Call.clusterNodes.encode ∧ turn.outcome.store = turn.store
  givesUp : ∀ reply rest, turn.backend.next = (.complete reply, rest) →
    (∀ dump, ¬ reply.Gives dump) → others = [] →
      (∃ fault, turn.action = .respond (Fault.reply fault)) ∧ turn.outcome.store = turn.store
  accepts : ∀ reply rest dump, turn.backend.next = (.complete reply, rest) → reply.Gives dump →
    (∃ summary, turn.store.replace cluster dump (some node) = .ok (summary, turn.outcome.store)) ∧
      (∀ place, turn.outcome.store.owner cluster place = Dump.owner? dump (some node) place) ∧
      (∀ owner, turn.outcome.store.owner cluster slot = some owner →
        turn.action = .dispatch (some owner) request.bytes none) ∧
      (turn.outcome.store.owner cluster slot = none →
        turn.action = .respond (Fault.slotNotCovered slot).reply)
  drops : ∀ why, turn.backend.next.1 = .invalid why →
    (∃ fault, turn.action = .dropBackend (Fault.reply fault)) ∧ turn.outcome.store = turn.store
  fails : ∀ fault, turn.outcome.flight.phase = .failed fault → turn.learns = false →
    (∀ why, turn.backend.next.1 ≠ .invalid why) → others = []

namespace InFlight

variable {flight : InFlight} {request : Request} {slot : Nat} {store : Store}

/-- After a dump was accepted, a request goes to the owner of its slot or fails for want of one. -/
theorem action_route (known : flight.request = some request)
    (target : request.targetSlot = .ok (some slot)) (later : flight.bootstraps ≠ 0) :
    (∀ owner, store.owner flight.cluster slot = some owner →
        (flight.route store).action = .dispatch (some owner) request.bytes none) ∧
      (store.owner flight.cluster slot = none →
        (flight.route store).action = .respond (Fault.slotNotCovered slot).reply) := by
  constructor
  · intro owner owned
    simp [route, known, target, owned, later, dispatch]
  · intro missing
    simp [route, known, target, missing, later, fail, Action.ofFault, Fault.isFatal]

variable {node : String} {others : List String} {backend rest : Decoder} {reply : Decoded}
  (phase : flight.phase = .bootstrapping node others)
include phase

theorem onTopology_of_incomplete (missing : backend.next.1 = .incomplete) :
    flight.onTopology store backend = ⟨⟨.needMore, flight⟩, store, backend⟩ := by
  have given : backend.next = (.incomplete, backend) :=
    Prod.ext missing (Decoder.next_eq_self (by simp [missing]))
  simp [onTopology, phase, given]

theorem onTopology_of_invalid {why : FrameFault} (wrong : backend.next.1 = .invalid why) :
    flight.onTopology store backend = ⟨flight.breakOff (some node) why, store, backend⟩ := by
  have given : backend.next = (.invalid why, backend) :=
    Prod.ext wrong (Decoder.next_eq_self (by simp [wrong]))
  simp [onTopology, phase, given]

/-- A reply that cannot be used leads on to the next node, and nothing is written. -/
theorem onTopology_of_useless (given : backend.next = (.complete reply, rest))
    (useless : ∀ dump, ¬ reply.Gives dump) :
    ∃ fault : Fault, fault.isFatal = false ∧
      flight.onTopology store backend = ⟨flight.failOver others fault, store, rest⟩ := by
  simp only [onTopology, phase, given, receiveDump]
  cases used : flight.learned store node reply with
  | error fault => exact ⟨fault, isFatal_of_learned used, rfl⟩
  | ok written =>
    obtain ⟨dump, gives, _⟩ := learned_eq_ok_iff.1 used
    exact absurd gives (useless dump)

/-- A reply that gives a dump replaces the table of the cluster, and the request is routed. -/
theorem onTopology_of_gives (given : backend.next = (.complete reply, rest)) {dump : String}
    (gives : reply.Gives dump) :
    ∃ summary written, store.replace flight.cluster dump (some node) = .ok (summary, written) ∧
      flight.learned store node reply = .ok written ∧
      flight.onTopology store backend =
        ⟨{ flight with bootstraps := flight.bootstraps + 1 }.route written, written, rest⟩ := by
  obtain ⟨summary, written, replaced, learned⟩ :=
    @learned_of_gives flight store node reply dump gives
  exact ⟨summary, written, replaced, learned, by
    simp [onTopology, phase, given, receiveDump, learned]⟩

end InFlight

/-- After an accepted dump the owner of a slot is the one that the dump gives. -/
theorem Store.owner_of_replace {store written : Store} {cluster dump : String}
    {origin : Option String} {summary : Dump.Summary}
    (replaced : store.replace cluster dump origin = .ok (summary, written)) (slot : Nat) :
    written.owner cluster slot = Dump.owner? dump origin slot := by
  obtain ⟨table, described, _, rfl⟩ := replace_eq_ok_iff.1 replaced
  rw [owner, table_put, if_pos rfl, Dump.owner_of_table? described]

/-- Every step for the reply of a node that was asked for a dump fails over. -/
theorem Turn.failsOver {turn : Turn} {request : Request} {slot : Nat} {node : String}
    {others : List String} (known : turn.flight.request = some request)
    (target : request.targetSlot = .ok (some slot)) (due : turn.due = .dump)
    (phase : turn.flight.phase = .bootstrapping node others)
    (untried : turn.flight.bootstraps = 0) :
    turn.FailsOver turn.flight.cluster request slot node others := by
  obtain ⟨flight, _, store, backend⟩ := turn
  dsimp only at known phase untried due ⊢
  subst due
  have taken : (⟨flight, .dump, store, backend⟩ : Turn).outcome =
    flight.onTopology store backend := rfl
  refine ⟨fun missing => ?_, fun reply rest given useless next more left => ?_,
    fun reply rest given useless left => ?_, fun reply rest dump given gives => ?_,
    fun why wrong => ?_, fun fault failed unlearned framed => ?_⟩
  · rw [action, taken, InFlight.onTopology_of_incomplete phase missing]
    exact ⟨rfl, rfl⟩
  · obtain ⟨fault, _, ends⟩ := @InFlight.onTopology_of_useless _ store _ _ _ _ _ phase given useless
    rw [action, taken, ends, left]
    exact ⟨rfl, rfl⟩
  · obtain ⟨fault, harmless, ends⟩ :=
      @InFlight.onTopology_of_useless _ store _ _ _ _ _ phase given useless
    rw [action, taken, ends, left, InFlight.failOver, InFlight.fail_eq harmless]
    exact ⟨⟨fault, rfl⟩, rfl⟩
  · obtain ⟨summary, written, replaced, _, ends⟩ :=
      @InFlight.onTopology_of_gives _ store _ _ _ _ _ phase given _ gives
    have later : flight.bootstraps + 1 ≠ 0 := by simp [untried]
    rw [action, taken, ends]
    exact ⟨⟨summary, replaced⟩, Store.owner_of_replace replaced,
      @InFlight.action_route { flight with bootstraps := flight.bootstraps + 1 } _ _ written known
        target later⟩
  · rw [action, taken, InFlight.onTopology_of_invalid phase wrong]
    exact ⟨⟨_, rfl⟩, rfl⟩
  · rcases InFlight.next_cases backend with given | ⟨why, given⟩ | ⟨reply, rest, given⟩
    · rw [taken, InFlight.onTopology_of_incomplete phase (by rw [given])] at failed
      cases phase.symm.trans failed
    · exact absurd (by rw [given]) (framed why)
    · by_cases useless : ∀ dump, ¬ reply.Gives dump
      · obtain ⟨fault, _, ends⟩ :=
          @InFlight.onTopology_of_useless _ store _ _ _ _ _ phase given useless
        rw [taken, ends] at failed
        cases others with
        | nil => rfl
        | cons next more => simp [InFlight.failOver, InFlight.bootstrapFrom] at failed
      · obtain ⟨dump, gives⟩ := not_forall_not.1 useless
        obtain ⟨_, _, _, learned, _⟩ :=
          @InFlight.onTopology_of_gives _ store _ _ _ _ _ phase given _ gives
        simp [learns, phase, given, learned, Except.isOk, Except.toBool] at unlearned

/-! ## Runs -/

theorem Router.fresh_accept {router : Router} {cluster : String} {client : Decoder}
    {flight : InFlight} (accepted : (router.accept cluster client).1 = .complete flight) :
    flight.Fresh := by
  obtain ⟨decoded, rest, _, rfl⟩ := router.accept_eq_complete accepted
  unfold receive
  cases read : Request.ofDecoded decoded with
  | ok request => exact ⟨rfl, by simp, by simp⟩
  | error fault =>
    exact ⟨rfl, by simp, fun slot same =>
      Request.not_uncovered_of_ofDecoded read slot (Phase.failed.inj same)⟩

theorem Router.candidates_accept {router : Router} {cluster : String} {client : Decoder}
    {flight : InFlight} (accepted : (router.accept cluster client).1 = .complete flight)
    (store : Store) : flight.candidates store = router.candidates cluster store := by
  obtain ⟨rfl, same, _⟩ := router.tally_accept accepted
  rw [flight.candidates_eq, candidates, same]

theorem Router.classified_accept {router : Router} {cluster : String} {client : Decoder}
    {flight : InFlight} {request : Request}
    (accepted : (router.accept cluster client).1 = .complete flight)
    (known : flight.request = some request) : flight.phase = .classified := by
  rcases router.accept_cases accepted with ⟨_, rfl⟩ | ⟨_, _, rfl⟩
  · rfl
  · simp at known

/-- After a step behind which a dump is due, one is waited for. -/
theorem Turn.bootstrapping_of_next? {turn : Turn} (coherent : turn.flight.Coherent)
    (next : turn.next? = some .dump) :
    ∃ node others, turn.outcome.flight.phase = .bootstrapping node others := by
  have leaves := (InFlight.calls_take coherent turn.due turn.store turn.backend).leaves
  change turn.action.Leaves turn.due turn.outcome.flight.phase at leaves
  unfold next? at next
  cases acts : turn.action with
  | bootstrap node payload =>
    rw [acts] at leaves
    exact ⟨node, leaves⟩
  | needMore =>
    rw [acts] at leaves next
    rcases leaves with ⟨replies, _⟩ | ⟨_, waits⟩
    · cases replies.symm.trans (Option.some.inj next)
    · exact waits
  | _ => simp [acts] at next

theorem Run.coherent {flight : InFlight} {turn : Turn} {before : List Turn}
    (accepted : flight.Coherent) (run : Run flight turn before) : turn.flight.Coherent := by
  cases run with
  | start => exact accepted
  | step run => exact run.becomes.coherent accepted

/-- What holds of every step of a run, with `turn` the latest one.

* `begins`: a request that needs a dump asks the first of the nodes that can be asked, and fails if
  there is none. Nothing is written.
* `goesOn`: where a dump is due, the nodes that were asked are the first ones of those that can be
  asked, each once, and the step goes on with the others. -/
structure Run.FailsOver (router : Router) (cluster : String) (flight : InFlight) (turn : Turn)
    (before : List Turn) : Prop where
  begins : before = [] → ∀ request slot, flight.request = some request →
    request.targetSlot = .ok (some slot) →
    (turn.store.needsBootstrap cluster = true ∨ turn.store.owner cluster slot = none) →
      turn.outcome.store = turn.store ∧
        (router.candidates cluster turn.store = [] →
          turn.action = .respond (Fault.noSeedNode cluster).reply) ∧
        ∀ node others, router.candidates cluster turn.store = node :: others →
          turn.action = .bootstrap node Call.clusterNodes.encode
  goesOn : turn.due = .dump → ∃ request slot first done node others,
    flight.request = some request ∧ request.targetSlot = .ok (some slot) ∧
      Run.asking? before = some first ∧ Run.asked before = done ++ [node] ∧
      router.candidates cluster first.store = done ++ node :: others ∧
      (router.candidates cluster first.store).Nodup ∧
      turn.FailsOver cluster request slot node others

namespace Run

variable {router : Router} {cluster : String} {client : Decoder} {flight : InFlight} {turn : Turn}
  {before : List Turn}

/-- A request that needs a dump starts with a bootstrap. -/
theorem begins (accepted : (router.accept cluster client).1 = .complete flight)
    (run : Run flight turn []) {request : Request} {slot : Nat}
    (known : flight.request = some request) (target : request.targetSlot = .ok (some slot))
    (needed : turn.store.needsBootstrap cluster = true ∨ turn.store.owner cluster slot = none) :
    turn.outcome.toStep = flight.bootstrap turn.store ∧ turn.outcome.store = turn.store := by
  have phase := router.classified_accept accepted known
  have untried := (router.fresh_accept accepted).bootstraps
  obtain ⟨rfl, _⟩ := router.tally_accept accepted
  cases run with
  | start writes backend =>
    refine ⟨?_, rfl⟩
    change flight.start _ = _
    by_cases unlearned : (Store.empty.after writes).needsBootstrap flight.cluster = true
    · simp [InFlight.start, InFlight.route, phase, known, target, untried, unlearned]
    · have missing := needed.resolve_left unlearned
      simp [InFlight.start, InFlight.route, phase, known, target, untried, unlearned, missing]

/-- A bootstrap goes on to the next node, at every step of every run. -/
theorem fails_over (accepted : (router.accept cluster client).1 = .complete flight)
    (run : Run flight turn before) : FailsOver router cluster flight turn before := by
  refine ⟨?_, fun due => ?_⟩
  · rintro rfl request slot known target needed
    obtain ⟨ends, same⟩ := begins accepted run known target needed
    rw [← router.candidates_accept accepted]
    refine ⟨same, fun none_left => ?_, fun node others listed => ?_⟩
    · obtain ⟨rfl, _⟩ := router.tally_accept accepted
      rw [Turn.action, ends, InFlight.bootstrap, none_left]
      exact congrArg Step.action (InFlight.fail_eq rfl)
    · rw [Turn.action, ends, InFlight.bootstrap, listed]
      rfl
  · have fresh := router.fresh_accept accepted
    have kept := run.kept turn List.mem_cons_self
    cases run with
    | start => cases due
    | @step last before _ run next writes backend =>
      obtain rfl : _ = Due.dump := due
      obtain ⟨node, others, phase⟩ :=
        Turn.bootstrapping_of_next? (run.coherent (router.coherent_accept accepted)) next
      obtain ⟨untried, first, done, seeking⟩ := run.seeking_of_bootstrapping fresh phase
      obtain ⟨slot, aims⟩ := run.target_of_learning fresh (.inr ⟨node, others, phase⟩)
      obtain ⟨request, known, target⟩ := Option.map_eq_some_iff.1 aims
      have member : first ∈ last :: before :=
        List.mem_reverse.1 (List.mem_of_find?_eq_some seeking.began)
      have distinct := flight.nodup_candidates (run.sound_of_mem first member)
      rw [router.candidates_accept accepted] at distinct
      have listed := (router.candidates_accept accepted first.store).symm.trans seeking.listed
      obtain ⟨rfl, _⟩ := router.tally_accept accepted
      refine ⟨request, slot, first, done, node, others, known, target, seeking.began,
        seeking.asked, listed, distinct, ?_⟩
      exact kept.cluster ▸ Turn.failsOver (kept.request.trans known) target rfl phase untried

end Run

namespace Run.Sample

/-- A router with two seeds. -/
def paired : Router := ⟨⟨2, 0, ["s:1", "t:1"], 200, .reject⟩⟩

/-- A request that needs a dump. -/
def needy : InFlight := paired.receive "c" decoded

theorem accepted_needy : (paired.accept "c" client).1 = .complete needy := by decide +kernel

/-- The first seed is asked for a dump. -/
def begun : Turn := ⟨needy, .start, Store.empty.after [], node ""⟩

/-- The step for what the first seed sends. -/
def hearing (text : String) : Turn :=
  ⟨begun.outcome.flight, .dump, begun.outcome.store.after [], node text⟩

theorem run_hearing (text : String) : Run needy (hearing text) [begun] := by
  have first : Run needy begun [] := .start [] _
  exact first.step (by decide +kernel) _ _

/-- The first seed is not ready. -/
def loading : Turn := hearing "-LOADING\r\n"

/-- The second seed gives a dump, in which it names no host for itself. -/
def told : Turn :=
  ⟨loading.outcome.flight, .dump, loading.outcome.store.after [],
    node "$38\r\nid0 :7@8 master - 0 0 1 connected 0-9\n\r\n"⟩

theorem run_told : Run needy told [loading, begun] :=
  (run_hearing _).step (by decide +kernel) _ _

end Run.Sample

/-- The first seed is not ready, and the dump of the second one is accepted. -/
theorem Run.fails_over_told :
    (Sample.paired.accept "c" Sample.client).1 = .complete Sample.needy ∧
      Run Sample.needy Sample.told [Sample.loading, Sample.begun] ∧
      Run.asked [Sample.loading, Sample.begun] = ["s:1", "t:1"] ∧
      Sample.told.action.sending?.map Sending.node = some (some "t:7") ∧
      FailsOver Sample.paired "c" Sample.needy Sample.told [Sample.loading, Sample.begun] :=
  ⟨Sample.accepted_needy, Sample.run_told, by decide +kernel, by decide +kernel,
    fails_over Sample.accepted_needy Sample.run_told⟩

/-- Bytes of the first seed that are no frame end the request, and the second one is not asked. -/
theorem Run.corrupt_reply_ends_bootstrap :
    (Sample.paired.accept "c" Sample.client).1 = .complete Sample.needy ∧
      Run Sample.needy (Sample.hearing "?\r\n") [Sample.begun] ∧
      Sample.paired.candidates "c" Sample.begun.store = ["s:1", "t:1"] ∧
      Run.asked [Sample.begun] = ["s:1"] ∧
      (Sample.hearing "?\r\n").backend.next.1 = .invalid (.unknownMark 63 0) ∧
      (Sample.hearing "?\r\n").asks? = none ∧
      (Sample.hearing "?\r\n").outcome.flight.phase.name = "Failed" :=
  ⟨Sample.accepted_needy, Sample.run_hearing _, by decide +kernel, by decide +kernel,
    by decide +kernel, by decide +kernel, by decide +kernel⟩

end ClusterProxy
