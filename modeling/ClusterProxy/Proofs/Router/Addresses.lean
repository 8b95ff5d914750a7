import ClusterProxy.Proofs.Router.Progress
import ClusterProxy.Proofs.Topology.Dump

/-!
# Where addresses come from

The addresses that requests are sent to, and those that are asked for dumps, come from three places:
the seeds, the dumps that nodes give, and the redirects that they answer with. They are kept in the
store and in the phases of requests in between. So what holds of all addresses from these places
(`fit`) holds of every address that is used: the store and the requests keep to it, whatever step is
taken (`Turn.fits`).
-/

namespace ClusterProxy

/-! ## What a step uses and what it is told -/

/-- The address that an action names. -/
def Action.address? : Action → Option String
  | dispatch node _ _ => node
  | bootstrap node _ => some node
  | _ => none

/-- The address that a redirect names. -/
def Reading.address? : Reading → Option String
  | moved _ address => some address
  | ask _ address => some address
  | _ => none

namespace Turn

/-- The dump that the step is told, if it is told one. -/
def dump? (turn : Turn) : Option String :=
  match turn.due, turn.flight.phase, turn.backend.next.1 with
  | .dump, .bootstrapping _ _, .complete reply => (InFlight.dumpOf reply).toOption
  | _, _, _ => none

/-- What the reply means that the step is given. It is the second frame if the answer to `ASKING` is
still to come. -/
def reading? (turn : Turn) : Option Reading :=
  match turn.due, turn.flight.phase.attempt? with
  | .reply, some attempt =>
    let rest := if attempt.ack = .pending then turn.backend.next.2 else turn.backend
    match rest.next.1 with
    | .complete reply => (Reading.ofFrame reply.frame reply.bytes).toOption
    | _ => none
  | _, _ => none

/-- The address that the step is redirected to. -/
def redirect? (turn : Turn) : Option String := turn.reading?.bind Reading.address?

end Turn

/-! ## Tables and stores -/

/-- All addresses of a table are fit. -/
structure Table.Fits (fit : String → Prop) (table : Table) : Prop where
  sound : table.Sound
  nodes : ∀ node ∈ table.nodes, fit node

/-- All addresses of a store are fit. -/
def Store.Fits (fit : String → Prop) (store : Store) : Prop :=
  ∀ cluster, (store.table cluster).Fits fit

section Store

variable {fit : String → Prop} {table : Table} {store written : Store}

theorem Table.fits_empty (fit : String → Prop) : Table.empty.Fits fit :=
  ⟨sound_empty, fun _ member => nomatch member⟩

theorem Table.Fits.patch (fits : table.Fits fit) (slot : Nat) {address : String}
    (fresh : fit address) : (table.patch slot address).Fits fit := by
  refine ⟨fits.sound.patch slot address, ?_⟩
  unfold Table.patch
  split
  · intro node member
    rcases mem_nodes_learn.1 member with listed | rfl
    · exact fits.nodes node listed
    · exact fresh
  · exact fits.nodes

/-- The addresses of a table that a dump describes are those of the masters in it. -/
theorem Dump.exists_master_of_mem {dump : String} {origin : Option String}
    (described : table? dump origin = some table) :
    ∀ node ∈ table.nodes, ∃ master ∈ masters dump, node = addressOf origin master := by
  intro node member
  rw [nodes_of_table? described, List.mem_eraseDups, List.mem_map] at member
  obtain ⟨master, served, rfl⟩ := member
  exact ⟨master, served, rfl⟩

theorem Store.fits_empty (fit : String → Prop) : empty.Fits fit := fun _ => Table.fits_empty fit

theorem Store.Fits.put (fits : store.Fits fit) (cluster : String) (fresh : table.Fits fit) :
    (store.put cluster table).Fits fit := by
  intro name
  rw [table_put]
  split
  · exact fresh
  · exact fits name

theorem Store.Fits.owner (fits : store.Fits fit) {cluster : String} {slot : Nat} {address : String}
    (owned : store.owner cluster slot = some address) : fit address :=
  (fits cluster).nodes address ((fits cluster).sound.known slot address owned)

theorem Store.Fits.heed (fits : store.Fits fit) (cluster : String) {reading : Reading}
    (fresh : ∀ address, reading.address? = some address → fit address) :
    (store.heed cluster reading).Fits fit := by
  cases reading with
  | moved slot address => exact fits.put cluster ((fits cluster).patch slot (fresh address rfl))
  | _ => exact fits

theorem Store.Fits.replace (fits : store.Fits fit) {cluster dump : String} {origin : Option String}
    {summary : Dump.Summary}
    (fresh : ∀ master ∈ Dump.masters dump, fit (Dump.addressOf origin master))
    (replaced : store.replace cluster dump origin = .ok (summary, written)) : written.Fits fit := by
  obtain ⟨table, described, _, rfl⟩ := replace_eq_ok_iff.1 replaced
  refine fits.put cluster ⟨Dump.sound_table? described, fun node member => ?_⟩
  obtain ⟨master, served, rfl⟩ := Dump.exists_master_of_mem described node member
  exact fresh master served

end Store

/-! ## Requests -/

/-- All addresses that a phase holds are fit. -/
def Phase.Fits (fit : String → Prop) : Phase → Prop
  | bootstrapping node others => fit node ∧ ∀ other ∈ others, fit other
  | dispatching attempt => ∀ node, attempt.node = some node → fit node
  | awaitingReply attempt => ∀ node, attempt.node = some node → fit node
  | _ => True

/-- All addresses that a request holds are fit. -/
structure InFlight.Fits (fit : String → Prop) (flight : InFlight) : Prop where
  seeds : ∀ seed ∈ flight.settings.seeds, fit seed
  phase : flight.phase.Fits fit

/-- All addresses that a step names or leaves behind are fit. -/
structure Step.Fits (fit : String → Prop) (step : Step) : Prop where
  flight : step.flight.Fits fit
  action : ∀ address, step.action.address? = some address → fit address

theorem Phase.Fits.attempt {fit : String → Prop} {phase : Phase} (fits : phase.Fits fit)
    {attempt : Attempt} (due : phase.attempt? = some attempt) :
    ∀ node, attempt.node = some node → fit node := by
  cases phase with
  | dispatching other => exact Option.some.inj due ▸ fits
  | awaitingReply other => exact Option.some.inj due ▸ fits
  | _ => simp [attempt?] at due

namespace InFlight

variable {fit : String → Prop} {flight : InFlight} {store : Store}
  (seeds : ∀ seed ∈ flight.settings.seeds, fit seed)
include seeds

theorem fits_fail (fault : Fault) : (flight.fail fault).Fits fit := by
  refine ⟨⟨seeds, trivial⟩, ?_⟩
  unfold fail Action.ofFault
  split <;> simp [Action.address?]

theorem fits_dispatch {node : Option String} (fresh : ∀ address, node = some address → fit address)
    (delay : Option Nat) (asking : Bool) : (flight.dispatch node delay asking).Fits fit := by
  unfold dispatch
  split
  · exact fits_fail seeds _
  · exact ⟨⟨seeds, fresh⟩, fresh⟩

theorem fits_bootstrapFrom {node : String} {others : List String}
    (fresh : ∀ address ∈ node :: others, fit address) :
    (flight.bootstrapFrom node others).Fits fit := by
  obtain ⟨first, later⟩ := List.forall_mem_cons.1 fresh
  refine ⟨⟨seeds, first, later⟩, ?_⟩
  rintro _ ⟨⟩
  exact first

theorem fits_await {attempt : Attempt} (fresh : ∀ node, attempt.node = some node → fit node) :
    (flight.await attempt).Fits fit :=
  ⟨⟨seeds, fresh⟩, fun _ named => by simp [await, Action.address?] at named⟩

theorem fits_breakOff (node : Option String) (why : FrameFault) :
    (flight.breakOff node why).Fits fit :=
  ⟨⟨seeds, trivial⟩, fun _ named => by simp [breakOff, Action.address?] at named⟩

theorem fits_candidates (fits : store.Fits fit) :
    ∀ address ∈ flight.candidates store, fit address := by
  intro address member
  rw [candidates_eq, List.mem_append, List.mem_eraseDups, List.mem_filter] at member
  rcases member with known | ⟨seed, _⟩
  · exact (fits flight.cluster).nodes address known
  · exact seeds address seed

theorem fits_route (fits : store.Fits fit) : (flight.route store).Fits fit := by
  have routes := routes flight store
  generalize flight.route store = step at routes
  cases routes with
  | keyless => exact fits_dispatch seeds (by simp) none false
  | owned _ owned =>
    refine fits_dispatch seeds ?_ none false
    rintro _ ⟨⟩
    exact fits.owner owned
  | asks _ _ _ listed => exact fits_bootstrapFrom seeds (listed ▸ fits_candidates seeds fits)
  | _ => exact fits_fail seeds _

theorem fits_start (fits : store.Fits fit) : (flight.start store).Fits fit := by
  unfold start
  split
  · exact fits_fail seeds _
  · exact fits_route seeds fits
  · exact fits_fail seeds _

theorem fits_redirect {node : Option String} (fresh : ∀ address, node = some address → fit address)
    (delay : Option Nat) (asking : Bool) : (flight.redirect node delay asking).Fits fit := by
  have counted : ∀ seed ∈ { flight with redirects := flight.redirects + 1 }.settings.seeds,
      fit seed := seeds
  rcases redirect_cases flight node delay asking with ⟨_, ends⟩ | ⟨_, ends⟩
  · exact ends ▸ fits_fail counted _
  · exact ends ▸ fits_dispatch counted fresh _ _

theorem fits_settle {attempt : Attempt} (sent : ∀ node, attempt.node = some node → fit node)
    (reply : Decoded) {reading : Reading}
    (fresh : ∀ address, reading.address? = some address → fit address) :
    (flight.settle attempt reply reading).Fits fit := by
  cases reading with
  | moved slot address => exact fits_redirect seeds fresh _ _
  | ask slot address => exact fits_redirect seeds fresh _ _
  | tryAgain => exact fits_redirect seeds sent _ _
  | _ => exact ⟨⟨seeds, trivial⟩, fun _ named => by simp [settle, Action.address?] at named⟩

/-- Reading a reply keeps to fit addresses, if the redirect is fit that it may be. -/
theorem Heard.fits {attempt : Attempt} {backend : Decoder} {outcome : Outcome}
    (heard : Heard flight attempt store backend outcome) (fits : store.Fits fit)
    (sent : ∀ node, attempt.node = some node → fit node)
    (fresh : ∀ reply reading, backend.next.1 = .complete reply →
      Reading.ofFrame reply.frame reply.bytes = .ok reading →
        ∀ address, reading.address? = some address → fit address) :
    outcome.toStep.Fits fit ∧ outcome.store.Fits fit := by
  cases heard with
  | waits => exact ⟨fits_await seeds sent, fits⟩
  | breaks => exact ⟨fits_breakOff seeds _ _, fits⟩
  | refused => exact ⟨fits_fail seeds _, fits⟩
  | malformed => exact ⟨fits_fail seeds _, fits⟩
  | settled given _ read =>
    have fresh := fresh _ _ (congrArg Prod.fst given) read
    exact ⟨fits_settle seeds sent _ fresh, fits.heed _ fresh⟩

/-- Reading what was asked for keeps to fit addresses, if those are fit that the dump gives. -/
theorem Informed.fits {node : String} {others : List String} {backend : Decoder} {outcome : Outcome}
    (informed : Informed flight node others store backend outcome)
    (phase : flight.phase = .bootstrapping node others) (held : flight.phase.Fits fit)
    (fits : store.Fits fit)
    (fresh : ∀ reply dump, backend.next.1 = .complete reply → dumpOf reply = .ok dump →
      ∀ master ∈ Dump.masters dump, fit (Dump.addressOf (some node) master)) :
    outcome.toStep.Fits fit ∧ outcome.store.Fits fit := by
  cases informed with
  | waits => exact ⟨⟨⟨seeds, held⟩, by simp [Action.address?]⟩, fits⟩
  | breaks => exact ⟨fits_breakOff seeds _ _, fits⟩
  | failsOver _ _ listed =>
    rw [phase] at held
    exact ⟨fits_bootstrapFrom seeds (listed ▸ held.2), fits⟩
  | givesUp => exact ⟨fits_fail seeds _, fits⟩
  | learns given learned =>
    obtain ⟨dump, summary, told, replaced⟩ := replace_of_learned learned
    have written := fits.replace (fresh _ dump (congrArg Prod.fst given) told) replaced
    exact ⟨@fits_route fit { flight with bootstraps := flight.bootstraps + 1 } _ seeds written,
      written⟩

end InFlight

/-- A request as it comes off a client's connection holds no address but the seeds. -/
theorem Router.fits_accept {fit : String → Prop} {router : Router} {cluster : String}
    {client : Decoder} {flight : InFlight} (seeds : ∀ seed ∈ router.settings.seeds, fit seed)
    (taken : (router.accept cluster client).1 = .complete flight) : flight.Fits fit := by
  rcases router.accept_cases taken with ⟨_, rfl⟩ | ⟨_, _, rfl⟩
  · exact ⟨seeds, trivial⟩
  · exact ⟨seeds, trivial⟩

namespace Turn

variable {fit : String → Prop} {turn : Turn}

/-- A step for the reply to a request is redirected by what it reads, directly or behind the answer
to `ASKING`. -/
theorem exists_heard {attempt : Attempt} (due : turn.due = .reply)
    (attempted : turn.flight.phase.attempt? = some attempt) :
    ∃ answered rest, answered.node = attempt.node ∧
      InFlight.Heard turn.flight answered turn.store rest turn.outcome ∧
        ∀ reply reading, rest.next.1 = .complete reply →
          Reading.ofFrame reply.frame reply.bytes = .ok reading → turn.reading? = some reading := by
  obtain ⟨now, _, store, backend⟩ := turn
  dsimp only at due attempted ⊢
  subst due
  have taken : (⟨now, .reply, store, backend⟩ : Turn).outcome = now.onReply store backend := rfl
  have replied := InFlight.replied attempted store backend
  rw [taken]
  generalize now.onReply store backend = outcome at replied
  cases replied with
  | direct settled heard =>
    refine ⟨attempt, backend, rfl, heard, fun reply reading given read => ?_⟩
    simp [reading?, attempted, settled, given, read, Except.toOption]
  | waits pending missing =>
    refine ⟨attempt, backend, rfl, .waits missing, fun reply reading given => ?_⟩
    simp [missing] at given
  | breaks pending wrong =>
    refine ⟨attempt, backend, rfl, .breaks wrong, fun reply reading given => ?_⟩
    simp [wrong] at given
  | acked pending answered heard =>
    refine ⟨{ attempt with ack := InFlight.ackOf _ }, _, rfl, heard,
      fun reply reading given read => ?_⟩
    simp [reading?, attempted, pending, answered, given, read, Except.toOption]

/-- The step keeps to fit addresses, if the dump and the redirect are fit that it is told. -/
theorem fits (flight : turn.flight.Fits fit) (store : turn.store.Fits fit)
    (dumps : ∀ origin dump, fit origin → turn.dump? = some dump → ∀ master ∈ Dump.masters dump,
      fit (Dump.addressOf (some origin) master))
    (redirects : ∀ address, turn.redirect? = some address → fit address) :
    turn.outcome.toStep.Fits fit ∧ turn.outcome.store.Fits fit := by
  obtain ⟨now, due, base, backend⟩ := turn
  obtain ⟨seeds, phase⟩ := flight
  cases due with
  | start => exact ⟨InFlight.fits_start seeds store, store⟩
  | reply =>
    cases attempted : now.phase.attempt? with
    | none =>
      have refused : (⟨now, .reply, base, backend⟩ : Turn).outcome =
          ⟨now.misuse "on_reply", base, backend⟩ := by
        simp [outcome, InFlight.take, InFlight.onReply, attempted]
      rw [refused]
      exact ⟨InFlight.fits_fail seeds _, store⟩
    | some attempt =>
      obtain ⟨answered, rest, same, heard, reads⟩ :=
        @exists_heard ⟨now, .reply, base, backend⟩ attempt rfl attempted
      refine heard.fits seeds store (same ▸ phase.attempt attempted) ?_
      intro reply reading given read address named
      refine redirects address ?_
      rw [redirect?, reads reply reading given read]
      exact named
  | dump =>
    change (now.onTopology base backend).toStep.Fits fit ∧
      (now.onTopology base backend).store.Fits fit
    cases awaited : now.phase with
    | bootstrapping node others =>
      have origin : fit node := (awaited ▸ phase : (Phase.bootstrapping node others).Fits fit).1
      refine (InFlight.informed awaited base backend).fits seeds awaited phase store ?_
      intro reply dump given told
      refine dumps node dump origin ?_
      simp [dump?, awaited, given, told, Except.toOption]
    | _ =>
      simp only [InFlight.onTopology, awaited]
      exact ⟨InFlight.fits_fail seeds _, store⟩

end Turn

end ClusterProxy
