import ClusterProxy.Proofs.Router.Failover

/-!
# The counters of a request

A request counts the redirects that it met and the dumps that were accepted for it, each in 32 bits.
Here the true numbers are counted along the run, by what the nodes answered, and the counters are
compared with them. For every step there is one case of what it does to the counters
(`Turn.counts`); from it follows, by induction over the run, what they hold.

A redirect is counted before the count is compared with the ceiling of the settings. So the counter
holds the true number as long as the ceiling is below the largest number of 32 bits
(`Run.counters_exact`). With the largest one as the ceiling no count is above it, and the counter
starts again from 0 (`Run.redirects_wrap`).
-/

namespace ClusterProxy

/-! ## The true numbers -/

/-- Whether the reply to the request asks for another try. It is thrown away if `ASKING` was
refused. -/
def Attempt.isRedirected (attempt : Attempt) (backend : Decoder) : Bool :=
  match attempt.ack, backend.next.1 with
  | .refused _, _ => false
  | _, .complete reply => (Reading.ofFrame reply.frame reply.bytes).toOption.any Reading.isRetry
  | _, _ => false

theorem Attempt.isRedirected_of_not_complete (attempt : Attempt) {backend : Decoder}
    (missing : ∀ reply, backend.next.1 ≠ .complete reply) :
    attempt.isRedirected backend = false := by
  unfold isRedirected
  split
  · rfl
  · next given _ => exact absurd given (missing _)
  · rfl

/-- Whether the step is redirected, behind the answer to `ASKING` if that is still to come. -/
def Turn.redirected (turn : Turn) : Bool :=
  match turn.due, turn.flight.phase.attempt? with
  | .reply, some attempt =>
    if attempt.ack = .pending then
      match turn.backend.next with
      | (.complete answer, rest) =>
        { attempt with ack := InFlight.ackOf answer }.isRedirected rest
      | _ => false
    else attempt.isRedirected turn.backend
  | _, _ => false

/-- How many times the request was redirected. -/
def Run.redirected (turns : List Turn) : Nat := turns.countP Turn.redirected

theorem Run.redirected_cons (turn : Turn) (before : List Turn) :
    redirected (turn :: before) = redirected before + if turn.redirected then 1 else 0 :=
  List.countP_cons

/-! ## What a step does to the counters -/

namespace InFlight

/-- Both counters are the same. -/
structure SameCounts (flight now : InFlight) : Prop where
  redirects : now.redirects = flight.redirects
  bootstraps : now.bootstraps = flight.bootstraps

/-- The request after a redirect was counted. -/
def counted (flight : InFlight) : InFlight := { flight with redirects := flight.redirects + 1 }

variable {flight : InFlight}

theorem sameCounts_dispatch (flight : InFlight) (node : Option String) (delay : Option Nat)
    (asking : Bool) : flight.SameCounts (flight.dispatch node delay asking).flight := by
  unfold dispatch
  split
  · exact ⟨rfl, rfl⟩
  · exact ⟨rfl, rfl⟩

theorem sameCounts_route (flight : InFlight) (store : Store) :
    flight.SameCounts (flight.route store).flight := by
  have routed := routed flight store
  generalize flight.route store = step at routed
  cases routed with
  | refused => exact ⟨rfl, rfl⟩
  | sent node => exact sameCounts_dispatch flight node none false
  | asked => exact ⟨rfl, rfl⟩

theorem sameCounts_start (flight : InFlight) (store : Store) :
    flight.SameCounts (flight.start store).flight := by
  unfold start
  split
  · exact ⟨rfl, rfl⟩
  · exact sameCounts_route flight store
  · exact ⟨rfl, rfl⟩

theorem sameCounts_redirect (flight : InFlight) (node : Option String) (delay : Option Nat)
    (asking : Bool) : flight.counted.SameCounts (flight.redirect node delay asking).flight := by
  rcases redirect_cases flight node delay asking with ⟨_, ends⟩ | ⟨_, ends⟩
  · rw [ends]
    exact ⟨rfl, rfl⟩
  · rw [ends]
    exact sameCounts_dispatch flight.counted node delay asking

/-- A reply that is read is followed if it redirects the request, and else leaves the counters. -/
theorem Heard.counts {attempt : Attempt} {store : Store} {backend : Decoder} {outcome : Outcome}
    (heard : Heard flight attempt store backend outcome) :
    (attempt.isRedirected backend = false ∧ flight.SameCounts outcome.flight) ∨
      (attempt.isRedirected backend = true ∧ ∃ node delay asking,
        outcome.toStep = flight.redirect node delay asking) := by
  cases heard with
  | waits missing =>
    exact .inl ⟨attempt.isRedirected_of_not_complete (by simp [missing]), rfl, rfl⟩
  | breaks wrong =>
    exact .inl ⟨attempt.isRedirected_of_not_complete (by simp [wrong]), rfl, rfl⟩
  | refused given ack => exact .inl ⟨by simp [Attempt.isRedirected, ack], rfl, rfl⟩
  | malformed given answered unread =>
    refine .inl ⟨?_, rfl, rfl⟩
    simp [Attempt.isRedirected, given, unread, Except.toOption]
  | @settled reply rest reading given answered read =>
    have reads : attempt.isRedirected backend = reading.isRetry := by
      unfold Attempt.isRedirected
      split
      · next fault refused => exact absurd refused (answered fault)
      · simp_all [Except.toOption]
      · simp_all
    rcases settle_cases flight attempt reply reading with
      ⟨final, ends⟩ | ⟨asks, node, delay, asking, ends, _⟩
    · exact .inl ⟨reads.trans final, by rw [ends]; exact ⟨rfl, rfl⟩⟩
    · exact .inr ⟨reads.trans asks, node, delay, asking, ends⟩

end InFlight

namespace Turn

variable {turn : Turn}

/-- What a step does to the counters: nothing, or it is redirected, or it accepts a dump. -/
inductive Counts (turn : Turn) : Prop where
  | keeps : turn.redirected = false → turn.learns = false →
      turn.flight.SameCounts turn.outcome.flight → Counts turn
  | redirects {attempt : Attempt} {node : Option String} {delay : Option Nat} {asking : Bool} :
      turn.redirected = true → turn.learns = false →
      turn.flight.phase.attempt? = some attempt →
      turn.outcome.toStep = turn.flight.redirect node delay asking → Counts turn
  | learns {node : String} {others : List String} : turn.redirected = false →
      turn.learns = true → turn.flight.phase = .bootstrapping node others →
      { turn.flight with bootstraps := turn.flight.bootstraps + 1 }.SameCounts turn.outcome.flight →
      Counts turn

theorem redirected_of_not_complete {attempt : Attempt}
    (attempted : turn.flight.phase.attempt? = some attempt) (pending : attempt.ack = .pending)
    (missing : ∀ reply, turn.backend.next.1 ≠ .complete reply) : turn.redirected = false := by
  unfold redirected
  cases turn.due with
  | reply =>
    simp only [attempted, pending, if_true]
    split
    · next answer rest given => exact absurd (congrArg Prod.fst given) (missing answer)
    · rfl
  | _ => rfl

/-- What is read for the reply to a request is what tells whether it is redirected. -/
theorem exists_redirecting {attempt : Attempt} (due : turn.due = .reply)
    (attempted : turn.flight.phase.attempt? = some attempt) :
    ∃ answered rest, InFlight.Heard turn.flight answered turn.store rest turn.outcome ∧
      turn.redirected = answered.isRedirected rest := by
  obtain ⟨now, _, store, backend⟩ := turn
  dsimp only at due attempted ⊢
  subst due
  have taken : (⟨now, .reply, store, backend⟩ : Turn).outcome = now.onReply store backend := rfl
  have replied := InFlight.replied attempted store backend
  rw [taken]
  generalize now.onReply store backend = outcome at replied
  cases replied with
  | direct settled heard =>
    exact ⟨attempt, backend, heard, by simp [redirected, attempted, settled]⟩
  | waits pending missing =>
    have unread (reply : Decoded) : backend.next.1 ≠ .complete reply := by simp [missing]
    refine ⟨attempt, backend, .waits missing, ?_⟩
    rw [attempt.isRedirected_of_not_complete unread]
    exact redirected_of_not_complete attempted pending unread
  | breaks pending wrong =>
    have unread (reply : Decoded) : backend.next.1 ≠ .complete reply := by simp [wrong]
    refine ⟨attempt, backend, .breaks wrong, ?_⟩
    rw [attempt.isRedirected_of_not_complete unread]
    exact redirected_of_not_complete attempted pending unread
  | acked pending answered heard =>
    exact ⟨_, _, heard, by simp [redirected, attempted, pending, answered]⟩

theorem counts (turn : Turn) : turn.Counts := by
  obtain ⟨flight, due, store, backend⟩ := turn
  cases due with
  | start => exact .keeps rfl rfl (flight.sameCounts_start store)
  | reply =>
    cases attempted : flight.phase.attempt? with
    | none =>
      refine .keeps (by simp [redirected, attempted]) rfl ?_
      simp only [outcome, InFlight.take, InFlight.onReply, attempted]
      exact ⟨rfl, rfl⟩
    | some attempt =>
      obtain ⟨answered, rest, heard, redirects⟩ :=
        @exists_redirecting ⟨flight, .reply, store, backend⟩ attempt rfl attempted
      rcases heard.counts with ⟨not, same⟩ | ⟨asks, node, delay, asking, ends⟩
      · exact .keeps (redirects.trans not) rfl same
      · exact .redirects (redirects.trans asks) rfl attempted ends
  | dump =>
    cases phase : flight.phase with
    | bootstrapping node others =>
      have taken : (⟨flight, .dump, store, backend⟩ : Turn).outcome =
        flight.onTopology store backend := rfl
      have informed := InFlight.informed phase store backend
      generalize flight.onTopology store backend = outcome at taken informed
      cases informed with
      | waits missing =>
        exact .keeps rfl (by simp [Turn.learns, phase, missing]) (by rw [taken]; exact ⟨rfl, rfl⟩)
      | breaks wrong =>
        exact .keeps rfl (by simp [Turn.learns, phase, wrong]) (by rw [taken]; exact ⟨rfl, rfl⟩)
      | failsOver given unusable =>
        refine .keeps rfl ?_ (by rw [taken]; exact ⟨rfl, rfl⟩)
        simp [Turn.learns, phase, given, unusable, Except.isOk, Except.toBool]
      | givesUp given unusable =>
        refine .keeps rfl ?_ (by rw [taken]; exact ⟨rfl, rfl⟩)
        simp [Turn.learns, phase, given, unusable, Except.isOk, Except.toBool]
      | learns given learned =>
        refine .learns rfl ?_ phase ?_
        · simp [Turn.learns, phase, given, learned, Except.isOk, Except.toBool]
        · rw [taken]
          exact InFlight.sameCounts_route _ _
    -- In every other phase the call is refused before anything is read.
    | _ =>
      refine .keeps rfl (by simp [Turn.learns, phase]) ?_
      simp only [outcome, InFlight.take, InFlight.onTopology, phase]
      exact ⟨rfl, rfl⟩

/-- The counter of redirects is raised by a step that is redirected, and by no other. -/
theorem redirects_eq (turn : Turn) :
    turn.outcome.flight.redirects =
      if turn.redirected then turn.flight.redirects + 1 else turn.flight.redirects := by
  cases turn.counts with
  | keeps not _ same => simp [not, same.redirects]
  | redirects asks _ _ ends =>
    rw [if_pos asks, congrArg Step.flight ends]
    exact (InFlight.sameCounts_redirect _ _ _ _).redirects
  | learns not _ _ same => simp [not, same.redirects]

/-- The counter of dumps is raised by a step that accepts one, and by no other. -/
theorem bootstraps_eq (turn : Turn) :
    turn.outcome.flight.bootstraps =
      if turn.learns then turn.flight.bootstraps + 1 else turn.flight.bootstraps := by
  cases turn.counts with
  | keeps _ not same => simp [not, same.bootstraps]
  | redirects _ not _ ends =>
    rw [if_neg (by simp [not]), congrArg Step.flight ends]
    exact (InFlight.sameCounts_redirect _ _ _ _).bootstraps
  | learns _ learns _ same => simp [learns, same.bootstraps]

theorem bootstrapping_of_learns (learns : turn.learns = true) :
    ∃ node others, turn.flight.phase = .bootstrapping node others := by
  cases turn.counts with
  | keeps _ not => simp [learns] at not
  | redirects _ not => simp [learns] at not
  | learns _ _ phase => exact ⟨_, _, phase⟩

/-- What a step comes to that is redirected, by the count after it: it fails and is the last one, or
it sends the request on. -/
theorem compared {times : Nat} (coherent : turn.flight.Coherent)
    (redirects : turn.redirected = true) (counted : (turn.flight.redirects + 1).toNat = times) :
    (turn.flight.settings.maxRedirects.toNat < times ∧
        turn.action = .respond (Fault.tooManyRedirects times).reply) ∨
      (times ≤ turn.flight.settings.maxRedirects.toNat ∧ turn.sends = true) := by
  cases turn.counts with
  | keeps not => simp [redirects] at not
  | learns not => simp [redirects] at not
  | @redirects attempt node delay asking _ _ attempted ends =>
    have alive : turn.flight.phase.fault? = none := by
      cases phase : turn.flight.phase <;> simp_all [Phase.attempt?, Phase.fault?]
    obtain ⟨request, known⟩ := coherent.exists_request alive
    have still : { turn.flight with redirects := turn.flight.redirects + 1 }.request =
        some request := known
    rcases InFlight.redirect_cases turn.flight node delay asking with ⟨many, fails⟩ | ⟨few, goes⟩
    · rw [UInt32.lt_iff_toNat_lt, counted] at many
      rw [fails, InFlight.fail_eq rfl, counted] at ends
      exact .inl ⟨many, congrArg Step.action ends⟩
    · rw [UInt32.le_iff_toNat_le, counted] at few
      rw [goes, InFlight.dispatch_eq still] at ends
      have acts : turn.action = .dispatch _ _ _ := congrArg Step.action ends
      exact .inr ⟨few, by simp [Turn.sends, acts]⟩

end Turn

/-! ## What the counters hold after a run -/

namespace Run

variable {flight : InFlight} {turn : Turn} {before : List Turn}

theorem redirects_of_held {turns : List Turn}
    (held : turn.flight.redirects.toNat = redirected turns % 4294967296) :
    turn.outcome.flight.redirects.toNat = redirected (turn :: turns) % 4294967296 := by
  rw [redirected_cons, turn.redirects_eq]
  split
  · rw [UInt32.toNat_add, held, UInt32.toNat_one]
    omega
  · exact held

/-- Whatever the ceiling is, the counter is right up to multiples of 4294967296. -/
theorem redirects_mod (unredirected : flight.redirects = 0) (run : Run flight turn before) :
    turn.outcome.flight.redirects.toNat = redirected (turn :: before) % 4294967296 := by
  induction run with
  | start writes backend =>
    refine @redirects_of_held ⟨flight, .start, Store.empty.after writes, backend⟩ [] ?_
    rw [unredirected]
    rfl
  | step run next writes backend ih => exact redirects_of_held ih

theorem bootstraps_of_held {turns : List Turn}
    (held : turn.flight.bootstraps.toNat = learned turns) (once : learned turns ≤ 1)
    (untried : ∀ node others, turn.flight.phase = .bootstrapping node others →
      turn.flight.bootstraps = 0) :
    turn.outcome.flight.bootstraps.toNat = learned (turn :: turns) ∧
      learned (turn :: turns) ≤ 1 := by
  rw [learned_cons, turn.bootstraps_eq]
  split
  · next learns =>
    -- The step waited for a dump, so none was accepted before.
    obtain ⟨node, others, phase⟩ := Turn.bootstrapping_of_learns learns
    have none_yet := untried node others phase
    rw [none_yet] at held ⊢
    rw [← held]
    exact ⟨rfl, Nat.le_refl 1⟩
  · exact ⟨held, once⟩

/-- At most one dump is accepted, and the counter says whether one was. -/
theorem bootstraps_eq (fresh : flight.Fresh) (run : Run flight turn before) :
    turn.outcome.flight.bootstraps.toNat = learned (turn :: before) ∧
      learned (turn :: before) ≤ 1 := by
  induction run with
  | start writes backend =>
    refine @bootstraps_of_held ⟨flight, .start, Store.empty.after writes, backend⟩ [] ?_
      (Nat.zero_le 1) fun _ _ _ => fresh.bootstraps
    dsimp only
    rw [fresh.bootstraps]
    rfl
  | step run next writes backend ih =>
    refine bootstraps_of_held ih.1 ih.2 fun node others phase => ?_
    exact (run.seeking_of_bootstrapping fresh phase).1

/-- While a request goes on, it was not redirected more often than the settings allow, and one more
redirect ends it. The ceiling is below the largest number that the counter can hold. -/
theorem redirected_le (accepted : flight.Coherent) (unredirected : flight.redirects = 0)
    (run : Run flight turn before)
    (bounded : flight.settings.maxRedirects.toNat < 4294967295) :
    redirected (turn :: before) ≤ flight.settings.maxRedirects.toNat + 1 ∧
      (turn.next?.isSome → redirected (turn :: before) ≤ flight.settings.maxRedirects.toNat) := by
  induction run with
  | start => exact ⟨Nat.zero_le _, fun _ => Nat.zero_le _⟩
  | @step last before due run next writes backend ih =>
    have few := ih.2 (by rw [next]; rfl)
    have stepped := Run.step run next writes backend
    have settings := (stepped.kept _ List.mem_cons_self).settings
    have held := stepped.redirects_mod unredirected
    have coherent := stepped.coherent accepted
    generalize (⟨last.outcome.flight, due, last.outcome.store.after writes, backend⟩ : Turn) = turn
      at settings held coherent ⊢
    rw [redirected_cons] at held ⊢
    rw [turn.redirects_eq] at held
    split at held
    · next redirects =>
      rw [Nat.mod_eq_of_lt (by omega)] at held
      rw [if_pos redirects]
      refine ⟨by omega, fun goes => ?_⟩
      rcases Turn.compared coherent redirects held with ⟨many, acts⟩ | ⟨within, _⟩
      · simp [Turn.next?, acts] at goes
      · exact settings ▸ within
    · next stays =>
      rw [if_neg stays]
      exact ⟨by omega, fun _ => few⟩

/-- How the counters stand after a step, and how many redirects the step compared with the ceiling.

* `bootstraps`, `once`: the dumps that were accepted are counted, and there is one at most.
* `wrapped`: the redirects are counted up to wrapping, whatever the ceiling is.

If the ceiling is below the largest number of 32 bits:

* `redirects`: the counter holds the true number of redirects, which is at most one above the
  ceiling.
* `exceeds`: a step that is redirected fails the request if the true number is above the ceiling,
  and names this number.
* `follows`: else it sends the request on. -/
structure Counted (settings : Settings) (turn : Turn) (before : List Turn) : Prop where
  bootstraps : turn.outcome.flight.bootstraps.toNat = learned (turn :: before)
  once : learned (turn :: before) ≤ 1
  wrapped : turn.outcome.flight.redirects.toNat = redirected (turn :: before) % 4294967296
  redirects : settings.maxRedirects.toNat < 4294967295 →
    turn.outcome.flight.redirects.toNat = redirected (turn :: before) ∧
      redirected (turn :: before) ≤ settings.maxRedirects.toNat + 1
  exceeds : settings.maxRedirects.toNat < 4294967295 → turn.redirected = true →
    settings.maxRedirects.toNat < redirected (turn :: before) →
      turn.action = .respond (Fault.tooManyRedirects (redirected (turn :: before))).reply
  follows : settings.maxRedirects.toNat < 4294967295 → turn.redirected = true →
    redirected (turn :: before) ≤ settings.maxRedirects.toNat → turn.sends = true

/-- What the counters of a request hold after any run, under any settings. -/
theorem counters_exact {router : Router} {cluster : String} {client : Decoder}
    (accepted : (router.accept cluster client).1 = .complete flight)
    (run : Run flight turn before) : Counted router.settings turn before := by
  have fresh := router.fresh_accept accepted
  have started := router.coherent_accept accepted
  obtain ⟨-, same, -⟩ := router.tally_accept accepted
  have unredirected : flight.redirects = 0 := by
    rcases router.accept_cases accepted with ⟨_, rfl⟩ | ⟨_, _, rfl⟩ <;> rfl
  have settings : turn.flight.settings = router.settings :=
    (run.kept turn List.mem_cons_self).settings.trans same
  obtain ⟨bootstraps, once⟩ := run.bootstraps_eq fresh
  have wrapped := run.redirects_mod unredirected
  rw [← same] at settings ⊢
  -- Below the largest ceiling, the counter cannot have wrapped.
  have unwrapped (bounded : flight.settings.maxRedirects.toNat < 4294967295) :
      turn.outcome.flight.redirects.toNat = redirected (turn :: before) ∧
        redirected (turn :: before) ≤ flight.settings.maxRedirects.toNat + 1 := by
    have ceiling := (run.redirected_le started unredirected bounded).1
    rw [Nat.mod_eq_of_lt (by omega)] at wrapped
    exact ⟨wrapped, ceiling⟩
  have compares (bounded : flight.settings.maxRedirects.toNat < 4294967295)
      (redirects : turn.redirected = true) := by
    have counts := (unwrapped bounded).1
    rw [turn.redirects_eq, if_pos redirects] at counts
    exact settings ▸ Turn.compared (run.coherent started) redirects counts
  refine ⟨bootstraps, once, wrapped, unwrapped, fun bounded redirects many => ?_,
    fun bounded redirects few => ?_⟩
  · exact (compares bounded redirects).elim And.right fun within =>
      absurd many (Nat.not_lt.2 within.1)
  · exact (compares bounded redirects).elim (fun exceeds => absurd few (Nat.not_le.2 exceeds.1))
      And.right

/-- A redirect below the ceiling is counted, and the request is sent on. -/
theorem counters_exact_moving :
    (Sample.router.accept "c" Sample.client).1 = .complete Sample.flight ∧
      Run Sample.flight Sample.moving [Sample.learning, Sample.asking] ∧
      Counted Sample.router.settings Sample.moving [Sample.learning, Sample.asking] ∧
      Sample.moving.outcome.flight.redirects.toNat = 1 ∧ Sample.moving.sends = true := by
  have counted := counters_exact Sample.accepted Sample.sent
  have bounded : Sample.router.settings.maxRedirects.toNat < 4294967295 := by decide
  have met : redirected [Sample.moving, Sample.learning, Sample.asking] = 1 := by decide +kernel
  have redirects : Sample.moving.redirected = true := by decide +kernel
  refine ⟨Sample.accepted, Sample.sent, counted, (counted.redirects bounded).1.trans met,
    counted.follows bounded redirects ?_⟩
  rw [met]
  decide

/-! ## The largest ceiling -/

namespace Sample

/-- A router whose settings hold the largest ceiling there is. -/
def lenient : Router := ⟨⟨4294967295, 0, [], 200, .reject⟩⟩

def pending : InFlight := lenient.receive "c" decoded

/-- The request after it was sent to the node, and redirected so many times. -/
def circling (times : UInt32) : InFlight :=
  { pending with phase := .dispatching ⟨some "a:1", false, .settled⟩, redirects := times }

/-- The node sends the request to itself. -/
def circle : Decoder := node "-MOVED 9 a:1\r\n"

theorem onReply_circling (times : UInt32) (store : Store) :
    ((circling times).onReply store circle).flight = circling (times + 1) ∧
      ((circling times).onReply store circle).action =
        .dispatch (some "a:1") decoded.bytes none := by
  let reply : Decoded := ⟨circle.buffer, ⟨⟨.error, some ⟨1, 12⟩, false, []⟩, 14⟩⟩
  have given : circle.next = (.complete reply, .empty 200) := by decide +kernel
  have read : Reading.ofFrame reply.frame reply.bytes = .ok (.moved 9 "a:1") := by decide +kernel
  have asks : pending.request.map Request.bytes = some decoded.bytes := by decide +kernel
  obtain ⟨request, known, bytes⟩ := Option.map_eq_some_iff.1 asks
  have received : ((circling times).onReply store circle).toStep =
      (circling times).redirect (some "a:1") none false := by
    rw [InFlight.onReply_of_ne_pending rfl (by simp)]
    unfold InFlight.readReply
    rw [given]
    unfold InFlight.receive
    dsimp only
    rw [read]
    rfl
  rw [received]
  rcases (circling times).redirect_cases (some "a:1") none false with ⟨many, _⟩ | ⟨_, goes⟩
  · -- No number of 32 bits is above the ceiling.
    have all := UInt32.toNat_lt (times + 1)
    have ceiling : pending.settings.maxRedirects = 4294967295 := by decide +kernel
    have above : pending.settings.maxRedirects < times + 1 := many
    rw [ceiling, UInt32.lt_iff_toNat_lt] at above
    change 4294967295 < (times + 1).toNat at above
    omega
  · have still : { circling times with redirects := (circling times).redirects + 1 }.request =
        some request := known
    rw [goes, InFlight.dispatch_eq still]
    exact ⟨rfl, bytes ▸ rfl⟩

/-- The step that comes when the request was redirected so many times. -/
def around (times : UInt32) (store : Store) : Turn := ⟨circling times, .reply, store, circle⟩

theorem redirected_around (times : UInt32) (store : Store) :
    (around times store).redirected = true := by
  have reads : Attempt.isRedirected ⟨some "a:1", false, .settled⟩ circle = true := by decide +kernel
  exact reads

theorem flight_around (times : UInt32) (store : Store) :
    (around times store).outcome.flight = circling (times + 1) :=
  (onReply_circling times store).1

theorem action_around (times : UInt32) (store : Store) :
    (around times store).action = .dispatch (some "a:1") decoded.bytes none :=
  (onReply_circling times store).2

theorem next?_around (times : UInt32) (store : Store) :
    (around times store).next? = some .reply := by
  rw [Turn.next?, action_around]

/-- Any number of redirects is followed, one after the other, if the node sends the request to
itself. -/
theorem exists_circling (times : Nat) :
    ∃ turn before, Run pending turn before ∧ turn.outcome.flight = circling (.ofNat times) ∧
      turn.next? = some .reply ∧ redirected (turn :: before) = times := by
  induction times with
  | zero =>
    let writes := [Store.Write.replace "c" "id0 a:1@2 master - 0 0 1 connected 0-9\n" none]
    let first : Turn := ⟨pending, .start, Store.empty.after writes, node ""⟩
    have sent : first.outcome.flight = circling 0 := by decide +kernel
    exact ⟨first, [], .start writes _, sent, by decide +kernel, rfl⟩
  | succ times ih =>
    obtain ⟨turn, before, run, here, next, met⟩ := ih
    have stepped := run.step next [] circle
    rw [here] at stepped
    refine ⟨around _ _, _, stepped, ?_, next?_around _ _, ?_⟩
    · rw [UInt32.ofNat_add]
      exact flight_around _ _
    · rw [redirected_cons, met, redirected_around, if_pos rfl]

end Sample

/-- With the largest ceiling, a request that a node sends to itself is never failed: the redirect
that is one too many sets the counter from 4294967295 to 0, and the request is sent on. -/
theorem redirects_wrap :
    Sample.lenient.settings.validate = .ok Sample.lenient.settings ∧
      Sample.lenient.settings.maxRedirects.toNat = 4294967295 ∧
      (Sample.lenient.accept "c" Sample.client).1 = .complete Sample.pending ∧
      ∃ turn before, Run Sample.pending turn before ∧
        turn.flight.redirects = 4294967295 ∧ turn.outcome.flight.redirects = 0 ∧
        redirected (turn :: before) = 4294967296 ∧ turn.sends = true := by
  obtain ⟨turn, before, run, here, next, met⟩ := Sample.exists_circling 4294967295
  have stepped := run.step next [] Sample.circle
  rw [here] at stepped
  refine ⟨by decide +kernel, rfl, by decide +kernel, Sample.around _ _, _, stepped, rfl, ?_, ?_, ?_⟩
  · rw [Sample.flight_around]
    rfl
  · rw [redirected_cons, met, Sample.redirected_around, if_pos rfl]
  · rw [Turn.sends, Sample.action_around]

end Run

end ClusterProxy
