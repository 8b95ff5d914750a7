import ClusterProxy.Proofs.Router.Run

/-!
# What is counted along a run

`Tally` ties what is counted along a run to the phase the request is in. Every run keeps it
(`Run.tally`): each step does, by the cases of what the step can come to (`Tally.routed`,
`Tally.heard` and `Tally.informed`), which are made of the few steps that all others end with.

On the way it is seen that every step is `Turn.Proper`: it either is followed by the step that is
due in the phase after it, or ends the request with one reply.
-/

namespace ClusterProxy

/-! ## What a step is for the client -/

/-- A refusal of `ASKING` that is remembered is not fatal. -/
def Attempt.Harmless (attempt : Attempt) : Prop :=
  ∀ fault, attempt.ack = .refused fault → fault.isFatal = false

/-- A step that is either followed by the one that is due in the phase after it, or ends the request
with one reply. -/
structure Turn.Proper (turn : Turn) : Prop where
  stays : turn.action ≠ .close
  due : turn.next? = turn.outcome.flight.phase.due?
  framed : ∀ reply, turn.replies? = some reply → IsFrame reply
  waiting : turn.waits = true → turn.outcome.backend.next.1 = .incomplete

namespace Turn

variable {turn : Turn} {flight : InFlight}

theorem proper_of_fail {fault : Fault} (ends : turn.outcome.toStep = flight.fail fault)
    (harmless : fault.isFatal = false) : turn.Proper := by
  rw [InFlight.fail_eq harmless] at ends
  have acts : turn.action = .respond fault.reply := congrArg Step.action ends
  have phase : turn.outcome.flight.phase = .failed fault := by rw [ends]
  refine ⟨by simp [acts], by simp [next?, acts, phase, Phase.due?], ?_, by simp [waits, acts]⟩
  simp only [replies?, acts, Option.some.injEq]
  rintro _ rfl
  exact fault.isFrame_reply

theorem proper_of_breakOff {node : Option String} {why : FrameFault}
    (ends : turn.outcome.toStep = flight.breakOff node why) : turn.Proper := by
  unfold InFlight.breakOff at ends
  generalize Fault.protocol _ = fault at ends
  have acts : turn.action = .dropBackend fault.reply := congrArg Step.action ends
  have phase : turn.outcome.flight.phase = .failed fault := by rw [ends]
  refine ⟨by simp [acts], by simp [next?, acts, phase, Phase.due?], ?_, by simp [waits, acts]⟩
  simp only [replies?, acts, Option.some.injEq]
  rintro _ rfl
  exact fault.isFrame_reply

theorem proper_of_dispatch {request : Request} (known : flight.request = some request)
    {node : Option String} {delay : Option Nat} {asking : Bool}
    (ends : turn.outcome.toStep = flight.dispatch node delay asking) : turn.Proper := by
  rw [InFlight.dispatch_eq known] at ends
  have acts := congrArg Step.action ends
  change turn.action = _ at acts
  refine ⟨by simp [acts], by simp [next?, acts, ends, Phase.due?], ?_, by simp [waits, acts]⟩
  simp [replies?, acts]

theorem proper_of_bootstrapFrom {node : String} {others : List String}
    (ends : turn.outcome.toStep = flight.bootstrapFrom node others) : turn.Proper := by
  have acts : turn.action = .bootstrap node _ := congrArg Step.action ends
  have phase : turn.outcome.flight.phase = .bootstrapping node others := by
    rw [ends]
    rfl
  exact ⟨by simp [acts], by simp [next?, acts, phase, Phase.due?], by simp [replies?, acts],
    by simp [waits, acts]⟩

theorem proper_of_forward {reply : Bytes} (ends : turn.outcome.toStep =
    ⟨.forward reply, { flight with phase := .done }⟩) (framed : IsFrame reply) : turn.Proper := by
  have acts : turn.action = .forward reply := congrArg Step.action ends
  refine ⟨by simp [acts], by simp [next?, acts, ends, Phase.due?], ?_, by simp [waits, acts]⟩
  simp only [replies?, acts, Option.some.injEq]
  rintro _ rfl
  exact framed

theorem proper_of_needMore (acts : turn.action = .needMore)
    (due : some turn.due = turn.outcome.flight.phase.due?)
    (missing : turn.outcome.backend.next.1 = .incomplete) : turn.Proper :=
  ⟨by simp [acts], by simp [next?, acts, due], by simp [replies?, acts], fun _ => missing⟩

end Turn

/-! ## The invariant -/

/-- What is counted along a run stays within bounds, and the nodes that were asked are the first
ones of those that could be asked. -/
structure Tally.Within (flight : InFlight) (turns : List Turn) : Prop where
  sent : Run.sent turns ≤ flight.settings.maxRedirects.toNat + 1
  learned : Run.learned turns ≤ 1
  asked : ∀ first, Run.asking? turns = some first →
    Run.asked turns <+: flight.candidates first.store

/-- How a request stands after a run, by its phase.

* `fresh`: no step was taken.
* `asking`: nodes were asked for a dump and gave none so far.
* `sent`, `done`: the request was sent once more than it was redirected. -/
inductive Tally.Standing (flight : InFlight) (turns : List Turn) (now : InFlight) : Prop where
  | fresh {request : Request} : now.phase = .classified → flight.request = some request →
      now.redirects = 0 → now.bootstraps = 0 → turns = [] → Standing flight turns now
  | asking {request : Request} {node : String} {others : List String} {first : Turn} :
      now.phase = .bootstrapping node others → flight.request = some request →
      now.redirects = 0 → now.bootstraps = 0 → Run.sent turns = 0 → Run.learned turns = 0 →
      Run.asking? turns = some first →
      Run.asked turns ++ others = flight.candidates first.store → Standing flight turns now
  | sent {request : Request} {attempt : Attempt} :
      now.phase.attempt? = some attempt → flight.request = some request → attempt.Harmless →
      Run.sent turns = now.redirects.toNat + 1 → Standing flight turns now
  | done : now.phase = .done → Run.sent turns = now.redirects.toNat + 1 → Standing flight turns now
  | failed {fault : Fault} : now.phase = .failed fault → fault.isFatal = false →
      Standing flight turns now

/-- What holds of a request after a run. -/
structure Tally (flight : InFlight) (turns : List Turn) (now : InFlight) : Prop where
  within : Tally.Within flight turns
  standing : Tally.Standing flight turns now

namespace Tally

variable {flight now : InFlight} {turn : Turn} {before : List Turn}

/-- A step that neither sends the request nor asks for a dump leaves the counts as they are. -/
theorem Within.cons (within : Within flight before) (silent : turn.sends = false)
    (unasked : turn.asks? = none) (learned : Run.learned (turn :: before) ≤ 1) :
    Within flight (turn :: before) where
  sent := by
    rw [Run.sent_cons, silent]
    exact within.sent
  learned := learned
  asked := by
    rw [Run.asking?_cons, Run.asked_cons, unasked]
    simpa using within.asked

theorem of_fail {fault : Fault} (within : Within flight before)
    (learned : Run.learned (turn :: before) ≤ 1) (harmless : fault.isFatal = false)
    (ends : turn.outcome.toStep = now.fail fault) :
    Tally flight (turn :: before) turn.outcome.flight := by
  rw [InFlight.fail_eq harmless] at ends
  have acts : turn.action = .respond fault.reply := congrArg Step.action ends
  have rests : turn.outcome.flight = { now with phase := .failed fault } := by rw [ends]
  rw [rests]
  exact ⟨within.cons (by simp [Turn.sends, acts]) (by simp [Turn.asks?, acts]) learned,
    .failed rfl harmless⟩

theorem of_breakOff {node : Option String} {why : FrameFault} (within : Within flight before)
    (learned : Run.learned (turn :: before) ≤ 1)
    (ends : turn.outcome.toStep = now.breakOff node why) :
    Tally flight (turn :: before) turn.outcome.flight := by
  have acts : turn.action = .dropBackend _ := congrArg Step.action ends
  refine ⟨within.cons (by simp [Turn.sends, acts]) (by simp [Turn.asks?, acts]) learned, ?_⟩
  rw [ends]
  exact .failed rfl rfl

theorem of_forward {reply : Bytes} (within : Within flight before)
    (learned : Run.learned (turn :: before) ≤ 1)
    (balanced : Run.sent before = now.redirects.toNat + 1)
    (ends : turn.outcome.toStep = ⟨.forward reply, { now with phase := .done }⟩) :
    Tally flight (turn :: before) turn.outcome.flight := by
  have acts : turn.action = .forward reply := congrArg Step.action ends
  have sent : Run.sent (turn :: before) = now.redirects.toNat + 1 := by
    rw [Run.sent_cons, balanced]
    simp [Turn.sends, acts]
  refine ⟨within.cons (by simp [Turn.sends, acts]) (by simp [Turn.asks?, acts]) learned, ?_⟩
  rw [ends]
  exact .done rfl sent

/-- A request that is sent once for each redirect before is then sent once more. -/
theorem of_dispatch {request : Request} (known : flight.request = some request)
    (kept : flight.Kept now) (within : Within flight before)
    (learned : Run.learned (turn :: before) ≤ 1) (balanced : Run.sent before = now.redirects.toNat)
    (room : now.redirects.toNat ≤ flight.settings.maxRedirects.toNat)
    {node : Option String} {delay : Option Nat} {asking : Bool}
    (ends : turn.outcome.toStep = now.dispatch node delay asking) :
    Tally flight (turn :: before) turn.outcome.flight := by
  rw [InFlight.dispatch_eq (kept.request.trans known)] at ends
  have acts : turn.action = .dispatch _ _ _ := congrArg Step.action ends
  have sent : Run.sent (turn :: before) = now.redirects.toNat + 1 := by
    rw [Run.sent_cons, balanced]
    simp [Turn.sends, acts]
  refine ⟨⟨by omega, learned, ?_⟩, ?_⟩
  · rw [Run.asking?_cons, Run.asked_cons]
    simpa [Turn.asks?, acts] using within.asked
  · rw [ends]
    refine .sent rfl known ?_ sent
    intro fault refused
    cases asking <;> simp at refused

/-- The next node in the list is asked, and none was sent the request before. -/
theorem of_bootstrapFrom {request : Request} (known : flight.request = some request)
    (untried : now.redirects = 0 ∧ now.bootstraps = 0)
    (unsent : Run.sent before = 0) (unlearned : Run.learned (turn :: before) = 0)
    {first : Turn} {node : String} {others : List String}
    (began : (Run.asking? before).or (some turn) = some first)
    (listed : Run.asked before ++ node :: others = flight.candidates first.store)
    (ends : turn.outcome.toStep = now.bootstrapFrom node others) :
    Tally flight (turn :: before) turn.outcome.flight := by
  have acts : turn.action = .bootstrap node _ := congrArg Step.action ends
  have sent : Run.sent (turn :: before) = 0 := by
    rw [Run.sent_cons, unsent]
    simp [Turn.sends, acts]
  have asking : Run.asking? (turn :: before) = some first := by
    rw [Run.asking?_cons, ← began]
    simp [Turn.asks?, acts]
  have asked : Run.asked (turn :: before) ++ others = flight.candidates first.store := by
    rw [Run.asked_cons, ← listed]
    simp [Turn.asks?, acts]
  refine ⟨⟨by omega, by omega, ?_⟩, ?_⟩
  · rw [asking]
    rintro _ ⟨⟩
    exact ⟨others, asked⟩
  · rw [ends]
    exact .asking rfl known untried.1 untried.2 sent unlearned asking asked

/-- A request that is routed, at its start or after a dump, was not sent before. -/
theorem routed {request : Request} (known : flight.request = some request) (kept : flight.Kept now)
    (within : Within flight before) (learned : Run.learned (turn :: before) ≤ 1)
    (unsent : Run.sent before = 0) (unredirected : now.redirects = 0)
    {store : Store} (fresh : now.bootstraps = 0 →
      before = [] ∧ Run.learned [turn] = 0 ∧ turn.store = store)
    {step : Step} (ends : InFlight.Routed now store step) (taken : turn.outcome.toStep = step) :
    Tally flight (turn :: before) turn.outcome.flight ∧ turn.Proper := by
  cases ends with
  | refused harmless =>
    exact ⟨of_fail within learned harmless taken, Turn.proper_of_fail taken harmless⟩
  | sent node =>
    have balanced : Run.sent before = now.redirects.toNat := by
      rw [unsent, unredirected]
      rfl
    exact ⟨of_dispatch known kept within learned balanced (by simp [unredirected]) taken,
      Turn.proper_of_dispatch (kept.request.trans known) taken⟩
  | asked first listed =>
    obtain ⟨rfl, unlearned, rfl⟩ := fresh first
    refine ⟨of_bootstrapFrom known ⟨unredirected, first⟩ unsent unlearned rfl ?_ taken,
      Turn.proper_of_bootstrapFrom taken⟩
    unfold InFlight.candidates at listed ⊢
    rw [← kept.settings, ← kept.cluster]
    exact listed.symm

/-- A reply to the request that is read keeps the invariant, since a redirect that is followed is
counted and the request is sent once for it. -/
theorem heard {request : Request} {attempt : Attempt} (known : flight.request = some request)
    (kept : flight.Kept now) (within : Within flight before) (unlearned : turn.learns = false)
    (due : turn.due = .reply) (harmless : attempt.Harmless)
    (balanced : Run.sent before = now.redirects.toNat + 1)
    (bounded : flight.settings.maxRedirects.toNat < 4294967295)
    {store : Store} {backend : Decoder} {outcome : Outcome}
    (ends : InFlight.Heard now attempt store backend outcome) (taken : turn.outcome = outcome) :
    Tally flight (turn :: before) turn.outcome.flight ∧ turn.Proper := by
  have ceiling := within.sent
  have learned : Run.learned (turn :: before) ≤ 1 := by
    rw [Run.learned_cons, unlearned]
    exact within.learned
  -- The count of redirects does not wrap around, since it stays below the ceiling.
  have counts : (now.redirects + 1).toNat = now.redirects.toNat + 1 := by
    rw [UInt32.toNat_add]
    exact Nat.mod_eq_of_lt (by simp only [UInt32.toNat_one]; omega)
  cases ends with
  | waits missing =>
    have acts : turn.action = .needMore := congrArg (fun outcome => outcome.action) taken
    have phase : turn.outcome.flight = { now with phase := .awaitingReply attempt } := by
      rw [taken]
      rfl
    have sent : Run.sent (turn :: before) = now.redirects.toNat + 1 := by
      rw [Run.sent_cons, balanced]
      simp [Turn.sends, acts]
    refine ⟨⟨within.cons (by simp [Turn.sends, acts]) (by simp [Turn.asks?, acts]) learned, ?_⟩,
      Turn.proper_of_needMore acts ?_ (by rw [taken]; exact missing)⟩
    · rw [phase]
      exact .sent rfl known harmless sent
    · rw [due, phase]
      rfl
  | breaks wrong =>
    have step := congrArg Outcome.toStep taken
    exact ⟨of_breakOff within learned step, Turn.proper_of_breakOff step⟩
  | refused given ack =>
    have step := congrArg Outcome.toStep taken
    exact ⟨of_fail within learned (harmless _ ack) step,
      Turn.proper_of_fail step (harmless _ ack)⟩
  | malformed given answered unread =>
    have step := congrArg Outcome.toStep taken
    have benign := Reading.isFatal_of_ofFrame unread
    exact ⟨of_fail within learned benign step, Turn.proper_of_fail step benign⟩
  | @settled reply rest reading given answered read =>
    have step := congrArg Outcome.toStep taken
    dsimp only at step
    obtain ⟨_, ending⟩ | ⟨_, node, delay, asking, ending, _⟩ :=
      InFlight.settle_cases now attempt reply reading
    · rw [ending] at step
      exact ⟨of_forward within learned balanced step,
        Turn.proper_of_forward step (isFrame_of_next given)⟩
    · rw [ending] at step
      have counted : flight.Kept { now with redirects := now.redirects + 1 } :=
        ⟨kept.cluster, kept.settings, kept.request⟩
      rcases InFlight.redirect_cases now node delay asking with ⟨_, redirected⟩ | ⟨few, redirected⟩
      · rw [redirected] at step
        exact ⟨of_fail within learned rfl step, Turn.proper_of_fail step rfl⟩
      · -- The redirect is counted before the request is sent for it, which keeps the balance.
        rw [redirected] at step
        rw [kept.settings, UInt32.le_iff_toNat_le] at few
        exact ⟨of_dispatch known counted within learned (balanced.trans counts.symm) few step,
          Turn.proper_of_dispatch (counted.request.trans known) step⟩

/-- A reply to the request for a dump keeps the invariant: it is used at most once, and the next
node is asked if it cannot be used. -/
theorem informed {request : Request} {node : String} {others : List String} {first : Turn}
    (known : flight.request = some request) (kept : flight.Kept now)
    (within : Within flight before) (phase : now.phase = .bootstrapping node others)
    (untried : now.redirects = 0 ∧ now.bootstraps = 0) (unsent : Run.sent before = 0)
    (unlearned : Run.learned before = 0) (began : Run.asking? before = some first)
    (listed : Run.asked before ++ others = flight.candidates first.store)
    (here : turn.flight = now) (due : turn.due = .dump) :
    Tally flight (turn :: before) turn.outcome.flight ∧ turn.Proper := by
  have taken : turn.outcome = now.onTopology turn.store turn.backend := by
    rw [Turn.outcome, here, due]
    rfl
  have ends := InFlight.informed phase turn.store turn.backend
  have atMost : Run.learned (turn :: before) ≤ 1 := by
    rw [Run.learned_cons, unlearned]
    split <;> omega
  generalize now.onTopology turn.store turn.backend = outcome at taken ends
  cases ends with
  | waits missing =>
    have acts : turn.action = .needMore := congrArg (fun outcome => outcome.action) taken
    have same : turn.outcome.flight = now := by rw [taken]
    have silent : turn.sends = false := by simp [Turn.sends, acts]
    have unasked : turn.asks? = none := by simp [Turn.asks?, acts]
    have useless : turn.learns = false := by simp [Turn.learns, due, here, phase, missing]
    rw [same]
    refine ⟨⟨within.cons silent unasked atMost, ?_⟩,
      Turn.proper_of_needMore acts (by rw [due, same, phase]; rfl) (by rw [taken]; exact missing)⟩
    have still : Run.asking? (turn :: before) = some first := by simp [Run.asking?_cons, began]
    refine .asking phase known untried.1 untried.2 ?_ ?_ still ?_
    · simp [Run.sent_cons, unsent, silent]
    · simp [Run.learned_cons, unlearned, useless]
    · simpa [Run.asked_cons, unasked] using listed
  | breaks wrong =>
    have step := congrArg Outcome.toStep taken
    exact ⟨of_breakOff within atMost step, Turn.proper_of_breakOff step⟩
  | failsOver given unusable left =>
    have step := congrArg Outcome.toStep taken
    have useless : turn.learns = false := by
      simp [Turn.learns, due, here, phase, given, unusable, Except.isOk, Except.toBool]
    have still : (Run.asking? before).or (some turn) = some first := by simp [began]
    refine ⟨of_bootstrapFrom known untried unsent ?_ still ?_ step,
      Turn.proper_of_bootstrapFrom step⟩
    · simp [Run.learned_cons, unlearned, useless]
    · rw [← left]
      exact listed
  | givesUp given unusable left =>
    have step := congrArg Outcome.toStep taken
    have benign := InFlight.isFatal_of_learned unusable
    exact ⟨of_fail within atMost benign step, Turn.proper_of_fail step benign⟩
  | learns given learned =>
    have step := congrArg Outcome.toStep taken
    have counted : flight.Kept { now with bootstraps := now.bootstraps + 1 } :=
      ⟨kept.cluster, kept.settings, kept.request⟩
    -- From here on the request is routed like a new one, but no node is asked a second time.
    refine routed known counted within atMost unsent untried.1 ?_ (InFlight.routed _ _) step
    intro fresh
    simp [untried.2] at fresh

end Tally

/-! ## Every run keeps it -/

/-- A request as it comes off a client's connection. -/
theorem Router.tally_accept {router : Router} {cluster : String} {client : Decoder}
    {flight : InFlight} (taken : (router.accept cluster client).1 = .complete flight) :
    flight.cluster = cluster ∧ flight.settings = router.settings ∧ Tally flight [] flight := by
  obtain ⟨decoded, rest, _, rfl⟩ := router.accept_eq_complete taken
  have within (flight : InFlight) : Tally.Within flight [] :=
    ⟨Nat.zero_le _, Nat.zero_le _, fun _ began => by simp [Run.asking?] at began⟩
  obtain ⟨request, _, received⟩ | ⟨fault, harmless, received⟩ :=
    router.receive_cases cluster decoded
  · rw [received]
    exact ⟨rfl, rfl, within _, .fresh rfl rfl rfl rfl rfl⟩
  · rw [received]
    exact ⟨rfl, rfl, within _, .failed rfl harmless⟩

/-- The first step keeps the invariant. A request that failed before it is answered at once. -/
theorem Tally.start {flight : InFlight} {turn : Turn} (tally : Tally flight [] turn.flight)
    (kept : flight.Kept turn.flight) (due : turn.due = .start) :
    Tally flight [turn] turn.outcome.flight ∧ turn.Proper := by
  have taken : turn.outcome.toStep = turn.flight.start turn.store := by
    rw [Turn.outcome, due]
    rfl
  have useless : turn.learns = false := by simp [Turn.learns, due]
  have unlearned : Run.learned [turn] = 0 := by
    rw [Run.learned_cons, useless]
    rfl
  cases tally.standing with
  | fresh phase known unredirected fresh =>
    have started : turn.flight.start turn.store = turn.flight.route turn.store := by
      simp [InFlight.start, phase]
    rw [started] at taken
    exact routed known kept tally.within (by omega) rfl unredirected
      (fun _ => ⟨rfl, unlearned, rfl⟩) (InFlight.routed _ _) taken
  | @failed fault phase harmless =>
    have started : turn.flight.start turn.store = turn.flight.fail fault := by
      simp [InFlight.start, phase]
    rw [started] at taken
    exact ⟨of_fail tally.within (by omega) harmless taken,
      Turn.proper_of_fail taken harmless⟩
  -- All other ways to stand need a step before this one.
  | asking _ _ _ _ _ _ began => simp [Run.asking?] at began
  | sent _ _ _ balanced => simp [Run.sent] at balanced
  | done _ balanced => simp [Run.sent] at balanced

theorem Tally.take {flight : InFlight} {turn : Turn} {before : List Turn}
    (tally : Tally flight before turn.flight) (kept : flight.Kept turn.flight)
    (bounded : flight.settings.maxRedirects.toNat < 4294967295)
    (due : turn.flight.phase.due? = some turn.due) :
    Tally flight (turn :: before) turn.outcome.flight ∧ turn.Proper := by
  cases tally.standing with
  | fresh phase _ _ _ none_before =>
    subst none_before
    rw [phase] at due
    exact tally.start kept (Option.some.inj due).symm
  | asking phase known unredirected fresh unsent unlearned began listed =>
    rw [phase] at due
    exact informed known kept tally.within phase ⟨unredirected, fresh⟩ unsent unlearned began
      listed rfl (Option.some.inj due).symm
  | @sent request attempt attempted known harmless balanced =>
    have reply : turn.due = .reply := by
      cases phase : turn.flight.phase <;> simp_all [Phase.due?, Phase.attempt?]
    -- The answer to `ASKING` may have been read by this very call, and is then in `answered`.
    obtain ⟨answered, rest, answer, ends⟩ :=
      (InFlight.replied attempted turn.store turn.backend).heard
    have answeredHarmless : answered.Harmless := by
      rcases answer with rfl | ⟨answer, rfl⟩
      · exact harmless
      · intro fault refused
        obtain ⟨what, rfl⟩ := InFlight.protocol_of_ackOf refused
        rfl
    exact heard known kept tally.within (by simp [Turn.learns, reply]) reply answeredHarmless
      balanced bounded ends (by rw [Turn.outcome, reply]; rfl)
  | done phase => simp [phase, Phase.due?] at due
  | failed phase => simp [phase, Phase.due?] at due

/-- A run keeps the invariant, and all its steps are proper. -/
theorem Run.tally {flight : InFlight} {turn : Turn} {before : List Turn}
    (run : Run flight turn before) (accepted : Tally flight [] flight)
    (bounded : flight.settings.maxRedirects.toNat < 4294967295) :
    Tally flight (turn :: before) turn.outcome.flight ∧ ∀ past ∈ turn :: before, past.Proper := by
  induction run with
  | start writes backend =>
    obtain ⟨tally, proper⟩ :=
      @Tally.start flight ⟨flight, .start, _, backend⟩ accepted (.refl flight) rfl
    exact ⟨tally, fun past member => List.mem_singleton.1 member ▸ proper⟩
  | @step turn before due run next writes backend ih =>
    obtain ⟨tally, propers⟩ := ih
    have kept := (run.kept turn List.mem_cons_self).trans turn.follows.kept
    -- What a proper step is followed by is what is due in the phase after it.
    have awaited := (propers turn List.mem_cons_self).due.symm.trans next
    obtain ⟨after, proper⟩ :=
      @Tally.take flight ⟨turn.outcome.flight, due, _, backend⟩ _ tally kept bounded awaited
    exact ⟨after, List.forall_mem_cons.2 ⟨proper, propers⟩⟩

end ClusterProxy
