import ClusterProxy.Proofs.Router.Run

/-!
# Where a step leads

A request is routed by its first step, and by a step that accepts a dump. Every other step goes on
with what is under way (`Turn.GoesOn`): it asks for a dump only if one was waited for, and sends the
request only if it was sent before. `Turn.way` says so of every step, whatever it is taken with.
-/

namespace ClusterProxy

/-- Whether an action passes something on: the request to a node or a reply to the client. -/
def Action.passes : Action → Bool
  | dispatch _ _ _ => true
  | forward _ => true
  | _ => false

/-- The step asks a node for a dump or waits for one. -/
def Step.Learning (step : Step) : Prop :=
  (∃ node payload, step.action = .bootstrap node payload) ∨
    ∃ node others, step.flight.phase = .bootstrapping node others

/-- A step that goes on with what is under way.

* `learning`: it asks for a dump only if a dump was waited for.
* `passes`: it passes something on only if a reply was due.
* `unnamed`: it leaves the node open only if it was left open before.
* `uncovered`: it finds a slot without owner only if this was found before. -/
structure Turn.GoesOn (turn : Turn) : Prop where
  learning : turn.outcome.toStep.Learning →
    ∃ node others, turn.flight.phase = .bootstrapping node others
  passes : turn.action.passes = true → turn.due = .reply
  unnamed : ∀ payload delay, turn.action = .dispatch none payload delay →
    ∃ attempt, turn.flight.phase.attempt? = some attempt ∧ attempt.node = none
  uncovered : ∀ slot, turn.outcome.flight.phase = .failed (.slotNotCovered slot) →
    (turn.due = .start ∧ turn.flight.phase = .failed (.slotNotCovered slot)) ∨
      turn.due = .reply ∧ ∃ attempt, turn.flight.phase.attempt? = some attempt ∧
        attempt.ack = .refused (.slotNotCovered slot)

/-- The ways of a step: the request is routed, since it starts or since a dump was accepted for it,
or it goes on. -/
inductive Turn.Way (turn : Turn) : Prop where
  | routes {now : InFlight} : turn.flight.Kept now →
      (turn.due = .start ∧ now = turn.flight) ∨ turn.learns = true →
      now.Routes turn.outcome.store turn.outcome.toStep → Turn.Way turn
  | goesOn : turn.GoesOn → Turn.Way turn

/-! ## The steps that others end with -/

namespace InFlight

theorem passes_fail (flight : InFlight) (fault : Fault) :
    (flight.fail fault).action.passes = false := by
  unfold fail Action.ofFault
  split <;> rfl

theorem fail_ne_dispatch (flight : InFlight) (fault : Fault) (node : Option String)
    (payload : Bytes) (delay : Option Nat) :
    (flight.fail fault).action ≠ .dispatch node payload delay := by
  intro sends
  have silent := flight.passes_fail fault
  rw [sends] at silent
  cases silent

theorem not_learning_fail (flight : InFlight) (fault : Fault) :
    ¬ (flight.fail fault).Learning := by
  unfold fail Action.ofFault Step.Learning
  split <;> simp

end InFlight

namespace Turn

variable {turn : Turn} {flight : InFlight}

theorem goesOn_of_fail {fault : Fault} (ends : turn.outcome.toStep = flight.fail fault)
    (known : ∀ slot, fault = .slotNotCovered slot →
      (turn.due = .start ∧ turn.flight.phase = .failed (.slotNotCovered slot)) ∨
        turn.due = .reply ∧ ∃ attempt, turn.flight.phase.attempt? = some attempt ∧
          attempt.ack = .refused (.slotNotCovered slot)) : turn.GoesOn := by
  have acts : turn.action = .ofFault fault := congrArg Step.action ends
  have silent : turn.action.passes = false := by
    rw [acts]
    exact flight.passes_fail fault
  have phase : turn.outcome.flight.phase = .failed fault := by
    rw [ends]
    rfl
  exact ⟨fun learning => absurd (ends ▸ learning) (flight.not_learning_fail fault),
    by simp [silent], fun payload delay sends => by simp [sends, Action.passes] at silent,
    fun slot failed => known slot (Phase.failed.inj (phase.symm.trans failed))⟩

theorem goesOn_of_breakOff {node : Option String} {why : FrameFault}
    (ends : turn.outcome.toStep = flight.breakOff node why) : turn.GoesOn := by
  unfold InFlight.breakOff at ends
  generalize caused : Fault.protocol _ = fault at ends
  have acts : turn.action = .dropBackend fault.reply := congrArg Step.action ends
  have phase : turn.outcome.flight.phase = .failed fault := by rw [ends]
  exact ⟨by simp [ends, Step.Learning], by simp [acts, Action.passes], by simp [acts],
    by simp [phase, ← caused]⟩

/-- A step for a dump that does not accept it and waits for one still. -/
theorem goesOn_of_bootstrapping {node next : String} {others more : List String}
    (awaited : turn.flight.phase = .bootstrapping node others)
    (silent : turn.action.passes = false)
    (phase : turn.outcome.flight.phase = .bootstrapping next more) : turn.GoesOn :=
  ⟨fun _ => ⟨node, others, awaited⟩, by simp [silent],
    fun payload delay sends => by simp [sends, Action.passes] at silent, by simp [phase]⟩

theorem goesOn_of_await {attempt : Attempt} (ends : turn.outcome.toStep = flight.await attempt) :
    turn.GoesOn := by
  have acts : turn.action = .needMore := congrArg Step.action ends
  have phase : turn.outcome.flight.phase = .awaitingReply attempt := by
    rw [ends]
    rfl
  exact ⟨by simp [ends, Step.Learning, InFlight.await], by simp [acts, Action.passes],
    by simp [acts], by simp [phase]⟩

theorem goesOn_of_forward {reply : Bytes} (due : turn.due = .reply)
    (ends : turn.outcome.toStep = ⟨.forward reply, { flight with phase := .done }⟩) :
    turn.GoesOn := by
  have acts : turn.action = .forward reply := congrArg Step.action ends
  have phase : turn.outcome.flight.phase = .done := by rw [ends]
  exact ⟨by simp [ends, Step.Learning], fun _ => due, by simp [acts], by simp [phase]⟩

/-- A redirect leaves the node open only if the request was sent to any node. -/
theorem goesOn_of_redirect {attempt : Attempt} {node : Option String} {delay : Option Nat}
    {asking : Bool} (due : turn.due = .reply)
    (attempted : turn.flight.phase.attempt? = some attempt)
    (named : node = none → attempt.node = none)
    (ends : turn.outcome.toStep = flight.redirect node delay asking) : turn.GoesOn := by
  rcases InFlight.redirect_cases flight node delay asking with ⟨_, redirected⟩ | ⟨_, redirected⟩
  · exact goesOn_of_fail (ends.trans redirected) (by simp)
  · rw [redirected] at ends
    generalize { flight with redirects := flight.redirects + 1 } = counted at ends
    cases known : counted.request with
    | none => exact goesOn_of_fail (ends.trans (InFlight.dispatch_of_unread known ..)) (by simp)
    | some request =>
      rw [InFlight.dispatch_eq known] at ends
      have acts : turn.action = .dispatch node _ delay := congrArg Step.action ends
      have phase : turn.outcome.flight.phase =
          .dispatching ⟨node, asking, if asking then .pending else .settled⟩ := by rw [ends]
      refine ⟨by simp [ends, Step.Learning], fun _ => due, fun payload delay sends => ?_,
        by simp [phase]⟩
      rw [acts] at sends
      exact ⟨attempt, attempted, named (Action.dispatch.inj sends).1⟩

end Turn

/-! ## Every step -/

theorem InFlight.Heard.goesOn {turn : Turn} {flight : InFlight} {attempt now : Attempt}
    {store : Store} {backend : Decoder} {outcome : Outcome} (due : turn.due = .reply)
    (attempted : turn.flight.phase.attempt? = some attempt) (named : now.node = attempt.node)
    (answered : now.ack = attempt.ack ∨ ∃ answer, now.ack = ackOf answer)
    (heard : Heard flight now store backend outcome) (taken : turn.outcome = outcome) :
    turn.GoesOn := by
  have ends := congrArg Outcome.toStep taken
  cases heard with
  | waits => exact Turn.goesOn_of_await ends
  | breaks => exact Turn.goesOn_of_breakOff ends
  | @refused reply rest fault given ack =>
    refine Turn.goesOn_of_fail ends ?_
    rintro slot rfl
    rcases answered with same | ⟨answer, acked⟩
    · exact .inr ⟨due, attempt, attempted, same.symm.trans ack⟩
    · obtain ⟨what, other⟩ := protocol_of_ackOf (acked.symm.trans ack)
      cases other
  | malformed given kept unread =>
    exact Turn.goesOn_of_fail ends fun slot same =>
      absurd same (Reading.not_uncovered_of_ofFrame unread slot)
  | @settled reply rest reading given kept read =>
    rcases settle_cases flight now reply reading with
      ⟨_, settled⟩ | ⟨_, node, delay, asking, settled, still⟩
    · exact Turn.goesOn_of_forward due (ends.trans settled)
    · exact Turn.goesOn_of_redirect due attempted (fun unnamed => named ▸ still unnamed)
        (ends.trans settled)

/-- Every step takes one of the ways. -/
theorem Turn.way (turn : Turn) : turn.Way := by
  obtain ⟨flight, due, store, backend⟩ := turn
  cases due with
  | start =>
    have taken : (⟨flight, .start, store, backend⟩ : Turn).outcome.toStep = flight.start store :=
      rfl
    cases phase : flight.phase with
    | classified =>
      refine .routes (.refl flight) (.inl ⟨rfl, rfl⟩) ?_
      rw [taken, InFlight.start, phase]
      exact InFlight.routes flight store
    | failed fault =>
      rw [InFlight.start, phase] at taken
      refine .goesOn (goesOn_of_fail taken fun slot same => .inl ⟨rfl, ?_⟩)
      rw [phase, same]
    | _ =>
      rw [InFlight.start, phase] at taken
      exact .goesOn (goesOn_of_fail taken (by simp))
  | reply =>
    cases attempted : flight.phase.attempt? with
    | none =>
      have taken : (⟨flight, .reply, store, backend⟩ : Turn).outcome.toStep =
          flight.misuse "on_reply" := by
        simp [outcome, InFlight.take, InFlight.onReply, attempted]
      exact .goesOn (goesOn_of_fail taken (by simp))
    | some attempt =>
      obtain ⟨answered, rest, answer, heard⟩ := (InFlight.replied attempted store backend).heard
      refine .goesOn (heard.goesOn rfl attempted ?_ ?_ rfl)
      · rcases answer with rfl | ⟨answer, rfl⟩ <;> rfl
      · rcases answer with rfl | ⟨answer, rfl⟩
        · exact .inl rfl
        · exact .inr ⟨answer, rfl⟩
  | dump =>
    cases phase : flight.phase with
    | bootstrapping node others =>
      have taken : (⟨flight, .dump, store, backend⟩ : Turn).outcome =
        flight.onTopology store backend := rfl
      have informed := InFlight.informed phase store backend
      generalize flight.onTopology store backend = outcome at taken informed
      have ends := congrArg Outcome.toStep taken
      cases informed with
      | waits =>
        exact .goesOn (goesOn_of_bootstrapping phase
          (congrArg (fun step => step.action.passes) ends)
          ((congrArg (fun step => step.flight.phase) ends).trans phase))
      | breaks => exact .goesOn (goesOn_of_breakOff ends)
      | failsOver =>
        exact .goesOn (goesOn_of_bootstrapping phase
          (congrArg (fun step => step.action.passes) ends)
          (congrArg (fun step => step.flight.phase) ends))
      | givesUp given unusable =>
        exact .goesOn (goesOn_of_fail ends fun slot same =>
          absurd same (InFlight.not_uncovered_of_learned unusable slot))
      | @learns reply rest written given learned =>
        have learns : (⟨flight, .dump, store, backend⟩ : Turn).learns = true := by
          simp [Turn.learns, phase, given, learned, Except.isOk, Except.toBool]
        have counted : flight.Kept { flight with bootstraps := flight.bootstraps + 1 } :=
          ⟨rfl, rfl, rfl⟩
        refine .routes counted (.inr learns) ?_
        rw [taken]
        exact InFlight.routes _ written
    | _ =>
      have taken : (⟨flight, .dump, store, backend⟩ : Turn).outcome.toStep =
          flight.misuse "on_topology" := by
        simp [outcome, InFlight.take, InFlight.onTopology, phase]
      exact .goesOn (goesOn_of_fail taken (by simp))

end ClusterProxy
