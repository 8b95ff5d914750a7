import ClusterProxy.Proofs.Router.Tally

/-!
# Every request ends in one reply

A run of a request is `Run.Orderly`: the request is sent once more than it is redirected and not
more often than the settings allow, each node is asked for a dump at most once and in the order in
which the nodes are listed, at most one dump is accepted, and the run ends with one reply, which is
one frame. `Run.orderly` says so of all runs of a request that a router accepted.
-/

namespace ClusterProxy

/-! ## The nodes that can be asked -/

/-- The nodes that the store knows come first, then the seeds that are not among them. -/
theorem InFlight.candidates_eq (flight : InFlight) (store : Store) :
    flight.candidates store = store.nodes flight.cluster ++
      (flight.settings.seeds.filter fun seed =>
        !(store.nodes flight.cluster).contains seed).eraseDups := by
  unfold candidates
  generalize store.nodes flight.cluster = nodes
  -- The induction is on the seeds, for any list of nodes that they are added to.
  induction flight.settings.seeds generalizing nodes with
  | nil => simp
  | cons seed seeds ih =>
    rw [List.foldl_cons]
    by_cases known : nodes.contains seed
    · rw [if_pos known, ih, List.filter_cons_of_neg (by simpa using known)]
    · rw [if_neg known, ih, List.filter_cons_of_pos (by simpa using known), List.eraseDups_cons,
        List.filter_filter, List.append_assoc, List.singleton_append]
      congr 3
      refine List.filter_congr fun other _ => ?_
      simp [Bool.and_comm, beq_eq_decide]

theorem InFlight.nodup_candidates (flight : InFlight) {store : Store} (sound : store.Sound) :
    (flight.candidates store).Nodup := by
  have distinct := (sound flight.cluster).distinct
  unfold candidates
  change (store.nodes flight.cluster).Nodup at distinct
  generalize store.nodes flight.cluster = nodes at distinct
  induction flight.settings.seeds generalizing nodes with
  | nil => exact distinct
  | cons seed seeds ih =>
    rw [List.foldl_cons]
    split
    · exact ih nodes distinct
    · next unknown =>
      refine ih _ (List.nodup_append.2 ⟨distinct, List.nodup_singleton _, ?_⟩)
      rintro node listed _ added rfl
      rw [List.contains_eq_mem, decide_eq_true_eq] at unknown
      exact unknown (List.mem_singleton.1 added ▸ listed)

/-! ## What every run comes to -/

/-- A step that gives no reply is followed by another one. -/
theorem Turn.Proper.next?_eq_none_iff {turn : Turn} (proper : turn.Proper) :
    turn.next? = none ↔ turn.replies?.isSome := by
  have stays := proper.stays
  unfold next? replies?
  cases acts : turn.action <;> simp_all

/-- Only the latest step of a run can give a reply. -/
theorem Run.replies?_eq_none {flight : InFlight} {turn : Turn} {before : List Turn}
    (run : Run flight turn before) (propers : ∀ past ∈ before, past.Proper) :
    ∀ past ∈ before, past.replies? = none := by
  cases run with
  | start writes backend => simp
  | @step turn before due run next writes backend =>
    have silent : turn.replies? = none := by
      have ends := (propers turn List.mem_cons_self).next?_eq_none_iff
      rw [← Option.not_isSome_iff_eq_none, ← ends, next]
      simp
    exact List.forall_mem_cons.2
      ⟨silent, run.replies?_eq_none fun past member => propers past (List.mem_cons_of_mem _ member)⟩

/-- A step that does not only wait sends the request, asks a node for a dump, or gives a reply. -/
theorem Run.moved_eq {turns : List Turn} (propers : ∀ past ∈ turns, past.Proper) :
    Run.moved turns =
      Run.sent turns + (Run.asked turns).length +
        turns.countP fun past => past.replies?.isSome := by
  induction turns with
  | nil => rfl
  | cons turn before ih =>
    have stays := (propers turn List.mem_cons_self).stays
    -- By the kind of its action, a step counts once on both sides or on neither.
    have each : (if turn.waits then 0 else 1) = (if turn.sends then 1 else 0) +
        turn.asks?.toList.length + if turn.replies?.isSome then 1 else 0 := by
      unfold Turn.waits Turn.sends Turn.asks? Turn.replies?
      cases acts : turn.action <;> simp_all
    rw [moved_cons, sent_cons, asked_cons, List.countP_cons, List.length_append,
      ih fun past member => propers past (List.mem_cons_of_mem _ member)]
    omega

theorem Run.asked_eq_nil {turns : List Turn} (unbegun : Run.asking? turns = none) :
    Run.asked turns = [] := by
  unfold asking? at unbegun
  rw [List.find?_eq_none] at unbegun
  unfold asked
  rw [List.filterMap_eq_nil_iff]
  intro turn member
  simpa using unbegun turn member

/-- A request that has not failed counts its redirects. -/
theorem Tally.redirects_eq {flight now : InFlight} {turns : List Turn}
    (tally : Tally flight turns now) (sent : 1 ≤ Run.sent turns) (alive : now.phase.fault? = none) :
    now.redirects.toNat = Run.sent turns - 1 := by
  cases tally.standing with
  | fresh _ _ _ _ untouched =>
    subst untouched
    simp [Run.sent] at sent
  | asking _ _ _ _ unsent => omega
  | sent _ _ _ balanced => omega
  | done _ balanced => omega
  | failed phase => simp [phase, Phase.fault?] at alive

/-- What holds of every run of a request, with `turn` the latest step.

* `sent`: it is sent once, and once more for each redirect that is allowed.
* `redirects`: it counts its redirects.
* `distinct`, `listed`: no node is asked for a dump twice, and the nodes are asked in order: those
  that the store knew when the first one was asked, then the seeds that are not among them.
* `learned`, `replaces`, `patches`: at most one dump is accepted, which replaces the table of the
  cluster. Every other step writes one slot of the cluster at most.
* `stays`: the connection to the client is never closed.
* `silent`, `ends`, `framed`: the run ends with a reply and with nothing else, and the reply is one
  frame.
* `waiting`: more bytes are waited for only if they are needed, and only up to the limit.
* `moved`: there are only so many steps that do not wait. -/
structure Run.Orderly (router : Router) (cluster : String) (turn : Turn) (before : List Turn) :
    Prop where
  sent : Run.sent (turn :: before) ≤ router.settings.maxRedirects.toNat + 1
  redirects : 1 ≤ Run.sent (turn :: before) → turn.outcome.flight.phase.fault? = none →
    turn.outcome.flight.redirects.toNat = Run.sent (turn :: before) - 1
  distinct : (Run.asked (turn :: before)).Nodup
  listed : Run.asked (turn :: before) = [] ∨ ∃ first, Run.asking? (turn :: before) = some first ∧
    Run.asked (turn :: before) <+: first.store.nodes cluster ++ (router.settings.seeds.filter
      fun seed => !(first.store.nodes cluster).contains seed).eraseDups
  learned : Run.learned (turn :: before) ≤ 1
  replaces : ∀ past ∈ turn :: before, past.learns = true → ∃ dump origin summary,
    past.store.replace cluster dump origin = .ok (summary, past.outcome.store)
  patches : ∀ past ∈ turn :: before, past.learns = false → past.outcome.store = past.store ∨
    ∃ slot address, past.outcome.store = past.store.patch cluster slot address
  stays : ∀ past ∈ turn :: before, past.action ≠ .close
  silent : ∀ past ∈ before, past.replies? = none
  ends : turn.next? = none ↔ turn.replies?.isSome
  framed : ∀ reply, turn.replies? = some reply → IsFrame reply
  waiting : ∀ past ∈ turn :: before, past.waits = true →
    past.outcome.backend.next.1 = .incomplete ∧
      past.outcome.backend.buffer.length ≤ past.outcome.backend.limit
  moved : Run.moved (turn :: before) ≤
    router.settings.maxRedirects.toNat + 2 + (Run.asked (turn :: before)).length

/-- Every run of every request that a router accepts is orderly, whatever nodes send and others
write to the store. -/
theorem Run.orderly {router : Router} {cluster : String} {client : Decoder} {flight : InFlight}
    {turn : Turn} {before : List Turn}
    (bounded : router.settings.maxRedirects.toNat < 4294967295)
    (accepted : (router.accept cluster client).1 = .complete flight)
    (run : Run flight turn before) : Run.Orderly router cluster turn before := by
  obtain ⟨rfl, same, fresh⟩ := Router.tally_accept accepted
  rw [← same] at bounded
  obtain ⟨tally, propers⟩ := run.tally fresh bounded
  have latest := propers turn List.mem_cons_self
  have silent := run.replies?_eq_none fun past member => propers past (.tail _ member)
  refine ⟨?_, tally.redirects_eq, ?_, ?_, tally.within.learned, ?_, ?_,
    fun past member => (propers past member).stays, silent, latest.next?_eq_none_iff,
    latest.framed, ?_, ?_⟩
  · rw [← same]
    exact tally.within.sent
  · cases began : Run.asking? (turn :: before) with
    | none =>
      rw [Run.asked_eq_nil began]
      exact List.nodup_nil
    | some first =>
      have listed : first ∈ turn :: before :=
        List.mem_reverse.1 (List.mem_of_find?_eq_some began)
      exact (flight.nodup_candidates (run.sound_of_mem first listed)).sublist
        (tally.within.asked first began).sublist
  · cases began : Run.asking? (turn :: before) with
    | none => exact .inl (Run.asked_eq_nil began)
    | some first =>
      refine .inr ⟨first, rfl, ?_⟩
      rw [← same, ← flight.candidates_eq]
      exact tally.within.asked first began
  · intro past member learns
    rw [← (run.kept past member).cluster]
    cases past.writes with
    | table _ replaced => exact ⟨_, _, _, replaced⟩
    | nothing useless => simp [useless] at learns
    | slot useless => simp [useless] at learns
  · intro past member useless
    rw [← (run.kept past member).cluster]
    cases past.writes with
    | table learns => simp [useless] at learns
    | nothing _ kept => exact .inl kept
    | slot _ patched => exact .inr ⟨_, _, patched⟩
  · intro past member waits
    have missing := (propers past member).waiting waits
    exact ⟨missing, Decoder.length_le_of_incomplete missing⟩
  · have ceiling := tally.within.sent
    rw [same] at ceiling
    -- All steps but the latest give no reply.
    have replied : (turn :: before).countP (fun past => past.replies?.isSome) ≤ 1 := by
      rw [List.countP_cons, List.countP_eq_zero.2 fun past member => by simp [silent past member]]
      split <;> omega
    rw [Run.moved_eq propers]
    omega

/-- A request that learns the cluster from a seed and is sent on once. -/
theorem Run.orderly_sample :
    Run.Sample.router.settings.maxRedirects.toNat < 4294967295 ∧
      (Run.Sample.router.accept "c" Run.Sample.client).1 = .complete Run.Sample.flight ∧
      Run Run.Sample.flight Run.Sample.serving
        [Run.Sample.moving, Run.Sample.learning, Run.Sample.asking] ∧
      Run.Orderly Run.Sample.router "c" Run.Sample.serving
        [Run.Sample.moving, Run.Sample.learning, Run.Sample.asking] :=
  ⟨by decide, Run.Sample.accepted, Run.Sample.run,
    Run.orderly (by decide) Run.Sample.accepted Run.Sample.run⟩

end ClusterProxy
