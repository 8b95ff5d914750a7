import ClusterProxy.Proofs.Process.Basic

/-!
# Clusters do not influence one another

A cluster sees its own table, its own requests and its own connections (`Process.view`). An event
of another cluster changes nothing of that (`Process.view_step_of_ne`), and what an event of the
cluster gives back and changes is a matter of the view alone (`Process.step_congr`). So the cluster
cannot tell whether the other clusters are there (`Process.isolated`).
-/

namespace ClusterProxy

/-! ## What steps for requests depend on -/

namespace Store

variable {store one other : Store} {cluster : String}

theorem table_heed_congr (same : one.table cluster = other.table cluster) (reading : Reading) :
    (one.heed cluster reading).table cluster = (other.heed cluster reading).table cluster := by
  cases reading with
  | moved slot address => simp [heed, patch, table_put, same]
  | _ => exact same

theorem table_heed_of_ne {name : String} (elsewhere : name ≠ cluster) (reading : Reading) :
    (store.heed name reading).table cluster = store.table cluster := by
  cases reading with
  | moved slot address => rw [heed, patch, table_put, if_neg elsewhere.symm]
  | _ => rfl

theorem table_access_of_ne {access : Access} (elsewhere : access.cluster ≠ cluster) :
    (store.access access).table cluster = store.table cluster := by
  have untouched : access.alters cluster = false := by
    cases access with
    | write write =>
      cases write with
      | replace name dump origin => exact decide_eq_false fun here => elsewhere here.1
      | patch name slot address => exact decide_eq_false fun here => elsewhere here.1
    | _ => rfl
  rw [table_access, Table.after_of_not_alters untouched]

/-- What an access gives back is a matter of the table that it names. -/
theorem report_congr {access : Access}
    (same : one.table access.cluster = other.table access.cluster) :
    one.report access = other.report access := by
  cases access with
  | write write =>
    cases write with
    | replace name dump origin =>
      dsimp only [report, replace]
      cases Dump.table? dump origin with
      | none => rfl
      | some table => rfl
    | patch name slot address => rfl
  | owner name slot => exact congrArg (fun table => Report.owner (table.owner slot)) same
  | nodes name => exact congrArg (fun table => Report.nodes table.nodes) same
  | covered name => exact congrArg (fun table => Report.covered table.covered) same
  | needsBootstrap name => exact congrArg (fun table => Report.needsBootstrap !table.populated) same

end Store

/-- Two outcomes that are the same as far as a cluster goes. -/
structure Outcome.SameFor (cluster : String) (one other : Outcome) : Prop where
  step : one.toStep = other.toStep
  backend : one.backend = other.backend
  table : one.store.table cluster = other.store.table cluster

namespace InFlight

variable {flight : InFlight} {one other : Store}
  (same : one.table flight.cluster = other.table flight.cluster)
include same

theorem bootstrap_congr : flight.bootstrap one = flight.bootstrap other := by
  simp only [bootstrap, candidates, Store.nodes, same]

theorem route_congr : flight.route one = flight.route other := by
  have needs : one.needsBootstrap flight.cluster = other.needsBootstrap flight.cluster := by
    rw [Store.needsBootstrap, Store.needsBootstrap, same]
  have owns : one.owner flight.cluster = other.owner flight.cluster := by
    funext slot
    rw [Store.owner, Store.owner, same]
  unfold route
  rw [bootstrap_congr same, needs, owns]

theorem sameFor_refl (step : Step) (backend : Decoder) :
    Outcome.SameFor flight.cluster ⟨step, one, backend⟩ ⟨step, other, backend⟩ :=
  ⟨rfl, rfl, same⟩

theorem receive_congr (attempt : Attempt) (backend : Decoder) (reply : Decoded) :
    Outcome.SameFor flight.cluster (flight.receive attempt one backend reply)
      (flight.receive attempt other backend reply) := by
  unfold receive
  split
  · exact sameFor_refl same _ _
  · split
    · exact sameFor_refl same _ _
    · exact ⟨rfl, rfl, Store.table_heed_congr same _⟩

theorem readReply_congr (attempt : Attempt) (backend : Decoder) :
    Outcome.SameFor flight.cluster (flight.readReply attempt one backend)
      (flight.readReply attempt other backend) := by
  unfold readReply
  split
  · exact sameFor_refl same _ _
  · exact sameFor_refl same _ _
  · exact receive_congr same attempt _ _

theorem onReply_congr (backend : Decoder) :
    Outcome.SameFor flight.cluster (flight.onReply one backend) (flight.onReply other backend) := by
  unfold onReply readAck
  split
  · exact sameFor_refl same _ _
  · split
    · split
      · exact sameFor_refl same _ _
      · exact sameFor_refl same _ _
      · exact readReply_congr same _ _
    · exact readReply_congr same _ _

omit same in
/-- Whether a reply gives a dump that can be used is a matter of the reply. -/
theorem learned_congr (one other : Store) (node : String) (reply : Decoded) :
    (∃ fault, flight.learned one node reply = .error fault ∧
        flight.learned other node reply = .error fault) ∨
      ∃ written rewritten, flight.learned one node reply = .ok written ∧
        flight.learned other node reply = .ok rewritten ∧
        written.table flight.cluster = rewritten.table flight.cluster := by
  unfold learned
  cases dumpOf reply with
  | error fault => exact .inl ⟨fault, rfl, rfl⟩
  | ok dump =>
    dsimp only [Store.replace]
    cases Dump.table? dump (some node) with
    | none => exact .inl ⟨_, rfl, rfl⟩
    | some table => exact .inr ⟨_, _, rfl, rfl, by simp [Store.table_put]⟩

theorem onTopology_congr (backend : Decoder) :
    Outcome.SameFor flight.cluster (flight.onTopology one backend)
      (flight.onTopology other backend) := by
  unfold onTopology receiveDump
  split
  · next node others _ =>
    split
    · exact sameFor_refl same _ _
    · exact sameFor_refl same _ _
    · next reply rest _ =>
      rcases @learned_congr flight one other node reply with
        ⟨fault, refused, other_refused⟩ | ⟨written, rewritten, learned, other_learned, agree⟩
      · rw [refused, other_refused]
        exact sameFor_refl same _ _
      · rw [learned, other_learned]
        exact ⟨@route_congr { flight with bootstraps := flight.bootstraps + 1 } _ _ agree, rfl,
          agree⟩
  · exact sameFor_refl same _ _

/-- What a step gives, and what becomes of the cluster's table, is a matter of that table. -/
theorem take_congr (due : Due) (backend : Decoder) :
    Outcome.SameFor flight.cluster (flight.take due one backend)
      (flight.take due other backend) := by
  cases due with
  | start =>
    refine ⟨?_, rfl, same⟩
    change flight.start one = flight.start other
    unfold start
    rw [route_congr same]
  | reply => exact onReply_congr same backend
  | dump => exact onTopology_congr same backend

end InFlight

/-- A step writes to no other cluster. -/
theorem Turn.table_outcome_of_ne {turn : Turn} {cluster : String}
    (other : turn.flight.cluster ≠ cluster) :
    turn.outcome.store.table cluster = turn.store.table cluster := by
  cases turn.writes with
  | nothing _ same => rw [same]
  | slot _ patched => rw [patched, Store.patch, Store.table_put, if_neg other.symm]
  | table _ replaced =>
    obtain ⟨table, _, _, written⟩ := Store.replace_eq_ok_iff.1 replaced
    rw [written, Store.table_put, if_neg other.symm]

/-! ## What a cluster sees -/

namespace Name

variable {α : Type} {cluster : String} {held kept : Name → α} {name : Name}

/-- Those of one cluster, by their numbers. -/
def among (cluster : String) (held : Name → α) (number : Nat) : α := held ⟨cluster, number⟩

theorem among_update_of_ne (elsewhere : name.cluster ≠ cluster) (value : α) :
    among cluster (Function.update held name value) = among cluster held := by
  funext number
  refine Function.update_of_ne ?_ value held
  rintro rfl
  exact elsewhere rfl

theorem among_update_congr (same : among cluster held = among cluster kept) (value : α) :
    among cluster (Function.update held name value) =
      among cluster (Function.update kept name value) := by
  funext number
  simp only [among, Function.update_apply]
  split
  · rfl
  · exact congrFun same number

end Name

/-- What there is of one cluster: its table, its requests and its connections. -/
structure View where
  table : Table
  flights : Nat → Option InFlight
  connections : Nat → Decoder

namespace Process

/-- What a cluster sees of a process. -/
def view (process : Process) (cluster : String) : View where
  table := process.store.table cluster
  flights := Name.among cluster process.flights
  connections := Name.among cluster process.connections

variable (process : Process) (cluster : String)

theorem view_keep (store : Store) :
    (process.keep store).view cluster =
      { process.view cluster with table := store.table cluster } := rfl

theorem view_connect (name : Name) (decoder : Decoder) :
    (process.connect name decoder).view cluster =
      { process.view cluster with
        connections := Name.among cluster (Function.update process.connections name decoder) } :=
  rfl

theorem view_hold (name : Name) (flight : InFlight) :
    (process.hold name flight).view cluster =
      { process.view cluster with
        flights := Name.among cluster (Function.update process.flights name (some flight)) } :=
  rfl

variable {process cluster} {one other : Process}

/-- Setting something of another cluster changes nothing that the cluster sees. -/
theorem view_connect_of_ne {name : Name} (elsewhere : name.cluster ≠ cluster) (decoder : Decoder) :
    (process.connect name decoder).view cluster = process.view cluster := by
  rw [view_connect, Name.among_update_of_ne elsewhere]
  rfl

theorem view_hold_of_ne {name : Name} (elsewhere : name.cluster ≠ cluster) (flight : InFlight) :
    (process.hold name flight).view cluster = process.view cluster := by
  rw [view_hold, Name.among_update_of_ne elsewhere]
  rfl

theorem view_receive_of_ne {name : Name} (elsewhere : name.cluster ≠ cluster)
    (taken : Verdict InFlight) :
    (process.receive name taken).view cluster = process.view cluster := by
  cases taken with
  | complete flight => exact view_hold_of_ne elsewhere flight
  | _ => rfl

theorem view_keep_of_eq {store : Store} (kept : store.table cluster = process.store.table cluster) :
    (process.keep store).view cluster = process.view cluster := by
  rw [view_keep, kept]
  rfl

section Same

variable (same : one.view cluster = other.view cluster)
include same

theorem view_connect_congr (name : Name) (decoder : Decoder) :
    (one.connect name decoder).view cluster = (other.connect name decoder).view cluster := by
  rw [view_connect, view_connect, same, Name.among_update_congr (congrArg View.connections same)]

theorem view_hold_congr (name : Name) (flight : InFlight) :
    (one.hold name flight).view cluster = (other.hold name flight).view cluster := by
  rw [view_hold, view_hold, same, Name.among_update_congr (congrArg View.flights same)]

theorem view_receive_congr (name : Name) (taken : Verdict InFlight) :
    (one.receive name taken).view cluster = (other.receive name taken).view cluster := by
  cases taken with
  | complete flight => exact view_hold_congr same name flight
  | _ => exact same

theorem view_keep_congr {store rewritten : Store}
    (table : store.table cluster = rewritten.table cluster) :
    (one.keep store).view cluster = (other.keep rewritten).view cluster := by
  rw [view_keep, view_keep, same, table]

end Same

/-! ## One event -/

/-- A call for a request of the cluster gives back and changes the same. -/
theorem call_congr (placed : one.Placed) {request connection : Name} {due : Due}
    (same : one.view request.cluster = other.view request.cluster)
    (own : connection.cluster = request.cluster) :
    (one.call due request connection).1 = (other.call due request connection).1 ∧
      (one.call due request connection).2.view request.cluster =
        (other.call due request connection).2.view request.cluster := by
  have flights : one.flights request = other.flights request :=
    congrFun (congrArg View.flights same) request.number
  have connections : one.connections connection = other.connections connection := by
    rw [← own] at same
    exact congrFun (congrArg View.connections same) connection.number
  unfold call
  rw [← flights]
  cases held : one.flights request with
  | none => exact ⟨rfl, same⟩
  | some flight =>
    have table : one.store.table flight.cluster = other.store.table flight.cluster := by
      rw [placed request flight held]
      exact congrArg View.table same
    obtain ⟨step, backend, written⟩ :=
      flight.take_congr table due (one.connections connection)
    rw [placed request flight held] at written
    dsimp only [turn, Turn.outcome]
    rw [← connections, ← step, ← backend]
    exact ⟨rfl, view_keep_congr (view_hold_congr (view_connect_congr same _ _) _ _) written⟩

/-- An event of another cluster changes nothing that the cluster sees. -/
theorem view_step_of_ne (placed : process.Placed) {event : Event}
    (elsewhere : event.cluster ≠ cluster) :
    (process.step event).2.view cluster = process.view cluster := by
  cases event with
  | opens router connection => exact view_connect_of_ne elsewhere _
  | arrives connection bytes => exact view_connect_of_ne elsewhere _
  | accepts router connection request =>
    change (Process.receive _ _ (router.accept _ _).1).view cluster = _
    have away : (⟨connection.cluster, request⟩ : Name).cluster ≠ cluster := elsewhere
    rw [view_receive_of_ne away]
    exact view_connect_of_ne elsewhere _
  | calls due request number =>
    change (process.call due request ⟨request.cluster, number⟩).2.view cluster = _
    unfold call
    cases held : process.flights request with
    | none => rfl
    | some flight =>
      have away : flight.cluster ≠ cluster := placed request flight held ▸ elsewhere
      rw [view_keep_of_eq (Turn.table_outcome_of_ne away), view_hold_of_ne elsewhere]
      exact @view_connect_of_ne process cluster ⟨request.cluster, number⟩ elsewhere _
  | accesses access => exact view_keep_of_eq (Store.table_access_of_ne elsewhere)
  | interprets name frame buffer =>
    change (process.interpret name frame buffer).2.view cluster = _
    unfold interpret
    cases Reading.ofFrame frame buffer with
    | error fault => rfl
    | ok reading => exact view_keep_of_eq (Store.table_heed_of_ne elsewhere reading)

/-- What an event of the cluster gives back, and what it changes, is a matter of what the cluster
sees. -/
theorem step_congr (placed : one.Placed) {event : Event}
    (same : one.view event.cluster = other.view event.cluster) :
    (one.step event).1 = (other.step event).1 ∧
      (one.step event).2.view event.cluster = (other.step event).2.view event.cluster := by
  have connections (number : Nat) : one.connections ⟨event.cluster, number⟩ =
      other.connections ⟨event.cluster, number⟩ := congrFun (congrArg View.connections same) number
  have flights (number : Nat) : one.flights ⟨event.cluster, number⟩ =
      other.flights ⟨event.cluster, number⟩ := congrFun (congrArg View.flights same) number
  have table : one.store.table event.cluster = other.store.table event.cluster :=
    congrArg View.table same
  cases event with
  | opens router connection => exact ⟨rfl, view_connect_congr same _ _⟩
  | arrives connection bytes =>
    have here : one.connections connection = other.connections connection :=
      connections connection.number
    refine ⟨rfl, ?_⟩
    simp only [step, here]
    exact view_connect_congr same _ _
  | accepts router connection request =>
    have here : one.connections connection = other.connections connection :=
      connections connection.number
    simp only [step, here, true_and]
    exact view_receive_congr (view_connect_congr same _ _) _ _
  | calls due request number =>
    exact call_congr placed same rfl
  | accesses access =>
    refine ⟨Store.report_congr table, view_keep_congr same ?_⟩
    rw [Store.table_access, Store.table_access, table]
  | interprets name frame buffer =>
    simp only [step, interpret]
    cases Reading.ofFrame frame buffer with
    | error fault => exact ⟨rfl, same⟩
    | ok reading => exact ⟨rfl, view_keep_congr same (Store.table_heed_congr table reading)⟩

/-! ## Any events -/

/-- The events that belong to a cluster. -/
def own (cluster : String) (events : List Event) : List Event :=
  events.filter fun event => event.cluster = cluster

/-- A process in which everything happens gives the cluster the same as one that the cluster has for
itself. -/
theorem run_own (placed : one.Placed) (same : one.view cluster = other.view cluster)
    (events : List Event) :
    (one.log events).filter (fun entry => entry.1.cluster = cluster) =
        other.log (own cluster events) ∧
      (one.after events).view cluster = (other.after (own cluster events)).view cluster := by
  induction events generalizing one other with
  | nil => exact ⟨rfl, same⟩
  | cons event events ih =>
    have still := placed.step event
    by_cases here : event.cluster = cluster
    · -- Both processes take the event.
      subst here
      obtain ⟨reports, views⟩ := step_congr placed same
      obtain ⟨logs, ends⟩ := ih still views
      have kept : own event.cluster (event :: events) = event :: own event.cluster events :=
        List.filter_cons_of_pos (by simp)
      rw [kept, log, log, List.filter_cons_of_pos (by simp), logs, reports]
      exact ⟨rfl, ends⟩
    · -- Only the first process takes it, and the cluster does not see that.
      obtain ⟨logs, ends⟩ := ih still ((view_step_of_ne placed here).trans same)
      have left : own cluster (event :: events) = own cluster events :=
        List.filter_cons_of_neg (by simpa using here)
      rw [left, log, List.filter_cons_of_neg (by simpa using here)]
      exact ⟨logs, ends⟩

/-- Clusters do not influence one another. Whatever happens in a process, each cluster gets from it
the same as if all that belongs to the other clusters had not happened:

* the same reports: what its requests do and become, and what is read of its table on the way;
* at any time the same owner of each slot, the same nodes, the same number of covered slots and the
  same need of a bootstrap;
* the same requests, and the same left on its connections. -/
theorem isolated (store : Store) (connections : Name → Decoder) (events : List Event)
    (cluster : String) :
    let process := start store connections
    let whole := process.after events
    let alone := process.after (own cluster events)
    (process.log events).filter (fun entry => entry.1.cluster = cluster) =
        process.log (own cluster events) ∧
      (∀ slot, whole.store.owner cluster slot = alone.store.owner cluster slot) ∧
      whole.store.nodes cluster = alone.store.nodes cluster ∧
      whole.store.covered cluster = alone.store.covered cluster ∧
      whole.store.needsBootstrap cluster = alone.store.needsBootstrap cluster ∧
      (∀ number, whole.flights ⟨cluster, number⟩ = alone.flights ⟨cluster, number⟩) ∧
      ∀ number, whole.connections ⟨cluster, number⟩ = alone.connections ⟨cluster, number⟩ := by
  intro process whole alone
  obtain ⟨logs, ends⟩ := run_own (placed_start store connections) rfl events
  have table : whole.store.table cluster = alone.store.table cluster := congrArg View.table ends
  refine ⟨logs, fun slot => congrArg (fun table => table.owner slot) table,
    congrArg Table.nodes table, congrArg Table.covered table,
    congrArg (fun table : Table => !table.populated) table,
    congrFun (congrArg View.flights ends), congrFun (congrArg View.connections ends)⟩

end Process

end ClusterProxy
