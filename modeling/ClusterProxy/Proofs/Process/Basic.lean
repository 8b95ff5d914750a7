import ClusterProxy.Proofs.Router.Tally
import ClusterProxy.Proofs.Topology.History

/-!
# All requests of a process

A `Process` is one store with all requests that are on their way over it and all connections that
are read for them. Any number of routers take requests off connections, since a router is its
settings. Every request and every connection belongs to one cluster.

What happens is a list of events, in any order: calls for requests, and accesses to the store that
go past all requests. `Process.step` says what an event changes, and reports what it gives back.
`Process.log` is what a list of events gives back, `Process.turns` are the steps that are taken for
requests on the way.
-/

namespace ClusterProxy

/-- The name of a request or of a connection: the cluster that it belongs to, and a number. -/
structure Name where
  cluster : String
  number : Nat
deriving DecidableEq, Repr

/-- A store, the requests that are on their way over it, and the connections. -/
structure Process where
  store : Store
  flights : Name → Option InFlight
  connections : Name → Decoder

/-- Something that happens in a process.

* `opens`: a router opens a connection.
* `arrives`: bytes arrive on a connection.
* `accepts`: a router takes a request off a connection.
* `calls`: a step is taken for a request, with what is there on a connection of its cluster.
* `accesses`: the store is read or written.
* `interprets`: a reply is read that belongs to no request, and the store heeds it. -/
inductive Event where
  | opens (router : Router) (connection : Name)
  | arrives (connection : Name) (bytes : Bytes)
  | accepts (router : Router) (connection : Name) (request : Nat)
  | calls (due : Due) (request : Name) (connection : Nat)
  | accesses (access : Store.Access)
  | interprets (cluster : String) (frame : Frame) (buffer : Bytes)
deriving DecidableEq, Repr

/-- What an event gives back. -/
inductive Report where
  | done
  | accepted (taken : Verdict InFlight)
  /-- There is no request of that name. -/
  | unknown
  | stepped (step : Step)
  | replaced (summary : Except Fault Dump.Summary)
  | owner (address : Option String)
  | nodes (addresses : List String)
  | covered (count : Nat)
  | needsBootstrap (needed : Bool)
  | interpreted (reading : Except Fault Reading)

namespace Store

/-- The cluster that an access names. -/
def Access.cluster : Access → String
  | .write (.replace cluster _ _) => cluster
  | .write (.patch cluster _ _) => cluster
  | .owner cluster _ => cluster
  | .nodes cluster => cluster
  | .covered cluster => cluster
  | .needsBootstrap cluster => cluster

/-- What an access gives back. -/
def report (store : Store) : Access → Report
  | .write (.replace cluster dump origin) =>
    .replaced ((store.replace cluster dump origin).map Prod.fst)
  | .write (.patch _ _ _) => .done
  | .owner cluster slot => .owner (store.owner cluster slot)
  | .nodes cluster => .nodes (store.nodes cluster)
  | .covered cluster => .covered (store.covered cluster)
  | .needsBootstrap cluster => .needsBootstrap (store.needsBootstrap cluster)

end Store

/-- The cluster that an event belongs to. -/
def Event.cluster : Event → String
  | opens _ connection => connection.cluster
  | arrives connection _ => connection.cluster
  | accepts _ connection _ => connection.cluster
  | calls _ request _ => request.cluster
  | accesses access => access.cluster
  | interprets cluster _ _ => cluster

namespace Process

/-- A process without requests. -/
def start (store : Store) (connections : Name → Decoder) : Process :=
  ⟨store, fun _ => none, connections⟩

/-- Sets the store. -/
def keep (process : Process) (store : Store) : Process := { process with store }

/-- Sets what is there on a connection. -/
def connect (process : Process) (name : Name) (decoder : Decoder) : Process :=
  { process with connections := Function.update process.connections name decoder }

/-- Sets a request. -/
def hold (process : Process) (name : Name) (flight : InFlight) : Process :=
  { process with flights := Function.update process.flights name (some flight) }

/-- The step that is taken for a request: what it is taken with. -/
def turn (process : Process) (flight : InFlight) (due : Due) (connection : Name) : Turn :=
  ⟨flight, due, process.store, process.connections connection⟩

/-- Sets a request that was taken off a connection, if one was. -/
def receive (process : Process) (name : Name) : Verdict InFlight → Process
  | .complete flight => process.hold name flight
  | _ => process

/-- Takes a step for a request. -/
def call (process : Process) (due : Due) (request connection : Name) : Report × Process :=
  match process.flights request with
  | none => (.unknown, process)
  | some flight =>
    let outcome := (process.turn flight due connection).outcome
    (.stepped outcome.toStep,
      ((process.connect connection outcome.backend).hold request outcome.flight).keep outcome.store)

/-- Reads a reply, and lets the store heed it. -/
def interpret (process : Process) (cluster : String) (frame : Frame) (buffer : Bytes) :
    Report × Process :=
  match Reading.ofFrame frame buffer with
  | .error fault => (.interpreted (.error fault), process)
  | .ok reading =>
    (.interpreted (.ok reading), process.keep (process.store.heed cluster reading))

/-- What an event gives back, and the process after it. -/
def step (process : Process) : Event → Report × Process
  | .opens router connection => (.done, process.connect connection router.decoder)
  | .arrives connection bytes =>
    (.done, process.connect connection ((process.connections connection).append bytes))
  | .accepts router connection request =>
    let (taken, left) := router.accept connection.cluster (process.connections connection)
    (.accepted taken, (process.connect connection left).receive ⟨connection.cluster, request⟩ taken)
  | .calls due request connection => process.call due request ⟨request.cluster, connection⟩
  | .accesses access => (process.store.report access, process.keep (process.store.access access))
  | .interprets cluster frame buffer => process.interpret cluster frame buffer

/-- The process after some events. -/
def after (process : Process) (events : List Event) : Process :=
  events.foldl (fun process event => (process.step event).2) process

/-- Some events, with what each gives back. -/
def log (process : Process) : List Event → List (Event × Report)
  | [] => []
  | event :: events => (event, (process.step event).1) :: (process.step event).2.log events

/-- The step that an event takes for a request. -/
def turn? (process : Process) : Event → Option Turn
  | .calls due request number =>
    (process.flights request).map fun flight => process.turn flight due ⟨request.cluster, number⟩
  | _ => none

/-- The steps that are taken for requests in some events, the first one in front. -/
def turns (process : Process) : List Event → List Turn
  | [] => []
  | event :: events => (process.turn? event).toList ++ (process.step event).2.turns events

/-! ## What an event changes -/

/-- Where a request comes from that is there after an event.

* `held`: it was there before.
* `accepted`: a router took it off a connection.
* `stepped`: a step was taken for it. -/
inductive Source (process : Process) (event : Event) (name : Name) (flight : InFlight) : Prop where
  | held : process.flights name = some flight → Source process event name flight
  | accepted {router : Router} {connection : Name} {request : Nat} :
      event = .accepts router connection request → name = ⟨connection.cluster, request⟩ →
      (router.accept connection.cluster (process.connections connection)).1 = .complete flight →
      Source process event name flight
  | stepped {turn : Turn} : process.turn? event = some turn →
      process.flights name = some turn.flight → turn.outcome.flight = flight →
      Source process event name flight

/-- What the store is after an event.

* `same`: what it was.
* `stepped`: what the step leaves that is taken for a request.
* `accessed`: what the access makes of it.
* `heeded`: what it learns from a reply that belongs to no request. -/
inductive Stored (process : Process) (event : Event) : Store → Prop where
  | same : Stored process event process.store
  | stepped {turn : Turn} : process.turn? event = some turn →
      Stored process event turn.outcome.store
  | accessed {access : Store.Access} : event = .accesses access →
      Stored process event (process.store.access access)
  | heeded {cluster : String} {frame : Frame} {buffer : Bytes} {reading : Reading} :
      event = .interprets cluster frame buffer →
      Stored process event (process.store.heed cluster reading)

variable {process : Process}

theorem flights_hold (name other : Name) (flight : InFlight) :
    (process.hold name flight).flights other =
      if other = name then some flight else process.flights other :=
  Function.update_apply ..

theorem turn?_calls {due : Due} {request : Name} {number : Nat} {flight : InFlight}
    (held : process.flights request = some flight) :
    process.turn? (.calls due request number) =
      some (process.turn flight due ⟨request.cluster, number⟩) := by
  simp [turn?, held]

theorem source_of_step {event : Event} {name : Name} {flight : InFlight}
    (held : (process.step event).2.flights name = some flight) :
    process.Source event name flight := by
  cases event with
  | accepts router connection request =>
    change (Process.receive _ _ (router.accept _ _).1).flights name = _ at held
    cases taken : (router.accept connection.cluster (process.connections connection)).1 with
    | complete fresh =>
      rw [taken, receive, flights_hold] at held
      split at held
      · next here =>
        obtain rfl := Option.some.inj held
        exact .accepted rfl here taken
      · exact .held held
    | _ =>
      rw [taken] at held
      exact .held held
  | calls due request number =>
    change (process.call due request ⟨request.cluster, number⟩).2.flights name = _ at held
    unfold call at held
    cases found : process.flights request with
    | none =>
      rw [found] at held
      exact .held held
    | some before =>
      rw [found] at held
      dsimp only [keep] at held
      rw [flights_hold] at held
      split at held
      · next here =>
        exact .stepped (turn?_calls found) (here ▸ found) (Option.some.inj held)
      · exact .held held
  | interprets cluster frame buffer =>
    change (process.interpret cluster frame buffer).2.flights name = _ at held
    unfold interpret at held
    split at held
    · exact .held held
    · exact .held held
  | _ => exact .held held

theorem stored_of_step (event : Event) : process.Stored event (process.step event).2.store := by
  cases event with
  | accepts router connection request =>
    change process.Stored _ (Process.receive _ _ (router.accept _ _).1).store
    cases (router.accept connection.cluster (process.connections connection)).1 with
    | _ => exact .same
  | calls due request number =>
    change process.Stored _ (process.call due request ⟨request.cluster, number⟩).2.store
    unfold call
    cases found : process.flights request with
    | none => exact .same
    | some flight => exact .stepped (turn?_calls found)
  | accesses access => exact .accessed rfl
  | interprets cluster frame buffer =>
    change process.Stored _ (process.interpret cluster frame buffer).2.store
    unfold interpret
    split
    · exact .same
    · exact .heeded rfl
  | _ => exact .same

/-! ## Requests under their clusters -/

/-- The requests are held under the clusters that they belong to. -/
def Placed (process : Process) : Prop :=
  ∀ name flight, process.flights name = some flight → flight.cluster = name.cluster

theorem placed_start (store : Store) (connections : Name → Decoder) :
    (start store connections).Placed := fun _ _ held => nomatch held

/-- A request stays under its cluster. -/
theorem Placed.step (placed : process.Placed) (event : Event) : (process.step event).2.Placed := by
  intro name flight held
  cases source_of_step held with
  | held before => exact placed name flight before
  | accepted _ here taken => exact here ▸ (Router.tally_accept taken).1
  | stepped _ before after =>
    rw [← after, (Turn.follows _).kept.cluster]
    exact placed name _ before

end Process

end ClusterProxy
