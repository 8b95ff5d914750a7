import ClusterProxy.Proofs.Address
import ClusterProxy.Proofs.Process.Basic
import ClusterProxy.Proofs.Router.Addresses
import ClusterProxy.Proofs.Router.Failover

/-!
# Nothing is sent to an address without a host

A node that does not know its own name gives its address as a port alone. In a dump this stands for
that port of the node that gave the dump. In a redirect it is taken as it stands (`Turn.Minds`), so
a redirect can lead to an address without a host (`Process.redirect_without_host`). As long as none
does, every address that a process uses has a host (`Process.hosts`): those of the seeds and the
dumps have one (`Address.HasHost`), and there are no others (`Turn.fits`).
-/

namespace ClusterProxy

open Address (HasHost IsPort)

/-- An event that is the work of a proxy: routers take requests off connections and steps are taken
for them. Nothing else writes to the store. -/
def Event.Proxied : Event → Prop
  | accepts router _ _ => ∃ settings, Router.ofSettings settings = .ok router
  | accesses (.write _) => False
  | interprets _ _ _ => False
  | _ => True

/-! ## What a step is told -/

/-- The last master of a dump with a slot in one of its ranges, which the dump gives the slot to. -/
def Dump.master? (dump : String) (slot : Nat) : Option Node :=
  (masters dump).reverse.find? fun node => node.ranges.any fun range => range.contains slot

namespace Turn

/-- Each node in the dump that the step is told gives a host with a port, or a port alone. -/
def DumpFormed (turn : Turn) : Prop :=
  ∀ dump, turn.dump? = some dump → ∀ node ∈ Dump.nodes dump,
    HasHost node.address ∨ IsPort node.address

/-- The redirect that the step is told names a host. -/
def RedirectNamed (turn : Turn) : Prop :=
  ∀ address, turn.redirect? = some address → HasHost address

instance (turn : Turn) : Decidable turn.DumpFormed :=
  inferInstanceAs (Decidable (∀ dump ∈ turn.dump?, ∀ node ∈ Dump.nodes dump,
    HasHost node.address ∨ IsPort node.address))

instance (turn : Turn) : Decidable turn.RedirectNamed :=
  inferInstanceAs (Decidable (∀ address ∈ turn.redirect?, HasHost address))

/-- What a step does with the addresses that it is told.

* `redirected`: a redirect that is followed leads to its address as it stands.
* `resolved`: a port alone in a dump stands for that port of the node that was asked for it. -/
structure Minds (turn : Turn) : Prop where
  redirected : ∀ address, turn.redirect? = some address → ∀ node payload delay,
    turn.action = .dispatch node payload delay → node = some address
  resolved : ∀ dump node others, turn.flight.phase = .bootstrapping node others →
    turn.dump? = some dump → ∀ slot master, Dump.master? dump slot = some master →
      IsPort master.address → turn.outcome.store.owner turn.flight.cluster slot =
        some (String.ofList (Dump.hostOf node.toList ++ master.address.toList))

end Turn

namespace InFlight

variable {flight : InFlight}

theorem node_of_dispatch {node named : Option String} {payload : Bytes} {delay other : Option Nat}
    {asking : Bool} (sends : (flight.dispatch node delay asking).action =
      .dispatch named payload other) : named = node := by
  unfold dispatch at sends
  split at sends
  · exact absurd sends (fail_ne_dispatch _ _ _ _ _)
  · obtain ⟨rfl, _⟩ := Action.dispatch.inj sends
    rfl

theorem node_of_redirect {node named : Option String} {payload : Bytes} {delay other : Option Nat}
    {asking : Bool} (sends : (flight.redirect node delay asking).action =
      .dispatch named payload other) : named = node := by
  rcases redirect_cases flight node delay asking with ⟨_, ends⟩ | ⟨_, ends⟩
  · rw [ends] at sends
    exact absurd sends (fail_ne_dispatch _ _ _ _ _)
  · rw [ends] at sends
    exact node_of_dispatch sends

theorem node_of_settle {attempt : Attempt} {reply : Decoded} {reading : Reading} {address : String}
    (names : reading.address? = some address) {node : Option String} {payload : Bytes}
    {delay : Option Nat}
    (sends : (flight.settle attempt reply reading).action = .dispatch node payload delay) :
    node = some address := by
  cases reading with
  | moved slot other => exact names ▸ node_of_redirect sends
  | ask slot other => exact names ▸ node_of_redirect sends
  | _ => simp [Reading.address?] at names

end InFlight

namespace Turn

variable {turn : Turn}

theorem attempt_of_reading? {reading : Reading} (read : turn.reading? = some reading) :
    ∃ attempt, turn.due = .reply ∧ turn.flight.phase.attempt? = some attempt := by
  unfold reading? at read
  split at read
  · next attempt due attempted => exact ⟨attempt, due, attempted⟩
  · simp at read

/-- A redirect that is followed leads to its address as it stands. -/
theorem node_of_redirect? {address : String} (told : turn.redirect? = some address)
    {node : Option String} {payload : Bytes} {delay : Option Nat}
    (follows : turn.action = .dispatch node payload delay) : node = some address := by
  obtain ⟨reading, read, names⟩ := Option.bind_eq_some_iff.1 told
  obtain ⟨attempt, due, attempted⟩ := attempt_of_reading? read
  obtain ⟨answered, rest, _, heard, reads⟩ := exists_heard due attempted
  unfold action at follows
  generalize turn.outcome = outcome at heard follows
  cases heard with
  | waits => simp [InFlight.await] at follows
  | breaks => simp [InFlight.breakOff] at follows
  | refused => exact absurd follows (InFlight.fail_ne_dispatch _ _ _ _ _)
  | malformed => exact absurd follows (InFlight.fail_ne_dispatch _ _ _ _ _)
  | @settled reply _ other given _ found =>
    have same := read.symm.trans (reads reply other (congrArg Prod.fst given) found)
    obtain rfl := Option.some.inj same
    exact InFlight.node_of_settle names follows

theorem reply_of_dump? {dump : String} (told : turn.dump? = some dump) :
    turn.due = .dump ∧
      ∃ reply, turn.backend.next.1 = .complete reply ∧ InFlight.dumpOf reply = .ok dump := by
  unfold dump? at told
  split at told
  · next node others reply due phase given =>
    refine ⟨due, reply, given, ?_⟩
    cases read : InFlight.dumpOf reply with
    | error fault => simp [read, Except.toOption] at told
    | ok other => simpa [read, Except.toOption] using told
  · simp at told

/-- For a port alone, a dump gives that port of the node that was asked. -/
theorem owner_of_dump? {dump node : String} {others : List String}
    (phase : turn.flight.phase = .bootstrapping node others) (told : turn.dump? = some dump)
    {slot : Nat} {master : Node} (serves : Dump.master? dump slot = some master)
    (port : IsPort master.address) :
    turn.outcome.store.owner turn.flight.cluster slot =
      some (String.ofList (Dump.hostOf node.toList ++ master.address.toList)) := by
  have served := List.mem_reverse.1 (List.mem_of_find?_eq_some serves)
  have described : Dump.nodes dump ≠ [] := List.ne_nil_of_mem (List.mem_filter.1 served).1
  obtain ⟨due, reply, given, held⟩ := reply_of_dump? told
  obtain ⟨flight, _, store, backend⟩ := turn
  dsimp only at phase given due ⊢
  subst due
  obtain ⟨kind, body⟩ := InFlight.dumpOf_eq_ok_iff.1 held
  obtain ⟨summary, written, replaced, _, ends⟩ :=
    @InFlight.onTopology_of_gives flight store node others backend _ reply phase
      (Prod.ext given rfl) dump ⟨kind, body, described⟩
  have given_slot : Dump.owner? dump (some node) slot =
      (Dump.master? dump slot).map (Dump.addressOf (some node)) := rfl
  change (flight.onTopology store backend).store.owner flight.cluster slot = _
  rw [ends, Store.owner_of_replace replaced, given_slot, serves, Option.map_some,
    Dump.addressOf_of_isPort port]

theorem minds (turn : Turn) : turn.Minds where
  redirected _ told _ _ _ follows := node_of_redirect? told follows
  resolved _ _ _ phase told _ _ serves port := owner_of_dump? phase told serves port

end Turn

/-! ## Processes -/

theorem Store.Fits.mention {fit : String → Prop} {store : Store} (fits : store.Fits fit)
    (cluster : String) : (store.mention cluster).Fits fit := by
  intro name
  rw [table_mention]
  exact fits name

namespace Process

/-- All addresses of a process have a host. -/
structure Hosted (process : Process) : Prop where
  store : process.store.Fits HasHost
  flights : ∀ name flight, process.flights name = some flight → flight.Fits HasHost

variable {process : Process}

theorem hosted_start (connections : Name → Decoder) : (start .empty connections).Hosted :=
  ⟨Store.fits_empty HasHost, fun _ _ held => nomatch held⟩

theorem Hosted.turn? (hosted : process.Hosted) {event : Event} {turn : Turn}
    (taken : process.turn? event = some turn) :
    turn.flight.Fits HasHost ∧ turn.store.Fits HasHost := by
  cases event with
  | calls due request number =>
    obtain ⟨flight, held, rfl⟩ := Option.map_eq_some_iff.1 taken
    exact ⟨hosted.flights request flight held, hosted.store⟩
  | _ => simp [Process.turn?] at taken

/-- A step of a process keeps to addresses with a host, if it is told of no others. -/
theorem Hosted.outcome (hosted : process.Hosted) {event : Event} {turn : Turn}
    (taken : process.turn? event = some turn) (formed : turn.DumpFormed)
    (named : turn.RedirectNamed) :
    turn.outcome.toStep.Fits HasHost ∧ turn.outcome.store.Fits HasHost := by
  obtain ⟨flight, store⟩ := hosted.turn? taken
  refine Turn.fits flight store (fun origin dump known told master serves => ?_) named
  exact Dump.hasHost_addressOf known (formed dump told master (List.mem_filter.1 serves).1)

/-- An event keeps to addresses with a host, if its step is told of no others. -/
theorem Hosted.step (hosted : process.Hosted) {event : Event} (proxied : event.Proxied)
    (formed : ∀ turn, process.turn? event = some turn → turn.DumpFormed)
    (named : ∀ turn, process.turn? event = some turn → turn.RedirectNamed) :
    (process.step event).2.Hosted := by
  constructor
  · have stored := process.stored_of_step event
    generalize (process.step event).2.store = store at stored
    cases stored with
    | same => exact hosted.store
    | stepped taken => exact (hosted.outcome taken (formed _ taken) (named _ taken)).2
    | @accessed access =>
      subst event
      cases access with
      | write write => exact absurd proxied id
      | _ => exact hosted.store.mention _
    | heeded same =>
      subst same
      exact absurd proxied id
  · intro name flight held
    cases source_of_step held with
    | held before => exact hosted.flights name flight before
    | accepted same _ taken =>
      subst same
      obtain ⟨settings, built⟩ := proxied
      exact Router.fits_accept (Router.hasHost_of_ofSettings built) taken
    | stepped taken _ after =>
      exact after ▸ (hosted.outcome taken (formed _ taken) (named _ taken)).1.flight

/-- All steps of a process keep to addresses with a host, if they are told of no others. -/
theorem Hosted.turns (hosted : process.Hosted) {events : List Event}
    (proxied : ∀ event ∈ events, event.Proxied)
    (formed : ∀ turn ∈ process.turns events, turn.DumpFormed)
    (named : ∀ turn ∈ process.turns events, turn.RedirectNamed) :
    ∀ turn ∈ process.turns events, turn.outcome.toStep.Fits HasHost := by
  induction events generalizing process with
  | nil => exact fun _ member => nomatch member
  | cons event events ih =>
    obtain ⟨first, later⟩ := List.forall_mem_cons.1 proxied
    simp only [Process.turns, List.forall_mem_append, Option.mem_toList] at formed named ⊢
    refine ⟨fun turn taken => ?_, ih ?_ later formed.2 named.2⟩
    · exact (hosted.outcome taken (formed.1 turn taken) (named.1 turn taken)).1
    · exact hosted.step first formed.1 named.1

/-- In a process over a store that only its own requests write to, with routers that were built, and
with dumps that give hosts with ports or ports alone, every address that a request is sent to, and
every one that is asked for a dump, has a host, as long as all redirects name one.

The last condition is needed, since a redirect is taken as it stands, while a port alone in a dump
stands for that port of the node that was asked (`Turn.Minds`). -/
theorem hosts (connections : Name → Decoder) {events : List Event}
    (proxied : ∀ event ∈ events, event.Proxied)
    (formed : ∀ turn ∈ (start .empty connections).turns events, turn.DumpFormed) :
    (∀ turn ∈ (start .empty connections).turns events, turn.Minds) ∧
      ((∀ turn ∈ (start .empty connections).turns events, turn.RedirectNamed) →
        ∀ turn ∈ (start .empty connections).turns events, ∀ address,
          turn.action.address? = some address → HasHost address) :=
  ⟨fun turn _ => turn.minds, fun named turn member =>
    ((hosted_start connections).turns proxied formed named turn member).action⟩

namespace Sample

/-- Routers with one seed. -/
def settings : Settings := ⟨2, 0, ["redis://s:1"], 200, .reject⟩

def router : Router := ⟨⟨2, 0, ["s:1"], 200, .reject⟩⟩

theorem built : Router.ofSettings settings = .ok router := by decide +kernel

def client : Name := ⟨"c", 0⟩

def node : Name := ⟨"c", 1⟩

/-- The seed owns the slot of a request, gives a dump in which it names no host for itself, and then
redirects the request. -/
def events (redirect : String) : List Event := [
  .opens router client, .arrives client Run.Sample.client.buffer, .accepts router client 0,
  .opens router node, .calls .start ⟨"c", 0⟩ 1,
  .arrives node (Text.utf8 "$45\r\nid0 :7@8 myself,master - 0 0 1 connected 0-9\n\r\n"),
  .calls .dump ⟨"c", 0⟩ 1, .arrives node (Text.utf8 redirect), .calls .reply ⟨"c", 0⟩ 1]

theorem proxied (redirect : String) : ∀ event ∈ events redirect, event.Proxied := by
  simp only [events, List.forall_mem_cons]
  exact ⟨trivial, trivial, ⟨settings, built⟩, trivial, trivial, trivial, trivial, trivial,
    trivial, by simp⟩

/-- The steps that are taken for the request. -/
def turns (redirect : String) : List Turn :=
  (start .empty fun _ => .empty 200).turns (events redirect)

end Sample

/-- The port of the seed redirects the request to a host with a name. -/
theorem hosts_moved :
    (∀ event ∈ Sample.events "-MOVED 9 t:8\r\n", event.Proxied) ∧
      (∀ turn ∈ Sample.turns "-MOVED 9 t:8\r\n", turn.DumpFormed) ∧
      (∀ turn ∈ Sample.turns "-MOVED 9 t:8\r\n", turn.RedirectNamed) ∧
      (Sample.turns "-MOVED 9 t:8\r\n").map (fun turn => turn.action.address?) =
        [some "s:1", some "s:7", some "t:8"] ∧
      ∀ turn ∈ Sample.turns "-MOVED 9 t:8\r\n", ∀ address,
        turn.action.address? = some address → HasHost address := by
  have formed : ∀ turn ∈ Sample.turns "-MOVED 9 t:8\r\n", turn.DumpFormed := by decide +kernel
  have named : ∀ turn ∈ Sample.turns "-MOVED 9 t:8\r\n", turn.RedirectNamed := by decide +kernel
  exact ⟨Sample.proxied _, formed, named, by decide +kernel,
    (hosts _ (Sample.proxied _) formed).2 named⟩

/-- The port of the seed redirects the request to another port alone, and it is sent to an address
without a host. -/
theorem redirect_without_host :
    (∀ event ∈ Sample.events "-MOVED 9 :8\r\n", event.Proxied) ∧
      (∀ turn ∈ Sample.turns "-MOVED 9 :8\r\n", turn.DumpFormed) ∧
      (∀ turn ∈ Sample.turns "-MOVED 9 :8\r\n", ∀ address ∈ turn.redirect?,
        HasHost address ∨ IsPort address) ∧
      (Sample.turns "-MOVED 9 :8\r\n").map (fun turn => turn.action.address?) =
        [some "s:1", some "s:7", some ":8"] ∧
      ¬ HasHost ":8" :=
  ⟨Sample.proxied _, by decide +kernel, by decide +kernel, by decide +kernel, by decide⟩

end Process

end ClusterProxy
