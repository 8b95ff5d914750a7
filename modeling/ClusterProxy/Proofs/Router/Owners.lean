import ClusterProxy.Proofs.Process.Heeding
import ClusterProxy.Proofs.Router.Failover
import ClusterProxy.Proofs.Topology.Dump

/-!
# Every owner can be asked

A table keeps addresses in two places: the owners of its slots, and the list of its nodes. Whatever
was written, the two agree (`Store.Listed`): every owner is in the list, and once only. So a request
that needs a dump finds every owner among the nodes that it can ask, and a bootstrap that comes to
its last node has asked each of them once (`Store.owners_asked`).
-/

namespace ClusterProxy

/-- An address learned by a patch stands behind all that were known, and nothing else is learned. -/
theorem Table.exists_learned (table : Table) (slot : Nat) (address : String) :
    ∃ learned, (table.patch slot address).nodes = table.nodes ++ learned ∧
      (learned = [] ∨ learned = [address]) := by
  by_cases inside : slot < Slot.count
  · rw [nodes_patch inside]
    split
    · exact ⟨[], (List.append_nil _).symm, .inl rfl⟩
    · exact ⟨[address], rfl, .inr rfl⟩
  · rw [Table.patch, if_neg inside]
    exact ⟨[], (List.append_nil _).symm, .inl rfl⟩

/-- What the table of a cluster holds, what the next write can do to its nodes, and what a request
for the cluster can ask.

* `size`: there is an entry for each slot.
* `known`, `distinct`: every owner is among the nodes, and no node is listed twice.
* `patched`: a patch keeps every node in its place, and adds its own address at most.
* `replaced`: an accepted dump leaves no node but those that it describes.
* `asked`: each owner is once among the nodes that a request can ask for a dump. -/
structure Store.Listed (store : Store) (cluster : String) : Prop where
  size : (store.table cluster).owners.size = 16384
  known : ∀ slot address, store.owner cluster slot = some address → address ∈ store.nodes cluster
  distinct : (store.nodes cluster).Nodup
  patched : ∀ slot address, ∃ learned,
    (store.patch cluster slot address).nodes cluster = store.nodes cluster ++ learned ∧
      (learned = [] ∨ learned = [address])
  replaced : ∀ dump origin summary written,
    store.replace cluster dump origin = .ok (summary, written) →
      ∀ node ∈ written.nodes cluster,
        ∃ master ∈ Dump.masters dump, node = Dump.addressOf origin master
  asked : ∀ flight : InFlight, flight.cluster = cluster → ∀ slot address,
    store.owner cluster slot = some address → (flight.candidates store).count address = 1

namespace Store

variable {store : Store} {cluster : String}

/-- The nodes that can be asked for a dump begin with all that the store knows. -/
theorem Sound.count_candidates (sound : store.Sound) {flight : InFlight} {slot : Nat}
    {address : String} (owned : store.owner flight.cluster slot = some address) :
    (flight.candidates store).count address = 1 := by
  have listed : address ∈ flight.candidates store := by
    rw [flight.candidates_eq]
    exact List.mem_append_left _ ((sound flight.cluster).known slot address owned)
  exact List.count_eq_one_of_mem (flight.nodup_candidates sound) listed

theorem Sound.listed (sound : store.Sound) (cluster : String) : store.Listed cluster where
  size := (sound cluster).size
  known := (sound cluster).known
  distinct := (sound cluster).distinct
  patched slot address := by
    unfold nodes Store.patch
    rw [table_put, if_pos rfl]
    exact (store.table cluster).exists_learned slot address
  replaced dump origin summary written accepted node listed := by
    rw [(replaced_of_replace accepted).nodes, List.mem_eraseDups, List.mem_map] at listed
    obtain ⟨master, served, rfl⟩ := listed
    exact ⟨master, served, rfl⟩
  asked := by
    rintro flight rfl slot address owned
    exact sound.count_candidates owned

end Store

/-- A request that waits for the last of the nodes that can be asked has asked all of them. -/
theorem Run.asked_of_last {flight : InFlight} {turn : Turn} {before : List Turn}
    (fresh : flight.Fresh) (run : Run flight turn before) {node : String}
    (phase : turn.outcome.flight.phase = .bootstrapping node []) :
    ∃ first ∈ turn :: before, Run.asking? (turn :: before) = some first ∧
      Run.asked (turn :: before) = flight.candidates first.store := by
  obtain ⟨_, first, done, seeking⟩ := run.seeking_of_bootstrapping fresh phase
  have member : first ∈ turn :: before :=
    List.mem_reverse.1 (List.mem_of_find?_eq_some seeking.began)
  exact ⟨first, member, seeking.began, seeking.asked.trans seeking.listed.symm⟩

/-- The owners and the nodes of a cluster agree after any dumps and patches, accepted or not, of any
clusters. So whenever a bootstrap has come to its last node, every address that owned a slot when it
began was asked once. -/
theorem Store.owners_asked :
    (∀ (writes : List Write) (cluster : String), (empty.after writes).Listed cluster) ∧
      ∀ (router : Router) (cluster : String) (client : Decoder) (flight : InFlight) (turn : Turn)
        (before : List Turn) (node : String),
        (router.accept cluster client).1 = .complete flight → Run flight turn before →
          turn.outcome.flight.phase = .bootstrapping node [] →
            ∃ first, Run.asking? (turn :: before) = some first ∧
              ∀ slot address, first.store.owner cluster slot = some address →
                (Run.asked (turn :: before)).count address = 1 := by
  refine ⟨fun writes cluster => (sound_empty.after writes).listed cluster, ?_⟩
  intro router cluster client flight turn before node accepted run phase
  obtain ⟨first, member, began, asked⟩ :=
    run.asked_of_last (router.fresh_accept accepted) phase
  obtain ⟨rfl, _⟩ := router.tally_accept accepted
  refine ⟨first, began, fun slot address owned => ?_⟩
  rw [asked]
  exact (run.sound_of_mem first member).count_candidates owned

namespace Run.Sample

/-- A slot was patched before any dump, so its owner is asked in front of the seed. -/
def patched : Turn :=
  ⟨flight, .start, Store.empty.after [.patch "c" 3 "x:1", .replace "c" "bad line" none], node ""⟩

/-- The owner gives no dump, and the seed is the last node that can be asked. -/
def unready : Turn :=
  ⟨patched.outcome.flight, .dump, patched.outcome.store.after [], node "-LOADING\r\n"⟩

theorem run_unready : Run flight unready [patched] := by
  have first : Run flight patched [] := .start _ _
  exact first.step (by decide +kernel) _ _

end Run.Sample

/-- The owner of a patched slot and the seed are asked, each once. -/
theorem Store.owners_asked_unready :
    (empty.after [.patch "c" 3 "x:1", .replace "c" "bad line" none]).Listed "c" ∧
      (Run.Sample.router.accept "c" Run.Sample.client).1 = .complete Run.Sample.flight ∧
      Run Run.Sample.flight Run.Sample.unready [Run.Sample.patched] ∧
      Run.Sample.unready.outcome.flight.phase = .bootstrapping "s:1" [] ∧
      ∃ first, Run.asking? [Run.Sample.unready, Run.Sample.patched] = some first ∧
        first.store.owner "c" 3 = some "x:1" ∧
        (Run.asked [Run.Sample.unready, Run.Sample.patched]).count "x:1" = 1 := by
  obtain ⟨listed, asked⟩ := Store.owners_asked
  have last : Run.Sample.unready.outcome.flight.phase = .bootstrapping "s:1" [] := by
    decide +kernel
  obtain ⟨first, began, once⟩ :=
    asked _ _ _ _ _ _ _ Run.Sample.accepted Run.Sample.run_unready last
  have asks : Run.Sample.patched.asks? = some "x:1" := by decide +kernel
  have starts : Run.asking? [Run.Sample.unready, Run.Sample.patched] =
      some Run.Sample.patched := by
    rw [Run.asking?_cons, Run.asking?_cons, asks]
    rfl
  obtain rfl := Option.some.inj (began.symm.trans starts)
  have owned : Run.Sample.patched.store.owner "c" 3 = some "x:1" := by decide +kernel
  exact ⟨listed _ _, Run.Sample.accepted, Run.Sample.run_unready, last, _, starts, owned,
    once 3 "x:1" owned⟩

end ClusterProxy
