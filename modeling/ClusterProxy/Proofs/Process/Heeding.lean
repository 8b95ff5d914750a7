import ClusterProxy.Proofs.Process.Basic
import ClusterProxy.Proofs.Topology.Reading

/-!
# What a store learns from a reply

`Store.interpret` reads a reply and lets a store heed it. That is what the steps of a request do
with a reply (`InFlight.store_receive`) and what is done with a reply that belongs to no request
(`Process.interpret_eq`).

A store learns from an error line that names a new owner of a slot, and from nothing else
(`Store.interpret_moved_alone`). What it learns is the owner of that slot, and the address if it was
not known; `Store.Patched` also says what stays.
-/

namespace ClusterProxy

/-! ## Giving a slot to an address -/

theorem Table.nodes_patch {slot : Nat} (inside : slot < Slot.count) (table : Table)
    (address : String) : (table.patch slot address).nodes =
      if address ∈ table.nodes then table.nodes else table.nodes ++ [address] := by
  unfold Table.patch Table.assign Table.learn
  rw [if_pos inside, apply_ite Table.nodes]
  simp only [List.contains_eq_mem, decide_eq_true_eq]

namespace Store

/-- What a store holds after one slot of a cluster was given to an address, and what it held before.
-/
structure Patched (store : Store) (cluster : String) (slot : Nat) (address : String)
    (written : Store) : Prop where
  owner : written.owner cluster slot = some address
  slots : ∀ place, place ≠ slot → written.owner cluster place = store.owner cluster place
  /-- The address is known, behind the ones that were known before. -/
  nodes : written.nodes cluster =
    if address ∈ store.nodes cluster then store.nodes cluster else store.nodes cluster ++ [address]
  bootstrap : written.needsBootstrap cluster = store.needsBootstrap cluster
  /-- The tables of other clusters are as they were. -/
  others : ∀ name, name ≠ cluster → written.table name = store.table name

variable {store : Store} {cluster : String} {slot : Nat} {address : String}

theorem patched_patch (sound : store.Sound) (inside : slot < Slot.count) :
    Patched store cluster slot address (store.patch cluster slot address) where
  owner := by rw [owner_patch sound, if_pos ⟨rfl, rfl, inside⟩]
  slots := fun place other => by rw [owner_patch sound, if_neg fun here => other here.2.1]
  nodes := by
    unfold Store.nodes Store.patch
    rw [table_put, if_pos rfl, Table.nodes_patch inside]
  bootstrap := needsBootstrap_patch store cluster slot address cluster
  others := fun name other => by rw [Store.patch, table_put, if_neg other]

end Store

/-- A redirect that is read names a slot that there is. -/
theorem Reading.lt_of_ofError_moved {payload : Bytes} {slot : Nat} {address : String}
    (read : ofError payload = .ok (moved slot address)) : slot < Slot.count := by
  cases ofError_eq_iff.1 read with
  | moved word names =>
    obtain ⟨one, two, number, tail, -, -, inside, -⟩ := names
    exact inside

/-! ## Heeding a reply -/

/-- Reads a reply, and lets a store heed it. -/
def Store.interpret (store : Store) (cluster : String) (reply : Decoded) :
    Except Fault Reading × Store :=
  match Reading.ofFrame reply.frame reply.bytes with
  | .error fault => (.error fault, store)
  | .ok reading => (.ok reading, store.heed cluster reading)

theorem Process.interpret_eq (process : Process) (cluster : String) (frame : Frame)
    (buffer : Bytes) : process.interpret cluster frame buffer =
      (.interpreted (process.store.interpret cluster ⟨buffer, frame⟩).1,
        process.keep (process.store.interpret cluster ⟨buffer, frame⟩).2) := by
  unfold Process.interpret Store.interpret
  dsimp only
  cases Reading.ofFrame frame buffer with
  | error fault => rfl
  | ok reading => rfl

/-- The reply to a request is heeded, unless the node refused to be asked. -/
theorem InFlight.store_receive (flight : InFlight) {attempt : Attempt} (store : Store)
    (backend : Decoder) (reply : Decoded) (asked : ∀ fault, attempt.ack ≠ .refused fault) :
    (flight.receive attempt store backend reply).store =
      (store.interpret flight.cluster reply).2 := by
  unfold InFlight.receive Store.interpret
  split
  · next refused => exact absurd refused (asked _)
  · cases Reading.ofFrame reply.frame reply.bytes with
    | error fault => rfl
    | ok reading => rfl

namespace Store

variable {cluster : String} {reply : Decoded}

theorem interpret_answer (store : Store) (answers : reply.frame.kind ≠ .error) :
    store.interpret cluster reply = (.ok .answer, store) := by
  rw [interpret, Reading.ofFrame, if_neg answers]
  rfl

theorem interpret_error (store : Store) (error : reply.frame.kind = .error) :
    store.interpret cluster reply = match Reading.ofError (reply.payload.getD []) with
      | .error fault => (.error fault, store)
      | .ok reading => (.ok reading, store.heed cluster reading) := by
  rw [interpret, Reading.ofFrame, if_pos error]
  rfl

/-- Only a redirect that names a new owner is written down. -/
theorem interpret_of_not_moved (store : Store) (error : reply.frame.kind = .error)
    (other : ∀ slot address, Reading.ofError (reply.payload.getD []) ≠ .ok (.moved slot address)) :
    store.interpret cluster reply = (Reading.ofError (reply.payload.getD []), store) := by
  rw [interpret_error store error]
  cases read : Reading.ofError (reply.payload.getD []) with
  | error fault => rfl
  | ok reading =>
    cases reading with
    | moved slot address => exact absurd read (other slot address)
    | answer | ask | tryAgain | noScript | failure => rfl

/-- A store, whatever it went through, changes by a reply only if the reply is an error line that
names a new owner of a slot.

* Any other frame is an answer, whatever text is in it.
* Any other error line leaves the store as it is, whether it can be read or not.
* The one that names a new owner leads to `Patched`. -/
theorem interpret_moved_alone (history : List Access) (cluster : String) (reply : Decoded) :
    let store := ofHistory history
    let read := Reading.ofError (reply.payload.getD [])
    (reply.frame.kind ≠ .error → store.interpret cluster reply = (.ok .answer, store)) ∧
      (reply.frame.kind = .error → (∀ slot address, read ≠ .ok (.moved slot address)) →
        store.interpret cluster reply = (read, store)) ∧
      ∀ slot address, reply.frame.kind = .error → read = .ok (.moved slot address) →
        ∃ written, store.interpret cluster reply = (read, written) ∧
          Patched store cluster slot address written := by
  refine ⟨interpret_answer _, interpret_of_not_moved _, fun slot address error moved => ?_⟩
  have sound : (ofHistory history).Sound := History.sound_table history
  refine ⟨(ofHistory history).patch cluster slot address, ?_,
    patched_patch sound (Reading.lt_of_ofError_moved moved)⟩
  rw [interpret_error _ error, moved]
  rfl

/-- A redirect of a cluster of which nothing is known. -/
theorem interpret_moved_alone_first :
    ∃ reply written, reply.bytes = Text.utf8 "-MOVED 6 x:1\r\n" ∧
      (ofHistory []).interpret "c" reply = (.ok (.moved 6 "x:1"), written) ∧
      Patched (ofHistory []) "c" 6 "x:1" written := by
  let reply : Decoded :=
    ⟨Text.utf8 "-MOVED 6 x:1\r\n", ⟨⟨.error, some ⟨1, 12⟩, false, []⟩, 14⟩⟩
  have text : reply.payload.getD [] = Redirect.line "MOVED" 6 "x:1" := by decide
  have moved : Reading.ofError (reply.payload.getD []) = .ok (.moved 6 "x:1") := by
    rw [text]
    exact Reading.ofError_moved (by decide) ⟨by decide, by decide, by decide, by decide⟩
  have learns := (interpret_moved_alone [] "c" reply).2.2 6 "x:1" rfl moved
  rw [moved] at learns
  obtain ⟨written, heeded, patched⟩ := learns
  exact ⟨reply, written, rfl, heeded, patched⟩

end Store

end ClusterProxy
