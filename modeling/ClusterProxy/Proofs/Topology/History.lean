import ClusterProxy.Proofs.Topology.Table
import Mathlib.Data.List.Induction

/-!
# What a store holds is a matter of its history

A history is a list of accesses to a store, oldest first: dumps and single slots that are written,
and reads. What the table of a cluster holds after it can be read off the history without any table.

* `Dump.owner?` is the address that a dump gives a slot to: that of its last connected master with
  the slot in one of its ranges.
* `History.owner?` is the owner of a slot: the address of the latest patch since the latest dump
  that was accepted, otherwise what that dump gives the slot to.

`Store.history_decides` says that a store that came about by a history holds just that, for every
cluster. One access changes the table of a cluster as `Table.after` says, whatever else the store
holds (`Store.table_access`), so the result is an induction over the history, latest access last.
-/

namespace ClusterProxy

/-! ## Slots of a node -/

theorem Text.lt_of_digitsBelow? {bound n : Nat} {text : List Char}
    (read : digitsBelow? bound text = some n) : n < bound := by
  rw [digitsBelow?_eq_filter, Option.filter_eq_some_iff] at read
  exact of_decide_eq_true read.2

theorem Text.lt_of_decimal? {bound n : Nat} {text : List Char}
    (read : decimal? bound text = some n) : n < bound := by
  unfold decimal? at read
  split at read
  · exact lt_of_digitsBelow? read
  · exact lt_of_digitsBelow? read

namespace Node

theorem lt_of_slotOfWord {word : List Char} {slot : Nat} (read : slotOfWord word = .ok slot) :
    slot < Slot.count := by
  unfold slotOfWord at read
  split at read
  · next number =>
    obtain rfl := Except.ok.inj read
    exact Text.lt_of_decimal? number
  · simp at read

theorem last_lt_of_rangeOfWord {word : List Char} {range : SlotRange}
    (read : rangeOfWord word = .ok (some range)) : range.last < Slot.count := by
  have inside {first last : Nat} (low : first < Slot.count) (high : last < Slot.count) :
      (SlotRange.ofBounds first last).last < Slot.count := Nat.max_lt.2 ⟨high, low⟩
  unfold rangeOfWord at read
  split at read
  · simp at read
  · split at read
    · cases single : slotOfWord word with
      | error reason => simp [single, bind, Except.bind] at read
      | ok slot =>
        simp only [single, bind, Except.bind, pure, Except.pure, Except.ok.injEq,
          Option.some.injEq] at read
        exact read ▸ inside (lt_of_slotOfWord single) (lt_of_slotOfWord single)
    · next after _ =>
      cases first : slotOfWord (word.takeWhile fun c => c != '-') with
      | error reason => simp [first, bind, Except.bind] at read
      | ok low =>
        cases last : slotOfWord after with
        | error reason => simp [first, last, bind, Except.bind] at read
        | ok high =>
          simp only [first, last, bind, Except.bind, pure, Except.pure, Except.ok.injEq,
            Option.some.injEq] at read
          exact read ▸ inside (lt_of_slotOfWord first) (lt_of_slotOfWord last)

theorem last_lt_of_rangesOfWords {words : List (List Char)} {ranges : List SlotRange}
    (read : rangesOfWords words = .ok ranges) : ∀ range ∈ ranges, range.last < Slot.count := by
  induction words generalizing ranges with
  | nil =>
    obtain rfl : [] = ranges := Except.ok.inj read
    simp
  | cons word words ih =>
    unfold rangesOfWords at read ih
    rw [List.mapM_cons] at read
    cases first : rangeOfWord word with
    | error reason => simp [first, bind, Except.bind] at read
    | ok found =>
      cases others : words.mapM rangeOfWord with
      | error reason => simp [first, others, bind, Except.bind] at read
      | ok rest =>
        rw [others] at ih
        simp only [first, others, bind, Except.bind, pure, Except.pure, Except.ok.injEq] at read ih
        subst read
        intro range member
        rw [List.mem_filterMap] at member
        obtain ⟨_, listed, rfl⟩ := member
        rcases List.mem_cons.1 listed with rfl | later
        · exact last_lt_of_rangeOfWord first
        · exact ih rfl range (List.mem_filterMap.2 ⟨_, later, rfl⟩)

/-- The ranges of a master are read from some words, and a replica has none. -/
theorem exists_ranges_of_ofLine {line : String} {node : Node} (read : ofLine line = .ok node) :
    ∃ words, (if node.role = .master then rangesOfWords words else .ok []) = .ok node.ranges := by
  unfold ofLine at read
  split at read
  · next described =>
    obtain rfl := Except.ok.inj read
    unfold ofFields at described
    split at described
    · next slots _ =>
      dsimp only at described
      split at described
      · simp at described
      · refine ⟨slots, ?_⟩
        split at described
        · next serves =>
          cases ranges : rangesOfWords slots with
          | error reason => simp [ranges, bind, Except.bind] at described
          | ok found =>
            rw [ranges] at described
            obtain rfl := Except.ok.inj described
            exact if_pos serves
        · next other =>
          obtain rfl := Except.ok.inj described
          exact if_neg other
    · simp at described
  · simp at read

/-- No line gives a node a slot past the last one. -/
theorem last_lt_of_ofLine {line : String} {node : Node} (read : ofLine line = .ok node) :
    ∀ range ∈ node.ranges, range.last < Slot.count := by
  obtain ⟨words, ranges⟩ := exists_ranges_of_ofLine read
  split at ranges
  · exact last_lt_of_rangesOfWords ranges
  · rw [← Except.ok.inj ranges]
    exact List.forall_mem_nil _

end Node

/-! ## What a dump gives -/

namespace Table

variable {table : Table} (sound : table.Sound)
include sound

theorem owner_foldl_assign {address : String} (known : address ∈ table.nodes)
    (ranges : List SlotRange) (slot : Nat) :
    (ranges.foldl (fun table range => table.assign range address) table).owner slot =
      if slot < Slot.count ∧ ranges.any (fun range => range.contains slot) then some address
      else table.owner slot := by
  induction ranges generalizing table with
  | nil => simp
  | cons range ranges ih =>
    rw [List.foldl_cons, ih (sound.assign range known) known, owner_assign sound, List.any_cons]
    by_cases inside : slot < Slot.count
    · cases range.contains slot <;> simp [inside]
    · simp [inside]

theorem owner_record (address : String) (ranges : List SlotRange) (slot : Nat) :
    (table.record address ranges).owner slot =
      if slot < Slot.count ∧ ranges.any (fun range => range.contains slot) then some address
      else table.owner slot := by
  unfold record
  rw [owner_foldl_assign (sound.learn address) (mem_nodes_learn.2 (.inr rfl)), owner_learn]

/-- The slots that are covered are those with an owner. -/
theorem covered_eq_countP :
    table.covered = (List.range Slot.count).countP fun slot => (table.owner slot).isSome := by
  have entries : table.owners.toList = (List.range Slot.count).map table.owner := by
    refine List.ext_getElem? fun slot => ?_
    rw [Array.getElem?_toList, List.getElem?_map]
    by_cases inside : slot < Slot.count
    · rw [List.getElem?_range inside, Option.map_some, owner]
      rw [← sound.size] at inside
      rw [Array.getElem?_eq_getElem inside, Option.join_some]
    · rw [List.getElem?_eq_none (by simpa using inside), Array.getElem?_eq_none]
      · rfl
      · rw [sound.size]
        exact Nat.le_of_not_lt inside
  unfold covered
  rw [← Array.countP_toList, entries, List.countP_map]
  rfl

omit sound in
theorem owner_populated (table : Table) (populated : Bool) (slot : Nat) :
    Table.owner { table with populated } slot = table.owner slot := rfl

/-- No slot past the last one has an owner. -/
theorem owner_eq_none {slot : Nat} (past : Slot.count ≤ slot) : table.owner slot = none := by
  unfold owner
  rw [Array.getElem?_eq_none]
  · rfl
  · rw [sound.size]
    exact past

end Table

namespace Dump

/-- The address that a dump gives a slot to: that of its last connected master with the slot in one
of its ranges. -/
def owner? (dump : String) (origin : Option String) (slot : Nat) : Option String :=
  ((masters dump).reverse.find? fun node =>
    node.ranges.any fun range => range.contains slot).map (addressOf origin)

theorem last_lt_of_mem_masters {dump : String} {node : Node} (serves : node ∈ masters dump) :
    ∀ range ∈ node.ranges, range.last < Slot.count := by
  unfold masters nodes at serves
  obtain ⟨line, _, read⟩ := List.mem_filterMap.1 (List.mem_filter.1 serves).1
  cases described : Node.ofLine line with
  | error fault => simp [described, Except.toOption] at read
  | ok found =>
    rw [described] at read
    obtain rfl := Option.some.inj read
    exact Node.last_lt_of_ofLine described

theorem owner_foldl_record {origin : Option String} {masters : List Node}
    (small : ∀ node ∈ masters, ∀ range ∈ node.ranges, range.last < Slot.count) {table : Table}
    (sound : table.Sound) (slot : Nat) :
    (masters.foldl (fun table node => table.record (addressOf origin node) node.ranges)
        table).owner slot =
      ((masters.reverse.find? fun node =>
        node.ranges.any fun range => range.contains slot).map (addressOf origin)).or
          (table.owner slot) := by
  induction masters generalizing table with
  | nil => rfl
  | cons node masters ih =>
    obtain ⟨first, others⟩ := List.forall_mem_cons.1 small
    rw [List.foldl_cons, ih others (sound.record _ _), Table.owner_record sound,
      List.reverse_cons, List.find?_append, List.find?_singleton]
    cases later : masters.reverse.find? fun node =>
        node.ranges.any fun range => range.contains slot with
    | some other => rfl
    | none =>
      by_cases here : node.ranges.any fun range => range.contains slot
      · obtain ⟨range, listed, inside⟩ := List.any_eq_true.1 here
        have bound := first range listed
        simp only [SlotRange.contains, Bool.and_eq_true, decide_eq_true_eq] at inside
        have small : slot < Slot.count := Nat.lt_of_le_of_lt inside.2 bound
        simp [here, small]
      · simp [here]

/-- A table that a dump describes holds what the dump gives. -/
theorem owner_of_table? {dump : String} {origin : Option String} {table : Table}
    (described : table? dump origin = some table) (slot : Nat) :
    table.owner slot = owner? dump origin slot := by
  unfold table? at described
  split at described
  · simp at described
  · obtain rfl := Option.some.inj described
    have small : ∀ node ∈ masters dump, ∀ range ∈ node.ranges, range.last < Slot.count :=
      fun _ => last_lt_of_mem_masters
    have held := @owner_foldl_record origin _ small _ Table.sound_empty slot
    rw [Table.owner_populated, held, Table.owner_empty, Option.or_none]
    rfl

/-- A dump is accepted exactly if one of its lines describes a node. -/
theorem exists_table?_iff {dump : String} {origin : Option String} :
    (∃ table, table? dump origin = some table) ↔ nodes dump ≠ [] := by
  unfold table?
  cases nodes dump <;> simp

end Dump

namespace Store

/-! ## Accesses -/

/-- One access to a store: something is written, or something is read. -/
inductive Access where
  | write (write : Write)
  | owner (cluster : String) (slot : Nat)
  | nodes (cluster : String)
  | covered (cluster : String)
  | needsBootstrap (cluster : String)
deriving DecidableEq, Repr

/-- The store after an access. A read mentions its cluster. -/
def access (store : Store) : Access → Store
  | .write write => store.write write
  | .owner cluster _ => store.mention cluster
  | .nodes cluster => store.mention cluster
  | .covered cluster => store.mention cluster
  | .needsBootstrap cluster => store.mention cluster

/-- The store that comes about by a history of accesses, oldest first. -/
def ofHistory (history : List Access) : Store := history.foldl access empty

namespace Access

/-- The dump and its origin, if the access makes them the table of a cluster: a dump that describes
no node is not accepted. -/
def dump? (cluster : String) : Access → Option (String × Option String)
  | .write (.replace name dump origin) =>
    if name = cluster ∧ Dump.nodes dump ≠ [] then some (dump, origin) else none
  | _ => none

/-- The address that the access gives a slot to, if it is one of the cluster's slots. -/
def patch? (cluster : String) (slot : Nat) : Access → Option String
  | .write (.patch name place address) =>
    if name = cluster ∧ slot = place ∧ place < Slot.count then some address else none
  | _ => none

/-- Whether an access writes to a cluster: a dump that is accepted, or a slot that there is. -/
def alters (cluster : String) : Access → Bool
  | .write (.replace name dump _) => name = cluster ∧ Dump.nodes dump ≠ []
  | .write (.patch name slot _) => name = cluster ∧ slot < Slot.count
  | _ => false

end Access

end Store

/-! ## One access and one table -/

namespace Table

/-- The table of a cluster after an access to the store that holds it. -/
def after (table : Table) (cluster : String) : Store.Access → Table
  | .write (.replace name dump origin) =>
    if name = cluster then (Dump.table? dump origin).getD table else table
  | .write (.patch name slot address) =>
    if name = cluster then table.patch slot address else table
  | _ => table

variable {table : Table} {cluster : String} {access : Store.Access}

/-- An access that does not write to a cluster leaves its table alone: a read, a dump that is not
accepted, a slot past the last one, or an access to another cluster. -/
theorem after_of_not_alters (other : access.alters cluster = false) :
    table.after cluster access = table := by
  cases access with
  | write write =>
    cases write with
    | replace name dump origin =>
      by_cases same : name = cluster
      · have blank : Dump.nodes dump = [] := by simpa [Store.Access.alters, same] using other
        simp [after, same, Dump.table?, blank]
      · exact if_neg same
    | patch name slot address =>
      by_cases same : name = cluster
      · have past : ¬ slot < Slot.count := by simpa [Store.Access.alters, same] using other
        simp [after, same, patch, past]
      · exact if_neg same
  | owner => rfl
  | nodes => rfl
  | covered => rfl
  | needsBootstrap => rfl

theorem Sound.after (sound : table.Sound) (cluster : String) (access : Store.Access) :
    (table.after cluster access).Sound := by
  cases access with
  | write write =>
    cases write with
    | replace name dump origin =>
      simp only [Table.after]
      split
      · cases described : Dump.table? dump origin with
        | none => exact sound
        | some fresh => exact Dump.sound_table? described
      · exact sound
    | patch name slot address =>
      simp only [Table.after]
      split
      · exact sound.patch slot address
      · exact sound
  | owner => exact sound
  | nodes => exact sound
  | covered => exact sound
  | needsBootstrap => exact sound

/-- A dump that is accepted decides the owner of every slot, a patch that of its own slot. -/
theorem owner_after (sound : table.Sound) (slot : Nat) :
    (table.after cluster access).owner slot =
      match access.dump? cluster with
      | some (dump, origin) => Dump.owner? dump origin slot
      | none => (access.patch? cluster slot).or (table.owner slot) := by
  cases access with
  | write write =>
    cases write with
    | replace name dump origin =>
      by_cases same : name = cluster
      · cases described : Dump.table? dump origin with
        | none =>
          have blank : Dump.nodes dump = [] := by
            by_contra some_node
            obtain ⟨fresh, found⟩ := Dump.exists_table?_iff.2 some_node
            rw [described] at found
            simp at found
          simp [after, same, described, blank, Store.Access.dump?, Store.Access.patch?]
        | some fresh =>
          have some_node := Dump.exists_table?_iff.1 ⟨fresh, described⟩
          simp [after, same, described, some_node, Store.Access.dump?,
            Dump.owner_of_table? described]
      · simp [after, same, Store.Access.dump?, Store.Access.patch?]
    | patch name place address =>
      by_cases same : name = cluster
      · simp only [after, same, if_true, owner_patch sound, Store.Access.dump?,
          Store.Access.patch?, true_and]
        split
        · rfl
        · rfl
      · simp [after, same, Store.Access.dump?, Store.Access.patch?]
  | owner => rfl
  | nodes => rfl
  | covered => rfl
  | needsBootstrap => rfl

/-- A cluster is populated from the first dump on that is accepted. -/
theorem populated_after (table : Table) (cluster : String) (access : Store.Access) :
    (table.after cluster access).populated =
      ((access.dump? cluster).isSome || table.populated) := by
  cases access with
  | write write =>
    cases write with
    | replace name dump origin =>
      by_cases same : name = cluster
      · by_cases blank : Dump.nodes dump = []
        · simp [after, same, Dump.table?, blank, Store.Access.dump?]
        · simp [after, same, Dump.table?, blank, Store.Access.dump?]
      · simp [after, same, Store.Access.dump?]
    | patch name slot address =>
      simp only [after]
      split
      · exact populated_patch table slot address
      · rfl
  | owner => rfl
  | nodes => rfl
  | covered => rfl
  | needsBootstrap => rfl

end Table

namespace Store

theorem table_mention (store : Store) (cluster name : String) :
    (store.mention cluster).table name = store.table name := by
  unfold mention
  cases held : store.tables.lookup cluster with
  | some table => rfl
  | none =>
    rw [table_put]
    split
    · next same => simp [table, same, held]
    · rfl

/-- An access changes the table of a cluster, whatever else the store holds. -/
theorem table_access (store : Store) (access : Access) (cluster : String) :
    (store.access access).table cluster = (store.table cluster).after cluster access := by
  cases access with
  | write write =>
    cases write with
    | replace name dump origin =>
      cases described : Dump.table? dump origin with
      | none => simp [Store.access, Store.write, replace, Table.after, described]
      | some fresh =>
        simp [Store.access, Store.write, replace, Table.after, described, table_put,
          eq_comm (a := cluster)]
    | patch name slot address =>
      simp only [Store.access, Store.write, patch, table_put, Table.after]
      by_cases same : cluster = name
      · simp [same]
      · simp [same, Ne.symm same]
  | owner name slot => exact table_mention store name cluster
  | nodes name => exact table_mention store name cluster
  | covered name => exact table_mention store name cluster
  | needsBootstrap name => exact table_mention store name cluster

end Store

/-! ## Histories -/

namespace History

open Store (Access ofHistory)

/-- The latest dump of a cluster that was accepted, with its origin. -/
def dump? (cluster : String) (history : List Access) : Option (String × Option String) :=
  history.reverse.findSome? (Access.dump? cluster)

/-- The accesses since the latest dump of a cluster that was accepted, latest first. -/
def sinceDump (cluster : String) (history : List Access) : List Access :=
  history.reverse.takeWhile fun access => (access.dump? cluster).isNone

/-- The address of the latest patch of a slot since the latest dump that was accepted. -/
def patch? (cluster : String) (slot : Nat) (history : List Access) : Option String :=
  (sinceDump cluster history).findSome? (Access.patch? cluster slot)

/-- The owner of a slot: the address of the latest patch since the latest dump, otherwise what that
dump gives the slot to. -/
def owner? (cluster : String) (slot : Nat) (history : List Access) : Option String :=
  (patch? cluster slot history).or
    ((dump? cluster history).bind fun (dump, origin) => Dump.owner? dump origin slot)

/-- An accepted dump decides alone; behind any other access, its patch goes before what was. -/
theorem owner?_concat (cluster : String) (slot : Nat) (history : List Access) (access : Access) :
    owner? cluster slot (history ++ [access]) =
      match access.dump? cluster with
      | some (dump, origin) => Dump.owner? dump origin slot
      | none => (access.patch? cluster slot).or (owner? cluster slot history) := by
  unfold owner? patch? sinceDump dump?
  rw [List.reverse_concat, List.findSome?_cons, List.takeWhile_cons]
  cases access.dump? cluster with
  | some accepted => simp
  | none =>
    simp only [Option.isNone_none, if_true, List.findSome?_cons]
    cases access.patch? cluster slot <;> rfl

variable (history : List Access) (cluster : String)

theorem ofHistory_concat (access : Access) :
    ofHistory (history ++ [access]) = (ofHistory history).access access := List.foldl_concat ..

theorem sound_table : ((ofHistory history).table cluster).Sound := by
  induction history using List.reverseRecOn with
  | nil => exact Store.sound_empty cluster
  | append_singleton history access ih =>
    rw [ofHistory_concat, Store.table_access]
    exact ih.after cluster access

theorem owner_eq (slot : Nat) :
    (ofHistory history).owner cluster slot = owner? cluster slot history := by
  induction history using List.reverseRecOn with
  | nil => exact Table.owner_empty slot
  | append_singleton history access ih =>
    rw [ofHistory_concat, owner?_concat, ← ih, Store.owner, Store.table_access,
      Table.owner_after (sound_table history cluster)]
    rfl

theorem needsBootstrap_iff : (ofHistory history).needsBootstrap cluster = true ↔
    ∀ access ∈ history, access.dump? cluster = none := by
  induction history using List.reverseRecOn with
  | nil => exact ⟨fun _ _ member => absurd member List.not_mem_nil, fun _ => rfl⟩
  | append_singleton history access ih =>
    rw [ofHistory_concat, List.forall_mem_append, List.forall_mem_singleton, ← ih]
    simp [Store.needsBootstrap, Store.table_access, Table.populated_after, and_comm]

/-- The accesses that do not write to a cluster might as well not have been made. -/
theorem table_filter_alters :
    (ofHistory (history.filter (Access.alters cluster))).table cluster =
      (ofHistory history).table cluster := by
  induction history using List.reverseRecOn with
  | nil => rfl
  | append_singleton history access ih =>
    rw [List.filter_append, List.filter_singleton, ofHistory_concat, Store.table_access, ← ih]
    cases alters : access.alters cluster with
    | true => rw [Bool.cond_true, ofHistory_concat, Store.table_access]
    | false => rw [Bool.cond_false, List.append_nil, Table.after_of_not_alters alters]

end History

/-- What a store holds is decided by its history. After any accesses, in any order and to any
clusters:

* the owner of a slot is the address of the latest patch of the slot since the latest dump of the
  cluster that was accepted, otherwise what that dump gives the slot to, otherwise none;
* no slot past the last one has an owner;
* a cluster needs a bootstrap exactly as long as none of its dumps was accepted;
* the slots that are covered are those with an owner;
* a dump is accepted exactly if one of its lines describes a node;
* the table of a cluster is the same without the accesses that do not write to it: reads, dumps
  that are not accepted, slots past the last one, and accesses to other clusters. -/
theorem Store.history_decides (history : List Store.Access) (cluster : String) :
    let store := ofHistory history
    (∀ slot, store.owner cluster slot = History.owner? cluster slot history) ∧
      (∀ slot, Slot.count ≤ slot → store.owner cluster slot = none) ∧
      (store.needsBootstrap cluster = true ↔ ∀ access ∈ history, access.dump? cluster = none) ∧
      store.covered cluster =
        (List.range Slot.count).countP (fun slot => (store.owner cluster slot).isSome) ∧
      (∀ dump origin, (∃ replaced, store.replace cluster dump origin = .ok replaced) ↔
        Dump.nodes dump ≠ []) ∧
      (ofHistory (history.filter (Access.alters cluster))).table cluster = store.table cluster := by
  have sound := History.sound_table history cluster
  refine ⟨History.owner_eq history cluster, fun slot past => Table.owner_eq_none sound past,
    History.needsBootstrap_iff history cluster, Table.covered_eq_countP sound,
    fun dump origin => ?_, History.table_filter_alters history cluster⟩
  rw [← Dump.exists_table?_iff]
  constructor
  · rintro ⟨⟨summary, written⟩, accepted⟩
    obtain ⟨table, described, _⟩ := replace_eq_ok_iff.1 accepted
    exact ⟨table, described⟩
  · rintro ⟨table, described⟩
    exact ⟨_, replace_eq_ok_iff.2 ⟨table, described, rfl, rfl⟩⟩

/-- A dump that describes no node changes nothing, and a patch from before a dump does not count. -/
example : (Store.ofHistory [
    .write (.patch "c" 7 "a:1"),
    .write (.replace "c" "id x:1@2 master - 0 0 1 connected 5-6\n" none),
    .owner "d" 7,
    .write (.patch "c" 6 "y:1"),
    .write (.replace "c" "no node\n" none)]).owner "c" 6 = some "y:1" := by
  rw [History.owner_eq]
  decide +kernel

end ClusterProxy
