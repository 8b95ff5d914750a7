import ClusterProxy.Topology.Store
import Mathlib.Data.List.Nodup

/-!
# What slot tables and stores hold

`Table.Sound` is what every operation on a slot table keeps: there is an entry for each slot, every
owner is among the known addresses, and no address is known twice. `Store.Sound` says so of all
tables of a store.

A `Store.Write` is a dump or a single slot that somebody writes. A store that came about by writes
is sound (`Store.Sound.after`).
-/

namespace ClusterProxy

namespace Table

/-! ## The owner of a slot -/

@[simp] theorem size_give (owner : Option String) (owners : Array (Option String))
    (slot count : Nat) : (give owner owners slot count).size = owners.size := by
  induction count generalizing owners slot with
  | zero => rfl
  | succ count ih => rw [give, ih, Array.size_setIfInBounds]

/-- A run of slots is given, and every other slot is left alone. -/
theorem getElem?_give (owner : Option String) (owners : Array (Option String))
    (slot count place : Nat) :
    (give owner owners slot count)[place]? =
      if slot ≤ place ∧ place < slot + count ∧ place < owners.size then some owner
      else owners[place]? := by
  induction count generalizing owners slot with
  | zero =>
    rw [give, if_neg]
    omega
  | succ count ih =>
    rw [give, ih, Array.getElem?_setIfInBounds, Array.size_setIfInBounds]
    by_cases here : slot = place
    · subst here
      by_cases inside : slot < owners.size
      · rw [if_neg (by omega), if_pos rfl, if_pos inside, if_pos (by omega)]
      · rw [if_neg (by omega), if_pos rfl, if_neg inside, if_neg (by omega)]
        rw [Array.getElem?_eq_none (Nat.le_of_not_lt inside)]
    · rw [if_neg here]
      by_cases later : slot + 1 ≤ place ∧ place < slot + 1 + count ∧ place < owners.size
      · rw [if_pos later, if_pos (by omega)]
      · rw [if_neg later, if_neg (by omega)]

theorem owner_empty (slot : Nat) : empty.owner slot = none := by
  unfold owner empty
  rw [Array.getElem?_replicate]
  split <;> rfl

@[simp] theorem owner_learn (table : Table) (address : String) (slot : Nat) :
    (table.learn address).owner slot = table.owner slot := by
  unfold learn
  split <;> rfl

@[simp] theorem populated_assign (table : Table) (range : SlotRange) (address : String) :
    (table.assign range address).populated = table.populated := rfl

@[simp] theorem populated_learn (table : Table) (address : String) :
    (table.learn address).populated = table.populated := by
  unfold learn
  split <;> rfl

theorem mem_nodes_learn {table : Table} {address node : String} :
    node ∈ (table.learn address).nodes ↔ node ∈ table.nodes ∨ node = address := by
  unfold learn
  split
  · next known =>
    rw [List.contains_eq_mem, decide_eq_true_eq] at known
    constructor
    · exact .inl
    · rintro (listed | rfl)
      · exact listed
      · exact known
  · simp

/-! ## What every table keeps -/

/-- There is an entry for each slot, every owner is known, and no address is known twice. -/
structure Sound (table : Table) : Prop where
  size : table.owners.size = Slot.count
  known : ∀ slot address, table.owner slot = some address → address ∈ table.nodes
  distinct : table.nodes.Nodup

theorem sound_empty : empty.Sound where
  size := Array.size_replicate
  known slot address owned := by simp [owner_empty] at owned
  distinct := List.nodup_nil

variable {table : Table}

theorem Sound.learn (sound : table.Sound) (address : String) : (table.learn address).Sound where
  size := by
    have := sound.size
    unfold Table.learn
    split <;> exact this
  known slot owner owned := by
    rw [owner_learn] at owned
    exact mem_nodes_learn.2 (.inl (sound.known slot owner owned))
  distinct := by
    unfold Table.learn
    split
    · exact sound.distinct
    · next unknown =>
      rw [List.contains_eq_mem, decide_eq_true_eq] at unknown
      exact List.nodup_append.2 ⟨sound.distinct, List.nodup_singleton _, by
        rintro node listed _ added rfl
        exact unknown (List.mem_singleton.1 added ▸ listed)⟩

/-- The owner of a slot after a range of slots is given to an address. -/
theorem owner_assign (sound : table.Sound) (range : SlotRange) (address : String) (slot : Nat) :
    (table.assign range address).owner slot =
      if range.contains slot ∧ slot < Slot.count then some address else table.owner slot := by
  have last := range.ordered
  unfold owner assign SlotRange.contains SlotRange.length
  rw [getElem?_give, sound.size]
  simp only [Bool.and_eq_true, decide_eq_true_eq]
  by_cases inside : range.first ≤ slot ∧ slot ≤ range.last ∧ slot < Slot.count
  · rw [if_pos (by omega), if_pos (by omega), Option.join_some]
  · rw [if_neg (by omega), if_neg (by omega)]

theorem Sound.assign (sound : table.Sound) (range : SlotRange) {address : String}
    (known : address ∈ table.nodes) : (table.assign range address).Sound where
  size := by
    unfold Table.assign
    rw [size_give]
    exact sound.size
  known slot owner owned := by
    rw [owner_assign sound] at owned
    split at owned
    · rw [Option.some.injEq] at owned
      exact owned ▸ known
    · exact sound.known slot owner owned
  distinct := sound.distinct

theorem Sound.patch (sound : table.Sound) (slot : Nat) (address : String) :
    (table.patch slot address).Sound := by
  unfold Table.patch
  split
  · exact (sound.learn address).assign _ (mem_nodes_learn.2 (.inr rfl))
  · exact sound

/-- The owner of a slot after a single slot is given to an address. -/
theorem owner_patch (sound : table.Sound) (slot : Nat) (address : String) (place : Nat) :
    (table.patch slot address).owner place =
      if place = slot ∧ slot < Slot.count then some address else table.owner place := by
  unfold Table.patch
  by_cases inside : slot < Slot.count
  · rw [if_pos inside, owner_assign (sound.learn address), owner_learn]
    have single : (SlotRange.ofBounds slot slot).contains place ∧ place < Slot.count ↔
        place = slot ∧ slot < Slot.count := by
      simp only [SlotRange.contains, SlotRange.ofBounds, Nat.max_self, Bool.and_eq_true,
        decide_eq_true_eq]
      omega
    simp only [single]
  · rw [if_neg inside, if_neg fun here => inside here.2]

@[simp] theorem populated_patch (table : Table) (slot : Nat) (address : String) :
    (table.patch slot address).populated = table.populated := by
  unfold Table.patch
  split
  · rw [populated_assign, populated_learn]
  · rfl

theorem Sound.record (sound : table.Sound) (address : String) (ranges : List SlotRange) :
    (table.record address ranges).Sound := by
  have known : address ∈ (table.learn address).nodes := mem_nodes_learn.2 (.inr rfl)
  have learned := sound.learn address
  unfold Table.record
  generalize table.learn address = table at known learned
  clear sound
  -- The induction is on the ranges, for any table that knows the address.
  induction ranges generalizing table with
  | nil => exact learned
  | cons range ranges ih => exact ih _ known (learned.assign range known)

end Table

/-- A dump describes a sound table. -/
theorem Dump.sound_table? {dump : String} {origin : Option String} {table : Table}
    (described : table? dump origin = some table) : table.Sound := by
  have recorded (masters : List Node) {table : Table} (sound : table.Sound) :
      (masters.foldl (fun table node => table.record (addressOf origin node) node.ranges)
        table).Sound := by
    induction masters generalizing table with
    | nil => exact sound
    | cons node masters ih => exact ih (sound.record _ _)
  unfold table? at described
  split at described
  · simp at described
  · obtain rfl := Option.some.inj described
    have sound := recorded (masters dump) Table.sound_empty
    exact ⟨sound.size, sound.known, sound.distinct⟩

namespace Store

/-! ## Stores -/

theorem lookup_filter_ne {tables : List (String × Table)} {cluster name : String}
    (other : name ≠ cluster) :
    (tables.filter fun entry => entry.1 != cluster).lookup name = tables.lookup name := by
  induction tables with
  | nil => rfl
  | cons entry tables ih =>
    obtain ⟨key, table⟩ := entry
    by_cases skipped : key = cluster
    · have unlike : (name == key) = false := by simp [skipped, other]
      rw [List.filter_cons_of_neg (by simp [skipped]), List.lookup_cons, unlike, ih]
    · rw [List.filter_cons_of_pos (by simp [skipped]), List.lookup_cons, List.lookup_cons, ih]

/-- The table that is put into a store is the table of its cluster, and no other table changes. -/
theorem table_put (store : Store) (cluster : String) (table : Table) (name : String) :
    (store.put cluster table).table name = if name = cluster then table else store.table name := by
  unfold Store.table put
  by_cases same : name = cluster
  · subst same
    rw [List.lookup_cons_self, Option.getD_some, if_pos rfl]
  · have unlike : (name == cluster) = false := by simp [same]
    rw [List.lookup_cons, unlike, lookup_filter_ne same, if_neg same]

/-- All tables of the store are sound. -/
def Sound (store : Store) : Prop := ∀ cluster, (store.table cluster).Sound

theorem sound_empty : empty.Sound := fun _ => Table.sound_empty

variable {store : Store}

theorem Sound.put (sound : store.Sound) (cluster : String) {table : Table} (fit : table.Sound) :
    (store.put cluster table).Sound := by
  intro name
  rw [table_put]
  split
  · exact fit
  · exact sound name

theorem Sound.patch (sound : store.Sound) (cluster : String) (slot : Nat) (address : String) :
    (store.patch cluster slot address).Sound :=
  sound.put cluster ((sound cluster).patch slot address)

/-- What a replacement does that is accepted. -/
theorem replace_eq_ok_iff {cluster dump : String} {origin : Option String}
    {summary : Dump.Summary} {written : Store} :
    store.replace cluster dump origin = .ok (summary, written) ↔
      ∃ table, Dump.table? dump origin = some table ∧ summary = Dump.summary dump table ∧
        written = store.put cluster table := by
  unfold replace
  cases Dump.table? dump origin with
  | none => simp
  | some table => simp [eq_comm]

theorem Sound.replace (sound : store.Sound) {cluster dump : String} {origin : Option String}
    {summary : Dump.Summary} {written : Store}
    (accepted : store.replace cluster dump origin = .ok (summary, written)) : written.Sound := by
  obtain ⟨table, described, _, rfl⟩ := replace_eq_ok_iff.1 accepted
  exact sound.put cluster (Dump.sound_table? described)

/-- The owner of any slot of any cluster after a single slot is given to an address. -/
theorem owner_patch (sound : store.Sound) (cluster : String) (slot : Nat) (address : String)
    (name : String) (place : Nat) :
    (store.patch cluster slot address).owner name place =
      if name = cluster ∧ place = slot ∧ slot < Slot.count then some address
      else store.owner name place := by
  unfold owner Store.patch
  rw [table_put]
  by_cases same : name = cluster
  · subst same
    simp only [if_true, Table.owner_patch (sound name), true_and]
  · rw [if_neg same, if_neg fun here => same here.1]

@[simp] theorem needsBootstrap_patch (store : Store) (cluster : String) (slot : Nat)
    (address name : String) :
    (store.patch cluster slot address).needsBootstrap name = store.needsBootstrap name := by
  unfold needsBootstrap Store.patch
  rw [table_put]
  split
  · next same => rw [same, Table.populated_patch]
  · rfl

/-! ## Writes -/

/-- Something that is written to a store: a dump of a cluster, or a single slot. -/
inductive Write where
  | replace (cluster dump : String) (origin : Option String)
  | patch (cluster : String) (slot : Nat) (address : String)
deriving DecidableEq, Repr

/-- Writes to a store. A dump that is not accepted changes nothing. -/
def write (store : Store) : Write → Store
  | .replace cluster dump origin =>
    match store.replace cluster dump origin with
    | .ok (_, written) => written
    | .error _ => store
  | .patch cluster slot address => store.patch cluster slot address

/-- Writes to a store one after the other. -/
def after (store : Store) (writes : List Write) : Store := writes.foldl write store

theorem Sound.write (sound : store.Sound) (write : Write) : (store.write write).Sound := by
  unfold Store.write
  cases write with
  | replace cluster dump origin =>
    dsimp only
    split
    · next accepted => exact sound.replace accepted
    · exact sound
  | patch cluster slot address => exact sound.patch cluster slot address

theorem Sound.after (sound : store.Sound) (writes : List Write) : (store.after writes).Sound := by
  induction writes generalizing store with
  | nil => exact sound
  | cons write writes ih => exact ih (sound.write write)

end Store

end ClusterProxy
