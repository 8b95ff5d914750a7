import ClusterProxy.Proofs.Keys
import ClusterProxy.Proofs.Router.Cluster

/-!
# A stale table heals itself

A store has the slot of a request under some node, right or wrong, and the nodes of a consistent
cluster answer. Then the request is sent three times at most, twice if its slot is not under way,
the store has the slot under its owner in the end, and nothing else in the store has changed
(`Cluster.journey_heals`).

The reply that a node serves reaches the client exactly if none of its arrays has more elements than
the limit divided by `Frame.minElementLength`. That is more than that the reply is no longer than
the limit (`Cluster.wide_reply_not_forwarded`).
-/

namespace ClusterProxy

namespace Cluster

variable {cluster : Cluster} {slot : Nat} {flight : InFlight} {request : Request}
  {redirects : UInt32} {store : Store}

/-! ## The whole journey -/

variable {cuts : Nat → Bytes → List Bytes} {first : Store} {k : Nat}

theorem reply_mem_replies (node : String) (asking : Bool) :
    cluster.reply slot request.bytes node asking ∈
      cluster.replies slot request.bytes (InFlight.payload request asking) node := by
  cases asking <;> simp [replies, InFlight.payload, Call.ne_withAsking]

theorem granted_mem_replies (node : String) : granted ∈
    cluster.replies slot request.bytes (Call.withAsking request.bytes) node := by
  simp [replies]

/-- Once the request is sent to the owner of its slot, it is served there or by the target. -/
theorem journey_owner (known : flight.request = some request)
    (whole : ∀ n bytes, (cuts n bytes).flatten = bytes) (inside : slot < Slot.count)
    (consistent : cluster.Consistent request.bytes)
    (fits : ∀ node payload, ∀ reply ∈ cluster.replies slot request.bytes payload node,
      reply.length ≤ flight.settings.maxFrameSize)
    (few : redirects + 1 ≤ flight.settings.maxRedirects)
    (sent : Sent flight request redirects store (cluster.owner slot) false
      (cluster.journey slot request.bytes cuts flight first k)) :
    ∃ sends ≤ if (cluster.target slot).isSome then k + 2 else k + 1, k < sends ∧
      (∀ n, k ≤ n → n < sends → ∃ node payload delay,
        (cluster.journey slot request.bytes cuts flight first n).action =
          .dispatch node payload delay) ∧
      Served flight.settings.maxFrameSize
        (cluster.serve ((cluster.target slot).getD (cluster.owner slot)) request.bytes)
        (cluster.journey slot request.bytes cuts flight first sends) ∧
      (cluster.journey slot request.bytes cuts flight first sends).store = store := by
  cases under : cluster.target slot with
  | none =>
    have serves : cluster.reply slot request.bytes (cluster.owner slot) false =
        cluster.serve (cluster.owner slot) request.bytes := by simp [reply, under]
    obtain ⟨served, kept⟩ := follow_served (whole k) serves consistent (by simp)
      (fits _ _ _ (reply_mem_replies _ false)) sent
    refine ⟨k + 1, by simp, by omega, fun n low high => ?_, served, kept⟩
    obtain rfl : n = k := by omega
    exact ⟨_, _, _, sent.acts⟩
  | some target =>
    have word := consistent.targets slot inside target under
    have line : cluster.reply slot request.bytes (cluster.owner slot) false =
        (Message.error (Redirect.line "ASK" slot target)).encode := by simp [reply, under]
    -- An `ASK` is followed without a write, so the store still has the slot under its owner.
    have asked : Sent flight request (redirects + 1) store target true
        (cluster.journey slot request.bytes cuts flight first (k + 1)) :=
      follow_redirect known (whole k) line (Redirect.return_not_mem Text.isWord_ask slot word)
        (Reading.ofError_ask inside word) (fun _ _ _ => rfl)
        (fits _ _ _ (reply_mem_replies _ false)) few sent
    have serves : cluster.reply slot request.bytes target true =
        cluster.serve target request.bytes := by simp [reply, under]
    obtain ⟨served, kept⟩ := follow_served (whole (k + 1)) serves consistent
      (fun _ => fits _ _ _ (granted_mem_replies target))
      (fits _ _ _ (reply_mem_replies _ true)) asked
    refine ⟨k + 2, by simp, by omega, fun n low high => ?_, served, kept⟩
    obtain rfl | rfl : n = k ∨ n = k + 1 := by omega
    · exact ⟨_, _, _, sent.acts⟩
    · exact ⟨_, _, _, asked.acts⟩

end Cluster

/-- A request that is accepted for keys of one slot is routed to that slot. -/
theorem Router.targetSlot_accept {router : Router} {cluster : String} {client : Decoder}
    {flight : InFlight} {request : Request} {slot : Nat}
    (taken : (router.accept cluster client).1 = .complete flight)
    (known : flight.request = some request) (keyed : request.groups ≠ [])
    (same : ∀ group ∈ request.groups, ∀ item ∈ group.items, item.slot = slot) :
    flight = ⟨cluster, router.settings, some request, .classified, 0, 0⟩ ∧
      request.targetSlot = .ok (some slot) ∧ slot < Slot.count := by
  obtain ⟨decoded, rest, _, rfl⟩ := router.accept_eq_complete taken
  unfold Router.receive at known ⊢
  cases accepted : Request.ofDecoded decoded with
  | error fault => simp [accepted] at known
  | ok found =>
    rw [accepted] at known
    obtain rfl : found = request := Option.some.inj known
    exact ⟨rfl, Request.targetSlot_of_slots accepted keyed same⟩

/-! ## Healing -/

/-- What a request comes to after it was sent so many times.

* `sent`: each time before the end, it is sent to a node.
* `served`: in the end it has the reply of the target if there is one, and else that of the owner.
* `owner`: the slot is under its owner.
* `others`, `populated`: nothing else in the store has changed. -/
structure Cluster.Heals (cluster : Cluster) (slot : Nat) (request : Bytes) (flight : InFlight)
    (store : Store) (journey : Nat → Outcome) (sends : Nat) : Prop where
  sent : ∀ n < sends, ∃ node payload delay, (journey n).action = .dispatch node payload delay
  served : Cluster.Served flight.settings.maxFrameSize
    (cluster.serve ((cluster.target slot).getD (cluster.owner slot)) request) (journey sends)
  owner : (journey sends).store.owner flight.cluster slot = some (cluster.owner slot)
  others : ∀ name place, ¬ (name = flight.cluster ∧ place = slot) →
    (journey sends).store.owner name place = store.owner name place
  populated : ∀ name, (journey sends).store.needsBootstrap name = store.needsBootstrap name

/-- A request for one slot, whose owner the store has right or wrong, heals the store. -/
theorem Cluster.journey_heals {router : Router} {name : String} {client : Decoder}
    {flight : InFlight} {request : Request} {slot : Nat} {cluster : Cluster}
    {writes : List Store.Write} {cuts : Nat → Bytes → List Bytes}
    (taken : (router.accept name client).1 = .complete flight)
    (known : flight.request = some request) (keyed : request.groups ≠ [])
    (same : ∀ group ∈ request.groups, ∀ item ∈ group.items, item.slot = slot)
    (patient : 2 ≤ router.settings.maxRedirects)
    (populated : (Store.empty.after writes).needsBootstrap name = false)
    (recorded : ((Store.empty.after writes).owner name slot).isSome)
    (consistent : cluster.Consistent request.bytes)
    (fits : ∀ node payload, ∀ reply ∈ cluster.replies slot request.bytes payload node,
      reply.length ≤ router.settings.maxFrameSize)
    (whole : ∀ n bytes, (cuts n bytes).flatten = bytes) :
    ∃ sends ≤ if (cluster.target slot).isSome then 3 else 2,
      cluster.Heals slot request.bytes flight (Store.empty.after writes)
        (cluster.journey slot request.bytes cuts flight (Store.empty.after writes)) sends := by
  obtain ⟨received, target, inside⟩ := Router.targetSlot_accept taken known keyed same
  have sound := Store.sound_empty.after writes
  obtain rfl : flight.cluster = name := by rw [received]
  have settings : flight.settings = router.settings := by rw [received]
  rw [← settings] at fits patient
  generalize Store.empty.after writes = store at *
  obtain ⟨node, owned⟩ := Option.isSome_iff_exists.1 recorded
  have started : flight.start store = flight.dispatch (some node) none false := by
    have phase : flight.phase = .classified := by rw [received]
    simp [InFlight.start, InFlight.route, phase, known, target, populated, owned]
  have unredirected : { flight with redirects := 0 } = flight := by rw [received]
  have sent : Sent flight request 0 store node false
      (cluster.journey slot request.bytes cuts flight store 0) :=
    .of_dispatch known (by rw [unredirected]; exact started) rfl
  have once : (0 : UInt32) + 1 ≤ flight.settings.maxRedirects :=
    UInt32.le_trans (by decide) patient
  have twice : (0 : UInt32) + 1 + 1 ≤ flight.settings.maxRedirects :=
    UInt32.le_trans (by decide) patient
  rcases Decidable.em (node = cluster.owner slot) with rfl | wrong
  · obtain ⟨sends, few, _, dispatched, served, kept⟩ := journey_owner known whole inside consistent
      fits once sent
    refine ⟨sends, Nat.le_trans few (by split <;> decide),
      fun n before => dispatched n (Nat.zero_le n) before, served, ?_, ?_, ?_⟩
    · rw [kept]
      exact owned
    · intro name place _
      rw [kept]
    · intro name
      rw [kept]
  · -- The node that the store names sends the request to the owner, and the store learns of it.
    have word := consistent.owners slot inside
    have line : cluster.reply slot request.bytes node false =
        (Message.error (Redirect.line "MOVED" slot (cluster.owner slot))).encode := by
      simp [reply, wrong]
    have moved : Sent flight request (0 + 1) (store.patch flight.cluster slot (cluster.owner slot))
        (cluster.owner slot) false (cluster.journey slot request.bytes cuts flight store 1) :=
      follow_redirect known (whole 0) line (Redirect.return_not_mem Text.isWord_moved slot word)
        (Reading.ofError_moved inside word) (fun _ _ _ => rfl)
        (fits _ _ _ (reply_mem_replies _ false)) once sent
    obtain ⟨sends, few, _, dispatched, served, kept⟩ := journey_owner known whole inside consistent
      fits twice moved
    refine ⟨sends, Nat.le_trans few (by split <;> decide), fun n before => ?_, served, ?_, ?_, ?_⟩
    · rcases Nat.eq_zero_or_pos n with rfl | later
      · exact ⟨_, _, _, sent.acts⟩
      · exact dispatched n later before
    · rw [kept, Store.owner_patch sound, if_pos ⟨rfl, rfl, inside⟩]
    · intro name place elsewhere
      rw [kept, Store.owner_patch sound, if_neg fun here => elsewhere ⟨here.1, here.2.1⟩]
    · intro name
      rw [kept, Store.needsBootstrap_patch]

/-- All replies of a consistent cluster fit if what is served fits and the redirects do. -/
theorem Cluster.fits_of {cluster : Cluster} {slot limit : Nat} {request : Bytes}
    (acks : granted.length ≤ limit) (serves : ∀ node, (cluster.serve node request).length ≤ limit)
    (moves :
      (Message.error (Redirect.line "MOVED" slot (cluster.owner slot))).encode.length ≤ limit)
    (asks : ∀ target, cluster.target slot = some target →
      (Message.error (Redirect.line "ASK" slot target)).encode.length ≤ limit) :
    ∀ node payload, ∀ reply ∈ cluster.replies slot request payload node, reply.length ≤ limit := by
  intro node payload
  have replied (asking : Bool) : (cluster.reply slot request node asking).length ≤ limit := by
    unfold reply
    split
    · exact serves node
    · split
      · split
        · next target under => exact asks target under
        · exact serves node
      · exact moves
  unfold replies
  split
  · simp [acks, replied]
  · simp [replied]

namespace Cluster.Sample

def request : Request :=
  ⟨Run.Sample.decoded, ⟨.get, "GET", .keyOnly⟩, [⟨9, [⟨Text.utf8 "ru", none⟩]⟩]⟩

/-- A dump by which slot 9 belongs to `a:1`. -/
def writes : List Store.Write := [.replace "c" "id0 a:1@2 master - 0 0 1 connected 0-9\n" none]

def brief : Bytes := Text.utf8 "$2\r\nhi\r\n"

/-- Every slot belongs to `b:1` and is under way to `t:1`. -/
def moving : Cluster := ⟨fun _ => "b:1", fun _ => some "t:1", fun _ _ => brief⟩

def octets (_ : Nat) (bytes : Bytes) : List Bytes := bytes.map fun b => [b]

theorem flatten_octets (n : Nat) (bytes : Bytes) : (octets n bytes).flatten = bytes := by
  induction bytes with
  | nil => rfl
  | cons b bytes ih => exact congrArg (b :: ·) ih

theorem consistent_moving : moving.Consistent request.bytes where
  apart _ _ := by simp [moving]
  owners _ _ := (⟨by decide, by decide, by decide, by decide⟩ : Text.IsWord "b:1")
  targets _ _ target under := by
    obtain rfl : "t:1" = target := Option.some.inj under
    exact ⟨by decide, by decide, by decide, by decide⟩
  serves _ := by
    have found : Frame.find 8 brief = .complete ⟨⟨.bulk, some ⟨4, 6⟩, false, []⟩, 8⟩ := by
      decide +kernel
    exact isFrame_of_find found rfl
  final _ text same := by
    have head : brief.head? = some 45 := congrArg List.head? same
    exact absurd head (by decide)

theorem fits_moving : ∀ node payload, ∀ reply ∈ moving.replies 9 request.bytes payload node,
    reply.length ≤ Run.Sample.router.settings.maxFrameSize := by
  have short : brief.length ≤ 200 := by decide
  refine fits_of (by decide) (fun _ => short) (by decide +kernel) fun target under => ?_
  obtain rfl : "t:1" = target := Option.some.inj under
  decide +kernel

end Cluster.Sample

/-- The store has the slot under `a:1`, which sends the request to `b:1`, which sends it to `t:1`.
-/
theorem Cluster.journey_heals_moving :
    (Run.Sample.router.accept "c" Run.Sample.client).1 = .complete Run.Sample.flight ∧
      Run.Sample.flight.request = some Sample.request ∧ Sample.request.groups ≠ [] ∧
      (∀ group ∈ Sample.request.groups, ∀ item ∈ group.items, item.slot = 9) ∧
      2 ≤ Run.Sample.router.settings.maxRedirects ∧
      (Store.empty.after Sample.writes).needsBootstrap "c" = false ∧
      ((Store.empty.after Sample.writes).owner "c" 9).isSome ∧
      Sample.moving.Consistent Sample.request.bytes ∧
      (∀ node payload, ∀ reply ∈ Sample.moving.replies 9 Sample.request.bytes payload node,
        reply.length ≤ Run.Sample.router.settings.maxFrameSize) ∧
      (∀ n bytes, (Sample.octets n bytes).flatten = bytes) ∧
      ∃ sends ≤ if (Sample.moving.target 9).isSome then 3 else 2,
        Sample.moving.Heals 9 Sample.request.bytes Run.Sample.flight
          (Store.empty.after Sample.writes)
          (Sample.moving.journey 9 Sample.request.bytes Sample.octets Run.Sample.flight
            (Store.empty.after Sample.writes)) sends := by
  have known : Run.Sample.flight.request = some Sample.request := by decide +kernel
  have same : ∀ group ∈ Sample.request.groups, ∀ item ∈ group.items, item.slot = 9 := by
    decide +kernel
  have populated : (Store.empty.after Sample.writes).needsBootstrap "c" = false := by
    decide +kernel
  have recorded : ((Store.empty.after Sample.writes).owner "c" 9).isSome := by decide +kernel
  exact ⟨Run.Sample.accepted, known, by decide, same, by decide, populated, recorded,
    Sample.consistent_moving, Sample.fits_moving, Sample.flatten_octets,
    Cluster.journey_heals Run.Sample.accepted known (by decide) same (by decide) populated recorded
      Sample.consistent_moving Sample.fits_moving Sample.flatten_octets⟩

namespace Cluster.Sample

/-- A router that takes no frame of more than 40 octets. -/
def narrow : Router := ⟨⟨2, 0, [], 40, .reject⟩⟩

/-- An array of eleven empty lines, 38 octets in all. -/
def lines : Bytes :=
  Text.utf8 "*11\r\n+\r\n+\r\n+\r\n+\r\n+\r\n+\r\n+\r\n+\r\n+\r\n+\r\n+\r\n"

def wide : Cluster := ⟨fun _ => "a:1", fun _ => none, fun _ _ => lines⟩

theorem consistent_wide : wide.Consistent request.bytes where
  apart _ _ := by simp [wide]
  owners _ _ := (⟨by decide, by decide, by decide, by decide⟩ : Text.IsWord "a:1")
  targets _ _ target under := by simp [wide] at under
  serves _ := by
    have found : Frame.find 44 lines = .complete ⟨⟨.array, none, false,
        (List.range 11).map fun n => ⟨.status, some ⟨6 + 3 * n, 6 + 3 * n⟩⟩⟩, 38⟩ := by
      decide +kernel
    exact isFrame_of_find found rfl
  final _ text same := by
    have head : lines.head? = some 45 := congrArg List.head? same
    exact absurd head (by decide)

theorem fits_wide : ∀ node payload, ∀ reply ∈ wide.replies 9 request.bytes payload node,
    reply.length ≤ narrow.settings.maxFrameSize := by
  have short : lines.length ≤ 40 := by decide +kernel
  exact fits_of (by decide) (fun _ => short) (by decide +kernel) fun target under => by
    simp [wide] at under

def journey : Nat → Outcome :=
  wide.journey 9 request.bytes (fun _ bytes => [bytes]) (narrow.receive "c" Run.Sample.decoded)
    (Store.empty.after writes)

theorem dropped (n : Nat) : ∃ reply, (journey (n + 1)).action = .dropBackend reply := by
  induction n with
  | zero =>
    refine ⟨Fault.reply (.protocol
      ("backend a:1 sent " ++ (Fault.ofFrame .tooManyElements).message)), ?_⟩
    decide +kernel
  | succ n ih =>
    obtain ⟨reply, drops⟩ := ih
    refine ⟨reply, ?_⟩
    show (wide.follow 9 request.bytes _ (journey (n + 1))).action = _
    unfold follow
    rw [drops]
    exact drops

end Cluster.Sample

/-- A reply of 38 octets is not passed on although the limit is 40, since it is an array of eleven
elements and the decoder takes an element to need four octets. -/
theorem Cluster.wide_reply_not_forwarded :
    (Sample.narrow.accept "c" Run.Sample.client).1 =
        .complete (Sample.narrow.receive "c" Run.Sample.decoded) ∧
      (Sample.narrow.receive "c" Run.Sample.decoded).request = some Sample.request ∧
      (∀ group ∈ Sample.request.groups, ∀ item ∈ group.items, item.slot = 9) ∧
      2 ≤ Sample.narrow.settings.maxRedirects ∧
      (Store.empty.after Sample.writes).needsBootstrap "c" = false ∧
      ((Store.empty.after Sample.writes).owner "c" 9).isSome ∧
      Sample.wide.Consistent Sample.request.bytes ∧
      (∀ node payload, ∀ reply ∈ Sample.wide.replies 9 Sample.request.bytes payload node,
        reply.length ≤ Sample.narrow.settings.maxFrameSize) ∧
      ∀ n, (Sample.journey n).action ≠ .forward (Sample.wide.serve "a:1" Sample.request.bytes) := by
  refine ⟨by decide +kernel, by decide +kernel, by decide +kernel, by decide, by decide +kernel,
    by decide +kernel, Sample.consistent_wide, Sample.fits_wide, fun n => ?_⟩
  cases n with
  | zero => decide +kernel
  | succ n =>
    obtain ⟨reply, drops⟩ := Sample.dropped n
    rw [drops]
    simp

end ClusterProxy
