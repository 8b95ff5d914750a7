import ClusterProxy.Proofs.Frame.Layout
import ClusterProxy.Proofs.Router.Pieces
import ClusterProxy.Proofs.Topology.Reading

/-!
# A consistent cluster

A `Cluster` says for each slot which node owns it and which node it is under way to, if any, and its
nodes answer requests accordingly (`Cluster.replies`). `Cluster.journey` is what becomes of a
request when its replies arrive in any pieces.

One exchange with a node either has the request sent to another node (`Cluster.follow_redirect`) or
ends it (`Cluster.follow_served`).
-/

namespace ClusterProxy

/-- Every slot has an owner and may be under way to a target. `serve` is what a node serves a
request with. -/
structure Cluster where
  owner : Nat → String
  target : Nat → Option String
  serve : String → Bytes → Bytes

namespace Cluster

def granted : Bytes := Text.utf8 "+OK\r\n"

/-- The reply of a node to a request for a slot. The target of the slot serves it behind `ASKING`.
The owner serves it if the slot is not under way, and sends it to the target if it is. Any other
node sends it to the owner. -/
def reply (cluster : Cluster) (slot : Nat) (request : Bytes) (node : String) (asking : Bool) :
    Bytes :=
  if asking = true ∧ cluster.target slot = some node then cluster.serve node request
  else if node = cluster.owner slot then
    match cluster.target slot with
    | some target => (Message.error (Redirect.line "ASK" slot target)).encode
    | none => cluster.serve node request
  else (Message.error (Redirect.line "MOVED" slot (cluster.owner slot))).encode

/-- The replies of a node to a payload, one for each command in it. -/
def replies (cluster : Cluster) (slot : Nat) (request payload : Bytes) (node : String) :
    List Bytes :=
  if payload = Call.withAsking request then [granted, cluster.reply slot request node true]
  else [cluster.reply slot request node false]

/-- No slot is under way to its owner, addresses are words, and what is served is a frame and no
redirect. -/
structure Consistent (cluster : Cluster) (request : Bytes) : Prop where
  apart : ∀ slot < Slot.count, cluster.target slot ≠ some (cluster.owner slot)
  owners : ∀ slot < Slot.count, Text.IsWord (cluster.owner slot)
  targets : ∀ slot < Slot.count, ∀ target, cluster.target slot = some target → Text.IsWord target
  serves : ∀ node, IsFrame (cluster.serve node request)
  final : ∀ node text, cluster.serve node request = (Message.error text).encode →
    Reading.firstWord text ∉ [Text.utf8 "MOVED", Text.utf8 "ASK", Text.utf8 "TRYAGAIN"]

/-- If the request was sent to a node, hears the replies of that node, cut into pieces. -/
def follow (cluster : Cluster) (slot : Nat) (request : Bytes) (cut : Bytes → List Bytes)
    (outcome : Outcome) : Outcome :=
  match outcome.action with
  | .dispatch (some node) payload _ =>
    outcome.flight.hear outcome.store (.empty outcome.flight.settings.maxFrameSize)
      (cut (cluster.replies slot request payload node).flatten)
  | _ => outcome

/-- What became of a request after it was started and `n` times the replies of the node that it was
sent to were heard. -/
def journey (cluster : Cluster) (slot : Nat) (request : Bytes) (cuts : Nat → Bytes → List Bytes)
    (flight : InFlight) (store : Store) : (n : Nat) → Outcome
  | 0 => ⟨flight.start store, store, .empty flight.settings.maxFrameSize⟩
  | n + 1 => cluster.follow slot request (cuts n)
      (cluster.journey slot request cuts flight store n)

end Cluster

/-! ## Hearing whole replies -/

namespace InFlight

variable {flight : InFlight} {attempt : Attempt} {store : Store}

/-- A reply that is a frame is acted on. -/
theorem readReply_of_find {limit : Nat} {bytes : Bytes} {frame : Frame}
    (found : Frame.find limit bytes = .complete frame) (whole : frame.length = bytes.length) :
    flight.readReply attempt store ⟨limit, bytes⟩ =
      flight.receive attempt store ⟨limit, []⟩ ⟨bytes, frame⟩ := by
  have given : (⟨limit, bytes⟩ : Decoder).next = (.complete ⟨bytes, frame⟩, ⟨limit, []⟩) := by
    refine Decoder.next_eq_complete_iff.2 ⟨found, ?_, ?_⟩
    · rw [whole, List.take_length]
    · rw [whole, List.drop_length]
  unfold readReply
  rw [given]

/-- The reply to the request is read from what comes behind the answer to `ASKING`, if there is
one. -/
theorem onReply_behind {node : Option String} {asking : Bool} {limit : Nat}
    (fits : asking = true → Cluster.granted.length ≤ limit)
    (attempted : flight.phase.attempt? =
      some ⟨node, asking, if asking then .pending else .settled⟩) (bytes : Bytes) :
    flight.onReply store ⟨limit, (if asking then Cluster.granted else []) ++ bytes⟩ =
      flight.readReply ⟨node, asking, .settled⟩ store ⟨limit, bytes⟩ := by
  cases asking with
  | false => exact onReply_of_ne_pending attempted (by simp)
  | true =>
    have found : Frame.find 5 Cluster.granted =
        .complete ⟨⟨.status, some ⟨1, 3⟩, false, []⟩, 5⟩ := by decide +kernel
    have given : (⟨limit, Cluster.granted ++ bytes⟩ : Decoder).next =
        (.complete ⟨Cluster.granted, ⟨⟨.status, some ⟨1, 3⟩, false, []⟩, 5⟩⟩, ⟨limit, bytes⟩) :=
      Decoder.next_eq_complete_iff.2
        ⟨Frame.find_append (Frame.find_of_limit_le (fits rfl) found) bytes, rfl, rfl⟩
    rw [onReply_of_pending attempted rfl]
    unfold readAck
    rw [if_pos rfl, given]
    rfl

/-- A redirect is followed. -/
theorem readReply_redirect {limit : Nat} {text : Bytes} {reading : Reading}
    (noReturn : Bytes.cr ∉ text) (fits : (Message.error text).encode.length ≤ limit)
    (settled : attempt.ack = .settled) (read : Reading.ofError text = .ok reading) :
    ∃ reply, flight.readReply attempt store ⟨limit, (Message.error text).encode⟩ =
      ⟨flight.settle attempt reply reading, store.heed flight.cluster reading, ⟨limit, []⟩⟩ := by
  have size : (Message.error text).encode.length = text.length + 3 := by
    simp [Message.encode, Message.line, Bytes.crlf]
  rw [size] at fits
  have found := Frame.find_error noReturn fits []
  rw [List.append_nil] at found
  rw [readReply_of_find found size.symm]
  have said : Reading.ofFrame ⟨⟨.error, some ⟨1, text.length + 1⟩, false, []⟩, text.length + 3⟩
      (Message.error text).encode = .ok reading := by
    simp [Reading.ofFrame, Span.slice, Message.encode, Message.line, read]
  unfold receive
  rw [settled]
  dsimp only
  rw [said]
  exact ⟨_, rfl⟩

/-- What a node serves goes to the client. -/
theorem readReply_served {limit : Nat} {bytes : Bytes} {frame : Frame}
    (found : Frame.find limit bytes = .complete frame) (whole : frame.length = bytes.length)
    (settled : attempt.ack = .settled)
    (final : ∀ text, bytes = (Message.error text).encode →
      Reading.firstWord text ∉ [Text.utf8 "MOVED", Text.utf8 "ASK", Text.utf8 "TRYAGAIN"]) :
    (flight.readReply attempt store ⟨limit, bytes⟩).action = .forward bytes ∧
      (flight.readReply attempt store ⟨limit, bytes⟩).store = store := by
  have said : ∃ reading, Reading.ofFrame frame bytes = .ok reading ∧ reading.isRetry = false := by
    unfold Reading.ofFrame
    split
    · next error =>
      obtain ⟨text, rest, rfl, payload, reach⟩ := Frame.text_of_find found error
      have nothing : rest = [] := by
        rw [reach] at whole
        simp [Message.encode, Message.line, Bytes.crlf] at whole
        exact whole
      subst nothing
      rw [payload]
      have other := Reading.ofError_other (final text (List.append_nil _))
      simpa [Span.slice, Message.encode, Message.line] using other
    · exact ⟨_, rfl, rfl⟩
  obtain ⟨reading, read, answer⟩ := said
  rw [readReply_of_find found whole]
  unfold receive
  rw [settled]
  dsimp only
  rw [read]
  cases reading <;> first | exact ⟨rfl, rfl⟩ | simp [Reading.isRetry] at answer

end InFlight

/-! ## One exchange with a node -/

/-- The request was redirected so many times and is now sent to a node, behind `ASKING` or not. -/
structure Sent (flight : InFlight) (request : Request) (redirects : UInt32) (store : Store)
    (node : String) (asking : Bool) (outcome : Outcome) : Prop where
  acts : outcome.action = .dispatch (some node) (InFlight.payload request asking) none
  now : outcome.flight = { flight with
    redirects, phase := .dispatching ⟨some node, asking, if asking then .pending else .settled⟩ }
  store : outcome.store = store

theorem Sent.of_dispatch {flight : InFlight} {request : Request} {redirects : UInt32}
    {store : Store} {node : String} {asking : Bool} {outcome : Outcome}
    (known : flight.request = some request)
    (step : outcome.toStep = { flight with redirects }.dispatch (some node) none asking)
    (kept : outcome.store = store) : Sent flight request redirects store node asking outcome := by
  have again : { flight with redirects }.request = some request := known
  rw [InFlight.dispatch_eq again] at step
  exact ⟨congrArg Step.action step, congrArg Step.flight step, kept⟩

namespace Cluster

variable {cluster : Cluster} {slot : Nat} {flight : InFlight} {request : Request}
  {redirects : UInt32} {store : Store} {node : String} {asking : Bool} {outcome : Outcome}
  {cut : Bytes → List Bytes}

theorem replies_payload (request : Request) (asking : Bool) :
    (cluster.replies slot request.bytes (InFlight.payload request asking) node).flatten =
      (if asking then granted else []) ++ cluster.reply slot request.bytes node asking := by
  unfold replies InFlight.payload
  cases asking with
  | true => simp
  | false => simp [Call.ne_withAsking]

/-- A node's replies come to what its reply to the request comes to. -/
theorem follow_alike (whole : ∀ bytes, (cut bytes).flatten = bytes)
    (some_octet : cluster.reply slot request.bytes node asking ≠ [])
    (fits : asking = true → granted.length ≤ flight.settings.maxFrameSize)
    (sent : Sent flight request redirects store node asking outcome) :
    Outcome.Alike (cluster.follow slot request.bytes cut outcome)
      ({ flight with redirects }.readReply ⟨some node, asking, .settled⟩ store
        ⟨flight.settings.maxFrameSize, cluster.reply slot request.bytes node asking⟩) := by
  obtain ⟨⟨action, now⟩, store, backend⟩ := outcome
  obtain ⟨rfl, rfl, rfl⟩ := sent
  have joined : (cut (cluster.replies slot request.bytes (InFlight.payload request asking)
      node).flatten).flatten =
        (if asking then granted else []) ++ cluster.reply slot request.bytes node asking :=
    (whole _).trans (replies_payload request asking)
  have given : cut (cluster.replies slot request.bytes (InFlight.payload request asking)
      node).flatten ≠ [] := by
    intro empty
    rw [empty, List.flatten_nil, eq_comm, List.append_eq_nil_iff] at joined
    exact some_octet joined.2
  have heard := @InFlight.hear_alike { flight with
    redirects, phase := .dispatching ⟨some node, asking, if asking then .pending else .settled⟩ }
    _ store (.empty flight.settings.maxFrameSize) rfl _ given
  have behind := @InFlight.onReply_behind { flight with
    redirects, phase := .dispatching ⟨some node, asking, if asking then .pending else .settled⟩ }
    store (some node) asking _ fits rfl (cluster.reply slot request.bytes node asking)
  rw [joined] at heard
  exact behind ▸ heard

/-- A node that redirects a request has it sent to another node. -/
theorem follow_redirect {text : Bytes} {reading : Reading} {target : String} {behind : Bool}
    (known : flight.request = some request) (whole : ∀ bytes, (cut bytes).flatten = bytes)
    (line : cluster.reply slot request.bytes node false = (Message.error text).encode)
    (noReturn : Bytes.cr ∉ text) (read : Reading.ofError text = .ok reading)
    (onward : ∀ (flight : InFlight) attempt reply,
      flight.settle attempt reply reading = flight.redirect (some target) none behind)
    (fits : (cluster.reply slot request.bytes node false).length ≤ flight.settings.maxFrameSize)
    (few : redirects + 1 ≤ flight.settings.maxRedirects)
    (sent : Sent flight request redirects store node false outcome) :
    Sent flight request (redirects + 1) (store.heed flight.cluster reading) target behind
      (cluster.follow slot request.bytes cut outcome) := by
  have nonempty : cluster.reply slot request.bytes node false ≠ [] := by
    rw [line]
    simp [Message.encode, Message.line]
  have alike := follow_alike whole nonempty (by simp) sent
  rw [line] at alike fits
  obtain ⟨reply, ends⟩ := @InFlight.readReply_redirect { flight with redirects }
    ⟨some node, false, .settled⟩ store _ text reading noReturn fits rfl read
  rw [ends, onward] at alike
  obtain ⟨many, _⟩ | ⟨_, sends⟩ :=
    InFlight.redirect_cases { flight with redirects } (some target) none behind
  · exact absurd many (UInt32.not_lt.2 few)
  · rw [sends] at alike
    have again : { flight with redirects := redirects + 1 }.request = some request := known
    have same := alike.eq_of_kept (by rw [InFlight.dispatch_eq again]; simp)
    exact .of_dispatch known (congrArg Outcome.toStep same) (congrArg Outcome.store same)

/-- What a request comes to whose reply is served. The reply is passed on exactly if its arrays have
no more elements than the limit allows for, and the connection is given up if one has. -/
structure Served (limit : Nat) (bytes : Bytes) (outcome : Outcome) : Prop where
  forwards : outcome.action = .forward bytes ↔
    Frame.Layout (limit / Frame.minElementLength) Frame.nestingLimit bytes
  drops : ¬ Frame.Layout (limit / Frame.minElementLength) Frame.nestingLimit bytes →
    ∃ reply, outcome.action = .dropBackend reply

/-- A node that serves a request ends it. -/
theorem follow_served (whole : ∀ bytes, (cut bytes).flatten = bytes)
    (serves : cluster.reply slot request.bytes node asking = cluster.serve node request.bytes)
    (consistent : cluster.Consistent request.bytes)
    (acks : asking = true → granted.length ≤ flight.settings.maxFrameSize)
    (fits : (cluster.reply slot request.bytes node asking).length ≤ flight.settings.maxFrameSize)
    (sent : Sent flight request redirects store node asking outcome) :
    Served flight.settings.maxFrameSize (cluster.serve node request.bytes)
        (cluster.follow slot request.bytes cut outcome) ∧
      (cluster.follow slot request.bytes cut outcome).store = store := by
  have framed := consistent.serves node
  have alike := follow_alike whole (by rw [serves]; exact framed.ne_nil) acks sent
  rw [serves] at alike fits
  obtain ⟨frame, least, length, finds⟩ := framed
  have above := finds _ (Nat.le_max_right flight.settings.maxFrameSize least)
  have below := Nat.le_max_left flight.settings.maxFrameSize least
  -- Under its own limit the decoder either finds the same frame or refuses the reply.
  rcases Frame.find_of_le below (cluster.serve node request.bytes) with same | ⟨why, refused⟩
  · rw [above] at same
    have roomy := (Frame.exists_find_iff.1 ⟨frame, same, length⟩).1
    obtain ⟨forwards, kept⟩ := @InFlight.readReply_served { flight with redirects }
      ⟨some node, asking, .settled⟩ store _ _ frame same length rfl (consistent.final node)
    rw [alike.eq_of_kept (by rw [forwards]; simp)]
    exact ⟨⟨⟨fun _ => roomy, fun _ => forwards⟩, fun crowded => absurd roomy crowded⟩, kept⟩
  · have crowded : ¬ Frame.Layout (flight.settings.maxFrameSize / Frame.minElementLength)
        Frame.nestingLimit (cluster.serve node request.bytes) := by
      intro roomy
      obtain ⟨_, found, _⟩ := Frame.exists_find_iff.2 ⟨roomy, fits⟩
      rw [refused] at found
      cases found
    have ends : InFlight.readReply { flight with redirects } ⟨some node, asking, .settled⟩ store
        ⟨flight.settings.maxFrameSize, cluster.serve node request.bytes⟩ =
          ⟨InFlight.breakOff { flight with redirects } (some node) why, store,
            ⟨flight.settings.maxFrameSize, cluster.serve node request.bytes⟩⟩ := by
      unfold InFlight.readReply Decoder.next
      rw [refused]
    rw [ends] at alike
    obtain ⟨reply, drops⟩ := alike.drops rfl
    exact ⟨⟨⟨by simp [drops], fun roomy => absurd roomy crowded⟩, fun _ => ⟨reply, drops⟩⟩,
      alike.store_eq⟩

end Cluster

end ClusterProxy
