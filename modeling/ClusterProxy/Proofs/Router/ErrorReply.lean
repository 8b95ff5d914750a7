import ClusterProxy.Proofs.Router.Consistency

/-!
# An error reply is always one line

A fault may hold any text: a name that a client chose, octets that a node sent, a line of a dump.
Its error reply is one error line for all that. A client that allows frames of its length decodes it
as one frame in front of whatever is sent next, and reads it as an answer with the code of the fault
(`Fault.Told`), so as no redirect.

What requests that are in flight answer with are such replies (`Fault.reply_one_line`). So nothing
that a client or a node sends adds a frame to the answers, or takes one away.
-/

namespace ClusterProxy

/-! ## The first word of an error line -/

namespace ErrorCode

/-- Every code has a word of its own, which is no word of a redirect. -/
theorem ofWord_of_mem : ∀ entry ∈ words, ofWord (Text.utf8 entry.1) = entry.2 ∧
    Text.utf8 entry.1 ∉
      [Text.utf8 "MOVED", Text.utf8 "ASK", Text.utf8 "TRYAGAIN", Text.utf8 "NOSCRIPT"] := by
  decide

theorem isWord_of_mem {entry : String × ErrorCode} (listed : entry ∈ words) :
    Text.IsWord entry.1 := by
  have plain : ∀ entry ∈ words, entry.1 ≠ "" ∧ ' ' ∉ entry.1.toList ∧ '\r' ∉ entry.1.toList ∧
      '\n' ∉ entry.1.toList := by decide
  obtain ⟨some_char, no_space, no_return, no_feed⟩ := plain entry listed
  exact ⟨some_char, no_space, no_return, no_feed⟩

end ErrorCode

theorem Reading.firstWord_append_space {word : String} (whole : Text.IsWord word) (tail : Bytes) :
    firstWord (Text.utf8 word ++ Bytes.space :: tail) = Text.utf8 word := by
  rw [← takeWhile_firstWord, line_append _ whole.return_not_mem whole.feed_not_mem]
  exact Bytes.takeWhile_append_of_not_mem (line tail) whole.space_not_mem

/-! ## The text of an error reply -/

namespace Fault

/-- The code that tells a client of a fault. -/
def code : Fault → ErrorCode
  | crossSlot _ => .crossSlot
  | slotNotCovered _ => .clusterDown
  | _ => .err

theorem code_of_not_hasCode {fault : Fault} (plain : fault.hasCode = false) :
    fault.code = .err := by
  cases fault with
  | crossSlot | slotNotCovered => simp [hasCode] at plain
  | _ => rfl

theorem onOneLine_append {word : String} (whole : Text.IsWord word) (rest : List Char) :
    onOneLine (word.toList ++ ' ' :: rest) = word.toList ++ ' ' :: onOneLine rest := by
  have kept : onOneLine word.toList = word.toList := by
    refine (List.map_congr_left fun c member => if_neg ?_).trans (List.map_id _)
    rintro (rfl | rfl)
    · exact whole.no_return member
    · exact whole.no_feed member
  rw [onOneLine, List.map_append, List.map_cons]
  exact congrArg (· ++ _) kept

/-- The wording of a fault, with its code in front, begins with the word of the code. -/
theorem exists_wording (fault : Fault) : ∃ word rest, (word, fault.code) ∈ ErrorCode.words ∧
    (if fault.hasCode then fault.message else "ERR " ++ fault.message) = word ++ " " ++ rest := by
  cases coded : fault.hasCode with
  | false =>
    refine ⟨"ERR", fault.message, ?_, rfl⟩
    rw [code_of_not_hasCode coded]
    decide
  | true =>
    cases fault with
    | crossSlot slots =>
      have listed : ("CROSSSLOT", ErrorCode.crossSlot) ∈ ErrorCode.words := by decide
      have worded : (crossSlot slots).message =
          "CROSSSLOT keys in request don't hash to the same slot (" ++ toString slots ++
            " slots)" := rfl
      have cut : "CROSSSLOT keys in request don't hash to the same slot (" =
          "CROSSSLOT" ++ " " ++ "keys in request don't hash to the same slot (" := by decide
      refine ⟨_, "keys in request don't hash to the same slot (" ++ (toString slots ++ " slots)"),
        listed, ?_⟩
      rw [if_pos rfl, worded, cut, String.append_assoc, String.append_assoc]
    | slotNotCovered slot =>
      have listed : ("CLUSTERDOWN", ErrorCode.clusterDown) ∈ ErrorCode.words := by decide
      have worded : (slotNotCovered slot).message =
          "CLUSTERDOWN hash slot " ++ toString slot ++ " not served" := rfl
      have cut : "CLUSTERDOWN hash slot " = "CLUSTERDOWN" ++ " " ++ "hash slot " := by decide
      refine ⟨_, "hash slot " ++ (toString slot ++ " not served"), listed, ?_⟩
      rw [if_pos rfl, worded, cut, String.append_assoc, String.append_assoc]
    | _ => simp [hasCode] at coded

/-- The error line of a fault begins with the word of its code. -/
theorem exists_line (fault : Fault) : ∃ word rest, (word, fault.code) ∈ ErrorCode.words ∧
    fault.line.toList = word.toList ++ ' ' :: rest := by
  obtain ⟨word, rest, listed, begins⟩ := fault.exists_wording
  refine ⟨word, onOneLine rest.toList, listed, ?_⟩
  rw [line, String.toList_ofList, begins, String.toList_append, String.toList_append,
    List.append_assoc]
  exact onOneLine_append (ErrorCode.isWord_of_mem listed) rest.toList

theorem ofError_line (fault : Fault) :
    Reading.ofError (Text.utf8 fault.line) = .ok (.failure fault.code) := by
  obtain ⟨word, rest, listed, begins⟩ := fault.exists_line
  have octets : Text.utf8 fault.line =
      Text.utf8 word ++ Bytes.space :: rest.flatMap String.utf8EncodeChar := by
    rw [Text.utf8, begins, List.flatMap_append, List.flatMap_cons]
    rfl
  have first := Reading.firstWord_append_space (ErrorCode.isWord_of_mem listed)
    (rest.flatMap String.utf8EncodeChar)
  rw [← octets] at first
  obtain ⟨named, other⟩ := ErrorCode.ofWord_of_mem _ listed
  have reads := Reading.Reads.failure (first ▸ other)
  rw [first, named] at reads
  exact reads.ofError_eq

theorem length_reply (fault : Fault) : fault.reply.length = (Text.utf8 fault.line).length + 3 := by
  simp [reply, Message.encode, Message.line, Bytes.crlf]

/-! ## What a client is told -/

/-- What a client decodes from the error reply of a fault.

* `bytes`, `whole`: the whole reply, as one frame.
* `kind`, `payload`: an error line with the text of the fault.
* `no_return`, `no_feed`: no line break is in the text.
* `read`: the text is read as an answer with the code of the fault, and so not as a redirect. -/
structure Told (fault : Fault) (decoded : Decoded) : Prop where
  bytes : decoded.bytes = fault.reply
  whole : decoded.frame.length = fault.reply.length
  kind : decoded.frame.kind = .error
  payload : decoded.payload = some (Text.utf8 fault.line)
  no_return : Bytes.cr ∉ Text.utf8 fault.line
  no_feed : Bytes.lf ∉ Text.utf8 fault.line
  read : Reading.ofFrame decoded.frame decoded.bytes = .ok (.failure fault.code)

/-- The frame of the error reply of a fault. -/
def frame (fault : Fault) : Frame where
  kind := .error
  payload := some ⟨1, (Text.utf8 fault.line).length + 1⟩
  null := false
  items := []
  length := (Text.utf8 fault.line).length + 3

/-- The error reply of a fault with its frame. -/
def decoded (fault : Fault) : Decoded := ⟨fault.reply, fault.frame⟩

theorem payload_decoded (fault : Fault) :
    fault.decoded.payload = some (Text.utf8 fault.line) := by
  simp [Decoded.payload, decoded, frame, Span.slice, reply, Message.encode, Message.line]

theorem told_decoded (fault : Fault) : fault.Told fault.decoded where
  bytes := rfl
  whole := fault.length_reply.symm
  kind := rfl
  payload := fault.payload_decoded
  no_return := fault.return_not_mem_line
  no_feed := fault.feed_not_mem_line
  read := by
    have error : fault.decoded.frame.kind = .error := rfl
    have text : fault.decoded.frame.payload.map (fun span => span.slice fault.decoded.bytes) =
        some (Text.utf8 fault.line) := fault.payload_decoded
    rw [Reading.ofFrame, if_pos error, text, Option.getD_some, ofError_line]

variable {limit : Nat}

theorem find_reply (fault : Fault) (room : fault.reply.length ≤ limit) (rest : Bytes) :
    Frame.find limit (fault.reply ++ rest) = .complete fault.frame := by
  rw [length_reply] at room
  exact Frame.find_error fault.return_not_mem_line room rest

theorem next_reply (fault : Fault) (room : fault.reply.length ≤ limit) (rest : Bytes) :
    Decoder.next ⟨limit, fault.reply ++ rest⟩ = (.complete fault.decoded, ⟨limit, rest⟩) := by
  have whole := fault.told_decoded.whole
  refine Decoder.next_eq_complete_iff.2 ⟨fault.find_reply room rest, ?_, ?_⟩
  · rw [whole]
    exact List.take_left.symm
  · rw [whole, List.drop_left]

/-- A row of error replies is decoded as one frame for each. -/
theorem takes_replies {faults : List Fault} (room : ∀ fault ∈ faults, fault.reply.length ≤ limit)
    (rest : Bytes) : Decoder.Takes ⟨limit, (faults.map reply).flatten ++ rest⟩
      (faults.map decoded) ⟨limit, rest⟩ := by
  induction faults with
  | nil => exact .nothing _
  | cons fault faults ih =>
    obtain ⟨first, later⟩ := List.forall_mem_cons.1 room
    refine .frame ?_ (ih later)
    rw [List.map_cons, List.flatten_cons, List.append_assoc]
    exact fault.next_reply first _

end Fault

/-- What a request in flight answers with is the error reply of the fault that it failed with. -/
theorem InFlight.Calls.exists_fault {due : Due} {step : Step} (calls : Calls due step)
    {reply : Bytes} (answers : step.action ∈ [.respond reply, .dropBackend reply]) :
    ∃ fault, step.flight.phase = .failed fault ∧ reply = fault.reply := by
  have leaves := calls.leaves
  simp only [List.mem_cons, List.not_mem_nil, or_false] at answers
  rcases answers with answers | answers
  all_goals
    rw [answers] at leaves
    exact leaves

namespace Run.Sample

/-- While the answer to `ASKING` is due, a dump is looked for, and the request fails. -/
def misused : InFlight := (moving.outcome.flight.take .dump .empty (node "+OK\r\n")).flight

theorem becomes : flight.Becomes misused := sent.becomes.called .dump _ _

end Run.Sample

namespace Fault

/-- An error reply is one line, whatever texts its fault holds.

* Under every limit that it fits, it is found as one error frame, with nothing left over: its text
  holds no line break, and is read as an answer with the code of the fault.
* A row of error replies is as many frames, and what stands behind it begins where it began.
* All that is ever answered for a request that a router accepted, after calls in any order and with
  any connections, are error replies. -/
theorem reply_one_line :
    (∀ fault : Fault, ∃ decoded, fault.Told decoded ∧
      ∀ limit, fault.reply.length ≤ limit → ∀ rest,
        Frame.find limit (fault.reply ++ rest) = .complete decoded.frame ∧
          Decoder.next ⟨limit, fault.reply ++ rest⟩ = (.complete decoded, ⟨limit, rest⟩)) ∧
    (∀ (faults : List Fault) (limit : Nat) (rest : Bytes),
      (∀ fault ∈ faults, fault.reply.length ≤ limit) →
        ∃ frames, List.Forall₂ Told faults frames ∧
          Decoder.Takes ⟨limit, (faults.map reply).flatten ++ rest⟩ frames ⟨limit, rest⟩) ∧
    ∀ (router : Router) (cluster : String) (client : Decoder) (flight now : InFlight),
      (router.accept cluster client).1 = .complete flight → flight.Becomes now →
      ∀ due store backend reply,
        (now.take due store backend).action ∈ [.respond reply, .dropBackend reply] →
          ∃ fault, (now.take due store backend).flight.phase = .failed fault ∧
            reply = fault.reply := by
  refine ⟨fun fault => ?_, fun faults limit rest room => ?_, ?_⟩
  · exact ⟨fault.decoded, fault.told_decoded, fun limit room rest =>
      ⟨fault.find_reply room rest, fault.next_reply room rest⟩⟩
  · refine ⟨faults.map decoded, ?_, takes_replies room rest⟩
    exact List.forall₂_map_right_iff.2 (List.forall₂_same.2 fun fault _ => fault.told_decoded)
  · intro router cluster client flight now accepted becomes due store backend reply answers
    have coherent := becomes.coherent (Router.coherent_accept accepted)
    exact (InFlight.calls_take coherent due store backend).exists_fault answers

namespace Sample

/-- A name that looks like a line of its own. -/
def forged : Fault := .unknownCommand "X\r\n-MOVED 9 10.0.0.9:7000\r\n"

end Sample

/-- A client chooses a name that ends the line and goes on with a redirect. -/
theorem reply_one_line_forged :
    (∃ decoded, Sample.forged.Told decoded ∧ Sample.forged.reply.length ≤ 53 ∧
      ∀ rest, Frame.find 53 (Sample.forged.reply ++ rest) = .complete decoded.frame ∧
        Decoder.next ⟨53, Sample.forged.reply ++ rest⟩ = (.complete decoded, ⟨53, rest⟩)) ∧
    (∃ frames, List.Forall₂ Told [Sample.forged, .crossSlot 2] frames ∧
      Decoder.Takes ⟨70, ([Sample.forged, .crossSlot 2].map reply).flatten ++ []⟩ frames
        ⟨70, []⟩) ∧
    (Run.Sample.misused.take .reply .empty Run.Sample.client).action ∈
      [.respond (Fault.protocol "on_reply called in state Failed").reply,
        .dropBackend (Fault.protocol "on_reply called in state Failed").reply] ∧
    ∃ fault, (Run.Sample.misused.take .reply .empty Run.Sample.client).flight.phase =
        .failed fault ∧
      (Fault.protocol "on_reply called in state Failed").reply = fault.reply := by
  have room : Sample.forged.reply.length ≤ 53 := by decide +kernel
  have each : ∀ fault ∈ [Sample.forged, .crossSlot 2], fault.reply.length ≤ 70 := by
    decide +kernel
  have answers : (Run.Sample.misused.take .reply .empty Run.Sample.client).action ∈
      [.respond (Fault.protocol "on_reply called in state Failed").reply,
        .dropBackend (Fault.protocol "on_reply called in state Failed").reply] := by
    decide +kernel
  obtain ⟨whole, row, flights⟩ := reply_one_line
  obtain ⟨decoded, told, found⟩ := whole Sample.forged
  exact ⟨⟨decoded, told, room, found 53 room⟩, row _ 70 [] each, answers,
    flights _ _ _ _ _ Run.Sample.accepted Run.Sample.becomes _ _ _ _ answers⟩

example : Sample.forged.reply =
    Text.utf8 "-ERR unknown command 'X  -MOVED 9 10.0.0.9:7000  '\r\n" := by decide +kernel

end Fault

end ClusterProxy
