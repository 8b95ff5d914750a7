import ClusterProxy.Command.Call
import ClusterProxy.Proofs.Frame.Limit

/-!
# Byte strings that are frames

Since a higher limit finds the same frame, it makes sense to say that a byte string is a frame
without naming a limit: `IsFrame` holds if the decoder takes all of it as one frame from some limit
on. The frames that a decoder gives are frames in this sense (`isFrame_of_next`), and so is every
error line without a carriage return (`isFrame_error`).

A byte string is a row of frames in one way at most (`Framed.unique`), so one can speak of the
number of frames in it.
-/

namespace ClusterProxy

namespace Frame

/-! ## Lines -/

theorem crlf_infix_cons {b : UInt8} {text : Bytes} :
    Bytes.crlf <:+: b :: text ↔
      b = Bytes.cr ∧ text.head? = some Bytes.lf ∨ Bytes.crlf <:+: text := by
  rw [List.infix_cons_iff]
  refine or_congr_left ?_
  cases text with
  | nil => simp [Bytes.crlf]
  | cons next text => simp [Bytes.crlf, List.cons_prefix_cons, eq_comm]

/-- Text without a line end ends where the line end behind it starts. -/
theorem findLineEnd_text {text : Bytes} (noEnd : ¬ Bytes.crlf <:+: text) (offset : Nat)
    (more : Bytes) :
    findLineEnd offset (text ++ Bytes.crlf ++ more) =
      some (offset + text.length, ⟨offset + text.length + 2, more⟩) := by
  induction text generalizing offset with
  | nil => simp [findLineEnd, Bytes.crlf]
  | cons b text ih =>
    rw [crlf_infix_cons, not_or] at noEnd
    have goesOn : ¬ (b = Bytes.cr ∧ (text ++ Bytes.crlf ++ more).head? = some Bytes.lf) := by
      rintro ⟨returns, feeds⟩
      cases text with
      | nil => exact absurd feeds (by simp [Bytes.crlf, Bytes.cr, Bytes.lf])
      | cons next text => exact noEnd.1 ⟨returns, feeds⟩
    rw [List.cons_append, List.cons_append, findLineEnd, if_neg goesOn, ih noEnd.2,
      List.length_cons]
    simp only [Option.some.injEq, Prod.mk.injEq, Cursor.mk.injEq, and_true]
    omega

/-- An error line without a carriage return is found as it was written. -/
theorem find_error {limit : Nat} {text : Bytes} (noReturn : Bytes.cr ∉ text)
    (fits : text.length + 3 ≤ limit) (more : Bytes) :
    find limit ((Message.error text).encode ++ more) =
      .complete ⟨⟨.error, some ⟨1, text.length + 1⟩, false, []⟩, text.length + 3⟩ := by
  refine find_eq_complete_iff.2 ⟨more, ?_, fits⟩
  have noEnd : ¬ Bytes.crlf <:+: text := fun ends => noReturn (ends.subset List.mem_cons_self)
  have line := findLineEnd_text noEnd 1 more
  have announced : Kind.ofMark? 45 = some .error := by decide
  simp only [Message.encode, Message.line, Kind.mark, List.cons_append, nestingLimit, scan,
    scanWith, announced, scanLine, Nat.zero_add, line]
  simp only [Verdict.complete.injEq, Prod.mk.injEq, Content.mk.injEq, Option.some.injEq,
    Span.mk.injEq, Cursor.mk.injEq, true_and, and_true]
  omega

/-- A line that ends is a text without a line end and a line end behind it. -/
theorem text_of_findLineEnd {offset stop : Nat} {bytes : Bytes} {next : Cursor}
    (ended : findLineEnd offset bytes = some (stop, next)) :
    ∃ text, ¬ Bytes.crlf <:+: text ∧ bytes = text ++ Bytes.crlf ++ next.rest ∧
      stop = offset + text.length ∧ next.offset = stop + 2 := by
  induction bytes generalizing offset with
  | nil => simp [findLineEnd] at ended
  | cons b bytes ih =>
    rw [findLineEnd] at ended
    split at ended
    · next ends =>
      obtain ⟨rfl, following⟩ := ends
      simp only [Option.some.injEq, Prod.mk.injEq] at ended
      obtain ⟨rfl, rfl⟩ := ended
      cases bytes with
      | nil => simp at following
      | cons feed bytes =>
        obtain rfl := Option.some.inj following
        exact ⟨[], by simp [Bytes.crlf], rfl, rfl, rfl⟩
    · next goesOn =>
      obtain ⟨text, noEnd, rfl, rfl, far⟩ := ih ended
      refine ⟨b :: text, ?_, rfl, by rw [List.length_cons]; omega, far⟩
      rw [crlf_infix_cons]
      rintro (⟨returns, feeds⟩ | within)
      · exact goesOn ⟨returns, by simp [feeds]⟩
      · exact noEnd within

theorem kind_of_scanBulk {limit : Nat} {cursor next : Cursor} {content : Content}
    (scanned : scanBulk limit cursor = .complete (content, next)) : content.kind = .bulk := by
  unfold scanBulk Verdict.andThen at scanned
  grind

theorem kind_of_scanArray {scan : Cursor → Verdict (Content × Cursor)} {limit : Nat}
    {cursor next : Cursor} {content : Content}
    (scanned : scanArray scan limit cursor = .complete (content, next)) :
    content.kind = .array := by
  unfold scanArray Verdict.andThen at scanned
  grind

theorem findLineEnd_of_scanWith {array : Cursor → Verdict (Content × Cursor)} {limit offset : Nat}
    {bytes : Bytes} {next : Cursor} {content : Content}
    (arrays : ∀ {cursor next content}, array cursor = .complete (content, next) →
      content.kind = .array)
    (scanned : scanWith array limit ⟨offset, bytes⟩ = .complete (content, next))
    (kind : content.kind = .error) :
    ∃ rest stop, bytes = Kind.error.mark :: rest ∧ content.payload = some ⟨offset + 1, stop⟩ ∧
      findLineEnd (offset + 1) rest = some (stop, next) := by
  cases bytes with
  | nil => simp [scanWith] at scanned
  | cons mark rest =>
    simp only [scanWith] at scanned
    cases announced : Kind.ofMark? mark with
    | none => simp [announced] at scanned
    | some announcedKind =>
      rw [announced] at scanned
      have marked : announcedKind.mark = mark := by
        simpa using List.find?_some announced
      cases announcedKind with
      | array => simp [arrays scanned] at kind
      | bulk => simp [kind_of_scanBulk scanned] at kind
      | status => grind [scanLine]
      | integer => grind [scanLine]
      | error =>
        have line : scanLine .error ⟨offset + 1, rest⟩ = .complete (content, next) := scanned
        unfold scanLine at line
        split at line
        · simp at line
        · next stop after ended =>
          simp only [Verdict.complete.injEq, Prod.mk.injEq] at line
          obtain ⟨rfl, rfl⟩ := line
          exact ⟨rest, stop, by rw [marked], rfl, ended⟩

/-- An error frame is an error line. -/
theorem text_of_find {limit : Nat} {buffer : Bytes} {frame : Frame}
    (found : find limit buffer = .complete frame) (kind : frame.kind = .error) :
    ∃ text rest, buffer = (Message.error text).encode ++ rest ∧
      frame.payload = some ⟨1, text.length + 1⟩ ∧ frame.length = text.length + 3 := by
  obtain ⟨rest, scanned, _⟩ := find_eq_complete_iff.1 found
  have reads : ∃ array, (∀ {cursor next content}, array cursor = .complete (content, next) →
      content.kind = .array) ∧ scan limit nestingLimit = scanWith array limit :=
    ⟨scanArray (scan limit 127) limit, kind_of_scanArray, rfl⟩
  obtain ⟨array, arrays, same⟩ := reads
  rw [same] at scanned
  obtain ⟨line, stop, rfl, payload, ended⟩ := findLineEnd_of_scanWith arrays scanned kind
  obtain ⟨text, _, rfl, rfl, far⟩ := text_of_findLineEnd ended
  have reached : frame.length = 0 + 1 + text.length + 2 := far
  refine ⟨text, rest, ?_, ?_, by omega⟩
  · simp [Message.encode, Message.line]
  · rw [payload, Nat.zero_add, Nat.add_comm 1]

end Frame

/-! ## Byte strings that are one frame -/

/-- A byte string is one frame: the decoder takes all of it as one, from some limit on. -/
def IsFrame (bytes : Bytes) : Prop :=
  ∃ frame least, frame.length = bytes.length ∧
    ∀ limit, least ≤ limit → Frame.find limit bytes = .complete frame

theorem isFrame_of_find {limit : Nat} {bytes : Bytes} {frame : Frame}
    (found : Frame.find limit bytes = .complete frame) (whole : frame.length = bytes.length) :
    IsFrame bytes :=
  ⟨frame, limit, whole, fun _ lower => Frame.find_of_limit_le lower found⟩

theorem isFrame_of_next {decoder rest : Decoder} {decoded : Decoded}
    (given : decoder.next = (.complete decoded, rest)) : IsFrame decoded.bytes := by
  obtain ⟨found, bytes, _⟩ := Decoder.next_eq_complete_iff.1 given
  rw [bytes]
  refine isFrame_of_find (Frame.find_take found) ?_
  rw [List.length_take, Nat.min_eq_left (Frame.length_le_of_find found)]

theorem isFrame_error {text : Bytes} (noReturn : Bytes.cr ∉ text) :
    IsFrame (Message.error text).encode := by
  have found := Frame.find_error noReturn (Nat.le_refl _) []
  rw [List.append_nil] at found
  refine isFrame_of_find found ?_
  simp [Message.encode, Message.line, Bytes.crlf]

theorem isFrame_asking : IsFrame Call.asking.encode := by
  have found : Frame.find 16 Call.asking.encode =
      .complete ⟨⟨.array, none, false, [⟨.bulk, some ⟨8, 14⟩⟩]⟩, 16⟩ := by decide +kernel
  exact isFrame_of_find found (by decide +kernel)

/-- A byte string starts with one frame at most. -/
theorem IsFrame.eq_of_append {frame other rest behind : Bytes} (first : IsFrame frame)
    (second : IsFrame other) (same : frame ++ rest = other ++ behind) : frame = other := by
  obtain ⟨found, least, whole, finds⟩ := first
  obtain ⟨alsoFound, alsoLeast, alsoWhole, alsoFinds⟩ := second
  have here := Frame.find_append (finds _ (Nat.le_max_left least alsoLeast)) rest
  have there := Frame.find_append (alsoFinds _ (Nat.le_max_right least alsoLeast)) behind
  rw [same, there, Verdict.complete.injEq] at here
  exact List.append_inj_left same (by rw [← whole, ← alsoWhole, here])

theorem IsFrame.ne_nil {frame : Bytes} (is : IsFrame frame) : frame ≠ [] := by
  obtain ⟨found, least, whole, finds⟩ := is
  have := Frame.length_pos_of_find (finds least (Nat.le_refl _))
  rintro rfl
  simp at whole
  omega

/-- A byte string is these frames, one behind the other. -/
structure Framed (bytes : Bytes) (frames : List Bytes) : Prop where
  bytes : bytes = frames.flatten
  framed : ∀ frame ∈ frames, IsFrame frame

namespace Framed

theorem nil : Framed [] [] := ⟨rfl, by simp⟩

theorem singleton {frame : Bytes} (is : IsFrame frame) : Framed frame [frame] :=
  ⟨by simp, by simpa using is⟩

theorem append {front back : Bytes} {frames others : List Bytes} (first : Framed front frames)
    (second : Framed back others) : Framed (front ++ back) (frames ++ others) := by
  refine ⟨by rw [first.bytes, second.bytes, List.flatten_append], fun frame member => ?_⟩
  rcases List.mem_append.1 member with member | member
  · exact first.framed frame member
  · exact second.framed frame member

/-- A byte string is a row of frames in one way at most, so their number is one of its own. -/
theorem unique {bytes : Bytes} {frames others : List Bytes} (first : Framed bytes frames)
    (second : Framed bytes others) : frames = others := by
  induction frames generalizing bytes others with
  | nil =>
    cases others with
    | nil => rfl
    | cons other others =>
      have empty := first.bytes.symm.trans second.bytes
      rw [List.flatten_nil, List.flatten_cons, eq_comm, List.append_eq_nil_iff] at empty
      exact absurd empty.1 (second.framed other List.mem_cons_self).ne_nil
  | cons frame frames ih =>
    have is := first.framed frame List.mem_cons_self
    cases others with
    | nil =>
      have empty := first.bytes.symm.trans second.bytes
      rw [List.flatten_nil, List.flatten_cons, List.append_eq_nil_iff] at empty
      exact absurd empty.1 is.ne_nil
    | cons other others =>
      have same := first.bytes.symm.trans second.bytes
      rw [List.flatten_cons, List.flatten_cons] at same
      obtain rfl := is.eq_of_append (second.framed other List.mem_cons_self) same
      have rest : Framed frames.flatten frames :=
        ⟨rfl, fun frame member => first.framed frame (.tail _ member)⟩
      rw [ih rest ⟨List.append_cancel_left same, fun frame member =>
        second.framed frame (.tail _ member)⟩]

end Framed

end ClusterProxy
