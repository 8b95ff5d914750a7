import ClusterProxy.Frame.Decoder
import ClusterProxy.Proofs.Frame.Excerpt

/-!
# Reading frames within bounds

A machine has numbers of 64 bits and a stack that ends somewhere. Here the search for a frame is
written once more as a machine runs it: by offsets into one buffer, with a trap wherever a sum
leaves 64 bits, a stretch is cut that is not in the buffer, or an array is entered for which no room
is left. `Guarded.safe` says that on a buffer of any size that can be held no trap is ever met,
whatever lengths a peer declares and whatever the limit is, and that what is found is the same.

The two searches are compared place by place (`Guarded.Agrees`). A place where both stand is never
past the end of the buffer, and what a frame is found in ends behind its start; so every sum is one
of an offset that is small, and a length that fits in a signed number.
-/

namespace ClusterProxy.Frame

/-- What stops the machine. -/
inductive Trap where
  /-- A number does not fit. -/
  | overflow
  /-- A stretch is not in the buffer. -/
  | outOfBounds
  /-- An array is entered inside of too many others. -/
  | tooDeep
deriving DecidableEq, Repr

namespace Guarded

/-! ## What the machine does -/

/-- A sum of offsets or lengths, unsigned. -/
def add (a b : Nat) : Except Trap Nat :=
  if a + b < 18446744073709551616 then .ok (a + b) else .error .overflow

theorem eq_of_add {a b sum : Nat} (added : add a b = .ok sum) : sum = a + b := by
  unfold add at added
  split at added
  · exact (Except.ok.inj added).symm
  · simp at added

/-- The opposite of a signed number. -/
def negate (value : Int) : Except Trap Int :=
  if -9223372036854775808 ≤ -value ∧ -value ≤ 9223372036854775807 then .ok (-value)
  else .error .overflow

/-- The octets from one offset up to another. -/
def slice (buffer : Bytes) (first stop : Nat) : Except Trap Bytes :=
  if first ≤ stop ∧ stop ≤ buffer.length then .ok (Span.slice ⟨first, stop⟩ buffer)
  else .error .outOfBounds

/-- Goes on with what was read. -/
def andThen {α β : Type} (read : Except Trap (Verdict α)) (next : α → Except Trap (Verdict β)) :
    Except Trap (Verdict β) := do
  match ← read with
  | .incomplete => return .incomplete
  | .invalid why => return .invalid why
  | .complete value => next value

/-- Reads decimal digits behind the number `value`; none once the number passes `maxLength`. -/
def readDigits (buffer : Bytes) (value pos : Nat) : Except Trap (Option (Nat × Nat)) :=
  match _found : buffer[pos]? with
  | none => .ok (some (value, pos))
  | some b =>
    if Bytes.isDigit b then
      let grown := value * 10 + Bytes.digitValue b
      if grown ≤ maxLength then
        match _moved : add pos 1 with
        | .ok next => readDigits buffer grown next
        | .error trap => .error trap
      else .ok none
    else .ok (some (value, pos))
termination_by buffer.length - pos
decreasing_by
  have inside := (List.getElem?_eq_some_iff.1 _found).1
  obtain rfl := eq_of_add _moved
  omega

/-- The length that a number with or without a sign declares, up to the offset `stop`. -/
def declare (negative : Bool) (number stop : Nat) : Except Trap (Verdict (Option Nat × Nat)) := do
  let value ← if negative then negate number else pure (number : Int)
  if value < -1 then return .invalid (.negativeLength value.natAbs)
  else return .complete (if value = -1 then none else some value.toNat, stop)

/-- Reads the digits of a length and its line end, behind the sign. -/
def readMagnitude (buffer : Bytes) (negative : Bool) (digits : Nat) :
    Except Trap (Verdict (Option Nat × Nat)) := do
  match ← readDigits buffer 0 digits with
  | none => return .invalid .lengthTooLarge
  | some (value, pos) =>
    if pos = buffer.length then return .incomplete
    else if pos = digits then return .invalid (.noLengthDigits pos)
    else
      let stop ← add pos 2
      if buffer.length < stop then return .incomplete
      else
        let ending ← slice buffer pos stop
        if ending ≠ Bytes.crlf then return .invalid (.lengthNotEnded pos)
        else declare negative value stop

/-- Reads a declared length and its line end, from the mark. -/
def readLength (buffer : Bytes) (start : Nat) : Except Trap (Verdict (Option Nat × Nat)) := do
  let sign ← add start 1
  let negative : Bool := buffer[sign]? = some Bytes.minus
  let digits ← if negative then add sign 1 else pure sign
  readMagnitude buffer negative digits

/-- The offset of the first line end at or after a place. -/
def findLineEnd (buffer : Bytes) (start : Nat) : Except Trap (Option Nat) := do
  let least ← add start 2
  if buffer.length < least then return none
  else
    let rest ← slice buffer start buffer.length
    match (rest.zip rest.tail).findIdx? (· == (Bytes.cr, Bytes.lf)) with
    | none => return none
    | some index =>
      let stop ← add start index
      return some stop

/-- Reads a line, from its mark. -/
def scanLine (buffer : Bytes) (kind : Kind) (start : Nat) :
    Except Trap (Verdict (Content × Nat)) := do
  let text ← add start 1
  match ← findLineEnd buffer text with
  | none => return .incomplete
  | some stop =>
    let next ← add stop 2
    return .complete (⟨kind, some ⟨text, stop⟩, false, []⟩, next)

/-- Reads a bulk, from its mark. -/
def scanBulk (limit : Nat) (buffer : Bytes) (start : Nat) :
    Except Trap (Verdict (Content × Nat)) :=
  andThen (readLength buffer start) fun (length, body) =>
    match length with
    | none => return .complete (⟨.bulk, none, true, []⟩, body)
    | some length =>
      if limit < length then return .invalid .bulkTooLong
      else do
        let stop ← add body length
        let next ← add stop 2
        if limit < next then return .invalid .frameTooLong
        else if buffer.length < next then return .incomplete
        else
          let ending ← slice buffer stop next
          if ending ≠ Bytes.crlf then return .invalid .bulkNotEnded
          else return .complete (⟨.bulk, some ⟨body, stop⟩, false, []⟩, next)

/-- Reads `count` elements with `scan`; `seen` holds those before them, newest first. -/
def scanItems (scan : Nat → Except Trap (Verdict (Content × Nat))) (limit : Nat) :
    Nat → List Item → Nat → Except Trap (Verdict (List Item × Nat))
  | 0, seen, start => .ok (.complete (seen.reverse, start))
  | count + 1, seen, start =>
    andThen (scan start) fun (content, next) =>
      if limit < next then return .invalid .frameTooLong
      else scanItems scan limit count (⟨content.kind, content.payload⟩ :: seen) next

/-- Reads an array, from its mark, with `scan` for its elements. -/
def scanArray (scan : Nat → Except Trap (Verdict (Content × Nat))) (limit : Nat) (buffer : Bytes)
    (start : Nat) : Except Trap (Verdict (Content × Nat)) :=
  andThen (readLength buffer start) fun (count, body) =>
    match count with
    | none => return .complete (⟨.array, none, true, []⟩, body)
    | some count =>
      if limit / minElementLength < count then return .invalid .tooManyElements
      else andThen (scanItems scan limit count [] body) fun (items, next) =>
        return .complete (⟨.array, none, false, items⟩, next)

/-- Reads a frame, with `array` for an array from its mark. -/
def scanWith (array : Nat → Except Trap (Verdict (Content × Nat))) (limit : Nat) (buffer : Bytes)
    (start : Nat) : Except Trap (Verdict (Content × Nat)) :=
  match buffer[start]? with
  | none => return .incomplete
  | some mark =>
    match Kind.ofMark? mark with
    | none => return .invalid (.unknownMark mark start)
    | some .array => array start
    | some .bulk => scanBulk limit buffer start
    | some kind => scanLine buffer kind start

/-- Reads a frame inside of `depth` arrays. An array past the nesting limit is refused; any other is
entered, for which there is room `room` times. -/
def scan (limit : Nat) (buffer : Bytes) : (room depth start : Nat) →
    Except Trap (Verdict (Content × Nat))
  | 0, depth =>
    let array (_ : Nat) : Except Trap (Verdict (Content × Nat)) :=
      if nestingLimit ≤ depth then return .invalid .nestingTooDeep else .error .tooDeep
    scanWith array limit buffer
  | room + 1, depth =>
    let array (start : Nat) : Except Trap (Verdict (Content × Nat)) :=
      if nestingLimit ≤ depth then return .invalid .nestingTooDeep
      else scanArray (scan limit buffer room (depth + 1)) limit buffer start
    scanWith array limit buffer

/-- Looks for a frame of at most `limit` octets at the front of a buffer. There is room for as many
arrays inside each other as the nesting limit allows. -/
def find (limit : Nat) (buffer : Bytes) : Except Trap (Verdict Frame) := do
  match ← scan limit buffer nestingLimit 0 0 with
  | .incomplete => return if limit < buffer.length then .invalid .frameTooLong else .incomplete
  | .invalid why => return .invalid why
  | .complete (content, stop) =>
    return if limit < stop then .invalid .frameTooLong else .complete ⟨content, stop⟩

/-- Splits one complete frame off the front. -/
def next (decoder : Decoder) : Except Trap (Verdict Decoded × Decoder) := do
  match ← find decoder.limit decoder.buffer with
  | .incomplete => return (.incomplete, decoder)
  | .invalid why => return (.invalid why, decoder)
  | .complete frame =>
    let bytes ← slice decoder.buffer 0 frame.length
    return (.complete ⟨bytes, frame⟩,
      { decoder with buffer := decoder.buffer.drop frame.length })

/-- The octets of a stretch that there may be. -/
def piece (decoded : Decoded) : Option Span → Except Trap (Option Bytes)
  | none => return none
  | some span => do
    let bytes ← slice decoded.bytes span.first span.stop
    return some bytes

/-- The text of a line or the body of a bulk that is not null. -/
def payload (decoded : Decoded) : Except Trap (Option Bytes) := piece decoded decoded.frame.payload

/-- The body of one element; none as well past the last element. -/
def element (decoded : Decoded) (index : Nat) : Except Trap (Option Bytes) :=
  piece decoded (decoded.frame.elements[index]?).join

/-! ## Small steps -/

theorem ok_bind {α β : Type} (value : α) (next : α → Except Trap β) :
    (Except.ok value >>= next) = next value := rfl

theorem add_eq {a b : Nat} (fits : a + b < 18446744073709551616) : add a b = .ok (a + b) :=
  if_pos fits

theorem negate_eq {value : Nat} (small : value ≤ maxLength) : negate value = .ok (-value) := by
  unfold maxLength at small
  exact if_pos (by omega)

theorem slice_eq {buffer : Bytes} {first stop : Nat} (order : first ≤ stop)
    (inside : stop ≤ buffer.length) :
    slice buffer first stop = .ok (Span.slice ⟨first, stop⟩ buffer) :=
  if_pos ⟨order, inside⟩

theorem of_drop_cons {buffer rest : Bytes} {pos : Nat} {b : UInt8}
    (cut : buffer.drop pos = b :: rest) :
    pos < buffer.length ∧ buffer[pos]? = some b ∧ buffer.drop (pos + 1) = rest := by
  have found : buffer[pos]? = some b := by rw [← List.head?_drop, cut, List.head?_cons]
  refine ⟨(List.getElem?_eq_some_iff.1 found).1, found, ?_⟩
  rw [← List.tail_drop, cut, List.tail_cons]

theorem of_drop_nil {buffer : Bytes} {pos : Nat} (here : pos ≤ buffer.length)
    (cut : buffer.drop pos = []) : pos = buffer.length ∧ buffer[pos]? = none :=
  have past := List.drop_eq_nil_iff.1 cut
  ⟨Nat.le_antisymm here past, List.getElem?_eq_none past⟩

theorem of_drop_one {buffer : Bytes} {pos : Nat} {b : UInt8} (cut : buffer.drop pos = [b]) :
    buffer.length < pos + 2 := by
  have left := congrArg List.length cut
  rw [List.length_drop, List.length_singleton] at left
  omega

/-- Where two octets are left, they can be cut out. -/
theorem of_drop_two {buffer rest : Bytes} {pos : Nat} {first second : UInt8}
    (cut : buffer.drop pos = first :: second :: rest) :
    pos + 2 ≤ buffer.length ∧ buffer.drop (pos + 2) = rest ∧
      slice buffer pos (pos + 2) = .ok [first, second] := by
  obtain ⟨_, _, behind⟩ := of_drop_cons cut
  obtain ⟨inside, _, behind⟩ := of_drop_cons behind
  refine ⟨inside, behind, ?_⟩
  rw [slice_eq (Nat.le_add_right _ _) inside, Span.slice, cut, Nat.add_sub_cancel_left]
  rfl

theorem ne_crlf_iff {first second : UInt8} :
    [first, second] ≠ Bytes.crlf ↔ ¬ (first = Bytes.cr ∧ second = Bytes.lf) := by
  simp [Bytes.crlf]

/-- The opposite of a number that was read fits, and -1 stands for null. -/
theorem declare_eq (negative : Prop) [Decidable negative] {number : Nat}
    (bound : number ≤ maxLength) (stop : Nat) :
    declare negative number stop =
      .ok (if negative ∧ 1 < number then .invalid (.negativeLength number)
        else .complete (if negative ∧ number = 1 then none else some number, stop)) := by
  by_cases signed : negative
  · have below : -(number : Int) < -1 ↔ 1 < number := by omega
    have null : -(number : Int) = -1 ↔ number = 1 := by omega
    simp only [declare, signed, decide_true, if_true, true_and, negate_eq bound, ok_bind, below,
      null, Int.natAbs_neg, Int.natAbs_natCast]
    by_cases large : 1 < number
    · rw [if_pos large, if_pos large]
      rfl
    · -- What is left is 0 or 1.
      have plain : (if number = 1 then none else some (-(number : Int)).toNat) =
          if number = 1 then none else some number := by
        split
        · rfl
        · rw [show number = 0 by omega]
          rfl
      rw [if_neg large, if_neg large, plain]
      rfl
  · have above : ¬ (number : Int) < -1 := by omega
    have counted : (number : Int) ≠ -1 := by omega
    simp only [declare, signed, decide_false, Bool.false_eq_true, if_false, false_and, pure_bind,
      above, counted, Int.toNat_natCast]
    rfl

theorem readDigits_of_getElem? {buffer : Bytes} {value pos : Nat} {b : UInt8}
    (found : buffer[pos]? = some b) (fits : pos + 1 < 18446744073709551616) :
    readDigits buffer value pos =
      if Bytes.isDigit b then
        if value * 10 + Bytes.digitValue b ≤ maxLength then
          readDigits buffer (value * 10 + Bytes.digitValue b) (pos + 1)
        else .ok none
      else .ok (some (value, pos)) := by
  have moved := add_eq fits
  rw [readDigits]
  split
  · next missing => simp [missing] at found
  · next other here =>
    obtain rfl := Option.some.inj (here.symm.trans found)
    dsimp only
    congr 2
    split
    · next sum goes => rw [eq_of_add goes]
    · next trap fails => simp [moved] at fails

/-- The first line end is where the two octets of one first stand side by side. -/
theorem findLineEnd_eq (offset : Nat) (rest : Bytes) :
    Frame.findLineEnd offset rest =
      ((rest.zip rest.tail).findIdx? (· == (Bytes.cr, Bytes.lf))).map fun index =>
        (offset + index, ⟨offset + index + 2, rest.drop (index + 2)⟩) := by
  induction rest generalizing offset with
  | nil => rfl
  | cons first rest ih =>
    rw [Frame.findLineEnd, List.tail_cons]
    cases rest with
    | nil => simp [Frame.findLineEnd]
    | cons second rest =>
      rw [List.zip_cons_cons, List.findIdx?_cons]
      have ends : ((first, second) == (Bytes.cr, Bytes.lf)) = true ↔
          first = Bytes.cr ∧ (second :: rest).head? = some Bytes.lf := by simp
      by_cases ended : first = Bytes.cr ∧ (second :: rest).head? = some Bytes.lf
      · rw [if_pos ended, if_pos (ends.2 ended)]
        rfl
      · rw [if_neg ended, if_neg (mt ends.1 ended), ih, Option.map_map]
        congr 1
        funext index
        simp only [Function.comp_apply, Prod.mk.injEq, Cursor.mk.injEq]
        exact ⟨by omega, by omega, rfl⟩

/-! ## The two searches compared -/

/-- The machine meets no trap and comes to the same as the search. What was read ends at `least` or
behind it, and in the buffer, where both go on. -/
inductive Agrees {α : Type} (buffer : Bytes) (least : Nat) :
    Verdict (α × Cursor) → Except Trap (Verdict (α × Nat)) → Prop where
  | incomplete : Agrees buffer least .incomplete (.ok .incomplete)
  | invalid (why : FrameFault) : Agrees buffer least (.invalid why) (.ok (.invalid why))
  | complete (value : α) {stop : Nat} (behind : least ≤ stop) (inside : stop ≤ buffer.length) :
      Agrees buffer least (.complete (value, ⟨stop, buffer.drop stop⟩))
        (.ok (.complete (value, stop)))

section

variable {buffer : Bytes} {limit : Nat}

theorem Agrees.mono {α : Type} {least more : Nat} {found : Verdict (α × Cursor)}
    {read : Except Trap (Verdict (α × Nat))} (agrees : Agrees buffer more found read)
    (le : least ≤ more) : Agrees buffer least found read := by
  cases agrees with
  | incomplete => exact .incomplete
  | invalid why => exact .invalid why
  | complete value behind inside => exact .complete value (Nat.le_trans le behind) inside

theorem Agrees.andThen {α β : Type} {least more : Nat} {found : Verdict (α × Cursor)}
    {read : Except Trap (Verdict (α × Nat))} (first : Agrees buffer least found read)
    {goesOn : α × Cursor → Verdict (β × Cursor)}
    {next : α × Nat → Except Trap (Verdict (β × Nat))}
    (second : ∀ value stop, found = .complete (value, ⟨stop, buffer.drop stop⟩) → least ≤ stop →
      stop ≤ buffer.length →
        Agrees buffer more (goesOn (value, ⟨stop, buffer.drop stop⟩)) (next (value, stop))) :
    Agrees buffer more (found.andThen goesOn) (Guarded.andThen read next) := by
  cases first with
  | incomplete => exact .incomplete
  | invalid why => exact .invalid why
  | complete value behind inside => exact second value _ rfl behind inside

variable (short : buffer.length < 4611686018427387904)
include short

/-- The machine reads the same digits, and stops at the same place. -/
theorem readDigits_agrees {value pos : Nat} (small : value ≤ maxLength)
    (here : pos ≤ buffer.length) :
    (Frame.readDigits value pos (buffer.drop pos) = none ∧
        readDigits buffer value pos = .ok none) ∨
      ∃ number stop, number ≤ maxLength ∧ pos ≤ stop ∧ stop ≤ buffer.length ∧
        Frame.readDigits value pos (buffer.drop pos) =
          some (number, ⟨stop, buffer.drop stop⟩) ∧
        readDigits buffer value pos = .ok (some (number, stop)) := by
  generalize cut : buffer.drop pos = rest
  induction rest generalizing pos value with
  | nil =>
    obtain ⟨_, missing⟩ := of_drop_nil here cut
    refine .inr ⟨value, pos, small, Nat.le_refl _, here, by rw [cut]; rfl, ?_⟩
    rw [readDigits]
    split <;> simp_all
  | cons b rest ih =>
    obtain ⟨inside, found, behind⟩ := of_drop_cons cut
    rw [readDigits_of_getElem? found (by omega), Frame.readDigits]
    dsimp only
    by_cases digit : Bytes.isDigit b
    · rw [if_pos digit, if_pos digit]
      by_cases fits : value * 10 + Bytes.digitValue b ≤ maxLength
      · rw [if_pos fits, if_pos fits]
        rcases ih fits inside behind with none_left | ⟨number, stop, bound, after, within, both⟩
        · exact .inl none_left
        · exact .inr ⟨number, stop, bound, by omega, within, both⟩
      · rw [if_neg fits, if_neg fits]
        exact .inl ⟨rfl, rfl⟩
    · rw [if_neg digit, if_neg digit]
      exact .inr ⟨value, pos, small, Nat.le_refl _, here, by rw [cut], rfl⟩

theorem agrees_readMagnitude (negative : Prop) [Decidable negative] {digits : Nat}
    (here : digits ≤ buffer.length) :
    Agrees buffer (digits + 2) (Frame.readMagnitude negative ⟨digits, buffer.drop digits⟩)
      (readMagnitude buffer negative digits) := by
  unfold Frame.readMagnitude readMagnitude
  dsimp only
  rcases readDigits_agrees short (Nat.zero_le _) here with
    ⟨none_read, overflows⟩ | ⟨number, stop, bound, after, within, read, reads⟩
  · rw [none_read, overflows]
    exact .invalid _
  · rw [read, reads, ok_bind]
    dsimp only
    cases cut : buffer.drop stop with
    | nil =>
      obtain ⟨rfl, _⟩ := of_drop_nil within cut
      rw [if_pos rfl]
      exact .incomplete
    | cons first more =>
      obtain ⟨inside, _, behind⟩ := of_drop_cons cut
      rw [if_neg (by omega)]
      dsimp only
      by_cases still : stop = digits
      · rw [if_pos still, if_pos still]
        exact .invalid _
      rw [if_neg still, if_neg still, add_eq (by omega), ok_bind]
      cases more with
      | nil =>
        have past := of_drop_one cut
        rw [if_pos past]
        exact .incomplete
      | cons second rest =>
        obtain ⟨ends, behind, ending⟩ := of_drop_two cut
        have fits : ¬ buffer.length < stop + 2 := by omega
        rw [if_neg fits, ending, ok_bind, declare_eq negative bound]
        dsimp only
        by_cases ended : first = Bytes.cr ∧ second = Bytes.lf
        · rw [if_neg (mt ne_crlf_iff.1 (not_not.2 ended)),
            if_neg (mt Decidable.not_and_iff_not_or_not.2 (not_not.2 ended))]
          by_cases large : negative ∧ 1 < number
          · rw [if_pos large, if_pos large]
            exact .invalid _
          · rw [if_neg large, if_neg large]
            exact behind ▸ .complete _ (by omega) ends
        · rw [if_pos (ne_crlf_iff.2 ended), if_pos (Decidable.not_and_iff_not_or_not.1 ended)]
          exact .invalid _

theorem agrees_readLength {start : Nat} (here : start < buffer.length) :
    Agrees buffer (start + 3) (Frame.readLength ⟨start + 1, buffer.drop (start + 1)⟩)
      (readLength buffer start) := by
  have signed : buffer[start + 1]? = (buffer.drop (start + 1)).head? := List.head?_drop.symm
  rw [Frame.readLength_eq, readLength, add_eq (by omega), ok_bind]
  dsimp only
  rw [signed]
  by_cases negative : (buffer.drop (start + 1)).head? = some Bytes.minus
  · have inside : start + 1 < buffer.length := by
      rw [← signed] at negative
      exact (List.getElem?_eq_some_iff.1 negative).1
    have read := agrees_readMagnitude short ((buffer.drop (start + 1)).head? = some Bytes.minus)
      inside
    have fits : add (start + 1) 1 = .ok (start + 1 + 1) := add_eq (by omega)
    simp only [decide_eq_true_eq]
    rw [if_pos negative, if_pos negative, fits, Cursor.skip, List.drop_drop]
    exact read.mono (by omega)
  · have read := agrees_readMagnitude short ((buffer.drop (start + 1)).head? = some Bytes.minus)
      here
    simp only [decide_eq_true_eq]
    rw [if_neg negative, if_neg negative]
    exact read.mono (by omega)

theorem agrees_scanLine (kind : Kind) {start : Nat} (here : start < buffer.length) :
    Agrees buffer (start + 3) (Frame.scanLine kind ⟨start + 1, buffer.drop (start + 1)⟩)
      (scanLine buffer kind start) := by
  rw [Frame.scanLine, findLineEnd_eq, scanLine, add_eq (by omega), ok_bind, findLineEnd,
    add_eq (by omega), ok_bind]
  by_cases few : buffer.length < start + 1 + 2
  · have missing : (buffer.drop (start + 1)).tail = [] := by
      rw [List.tail_drop, List.drop_eq_nil_iff]
      omega
    rw [if_pos few, missing, List.zip_nil_right]
    exact .incomplete
  · have rest : Span.slice ⟨start + 1, buffer.length⟩ buffer = buffer.drop (start + 1) := by
      rw [Span.slice]
      exact List.take_of_length_le (by simp)
    rw [if_neg few, slice_eq here (Nat.le_refl _), ok_bind, rest]
    cases found : ((buffer.drop (start + 1)).zip (buffer.drop (start + 1)).tail).findIdx?
        (· == (Bytes.cr, Bytes.lf)) with
    | none => exact .incomplete
    | some index =>
      have inside : start + 1 + index + 2 ≤ buffer.length := by
        have within := (List.findIdx?_eq_some_iff_getElem.1 found).1
        rw [List.length_zip, List.length_tail, List.length_drop] at within
        omega
      dsimp only [Option.map_some]
      rw [add_eq (by omega), ok_bind, pure_bind]
      dsimp only
      rw [add_eq (by omega), ok_bind, List.drop_drop, ← Nat.add_assoc]
      exact .complete _ (by omega) inside

theorem agrees_scanBulk (limit : Nat) {start : Nat} (here : start < buffer.length) :
    Agrees buffer (start + 3) (Frame.scanBulk limit ⟨start + 1, buffer.drop (start + 1)⟩)
      (scanBulk limit buffer start) := by
  refine (agrees_readLength short here).andThen fun length body declared behind inside => ?_
  cases length with
  | none => exact .complete _ behind inside
  | some length =>
    obtain ⟨header, declares, _, _⟩ := header_of_readLength declared
    have small := declares.le_maxLength
    unfold maxLength at small
    dsimp only
    by_cases long : limit < length
    · rw [if_pos long, if_pos long]
      exact .invalid _
    rw [if_neg long, if_neg long, add_eq (by omega), ok_bind, add_eq (by omega), ok_bind]
    by_cases far : limit < body + length + 2
    · rw [if_pos far, if_pos far]
      exact .invalid _
    rw [if_neg far, if_neg far, List.drop_drop]
    cases cut : buffer.drop (body + length) with
    | nil =>
      have past := List.drop_eq_nil_iff.1 cut
      have few : buffer.length < body + length + 2 := by omega
      rw [if_pos few]
      exact .incomplete
    | cons first more =>
      cases more with
      | nil =>
        have few := of_drop_one cut
        rw [if_pos few]
        exact .incomplete
      | cons second rest =>
        obtain ⟨ends, behind, ending⟩ := of_drop_two cut
        have fits : ¬ buffer.length < body + length + 2 := by omega
        rw [if_neg fits, ending, ok_bind]
        dsimp only
        by_cases ended : first = Bytes.cr ∧ second = Bytes.lf
        · rw [if_pos ended, if_neg (mt ne_crlf_iff.1 (not_not.2 ended))]
          exact behind ▸ .complete _ (by omega) ends
        · rw [if_neg ended, if_pos (ne_crlf_iff.2 ended)]
          exact .invalid _

omit short in
/-- If elements are read alike wherever they start, so are any number of them. -/
theorem agrees_scanItems {reader : Cursor → Verdict (Content × Cursor)}
    {scan : Nat → Except Trap (Verdict (Content × Nat))}
    (inner : ∀ start, start ≤ buffer.length →
      Agrees buffer (start + 1) (reader ⟨start, buffer.drop start⟩) (scan start))
    (limit count : Nat) (seen : List Item) {start : Nat} (here : start ≤ buffer.length) :
    Agrees buffer start (Frame.scanItems reader limit count seen ⟨start, buffer.drop start⟩)
      (scanItems scan limit count seen start) := by
  induction count generalizing seen start with
  | zero => exact .complete _ (Nat.le_refl _) here
  | succ count ih =>
    have goesOn : Frame.scanItems reader limit (count + 1) seen ⟨start, buffer.drop start⟩ =
        (reader ⟨start, buffer.drop start⟩).andThen fun (content, next) =>
          if limit < next.offset then .invalid .frameTooLong
          else
            Frame.scanItems reader limit count (⟨content.kind, content.payload⟩ :: seen) next := by
      rw [Frame.scanItems]
      cases reader ⟨start, buffer.drop start⟩ <;> rfl
    rw [goesOn]
    refine (inner start here).andThen fun content next _ behind inside => ?_
    dsimp only
    by_cases far : limit < next
    · rw [if_pos far, if_pos far]
      exact .invalid _
    · rw [if_neg far, if_neg far]
      exact (ih _ inside).mono (by omega)

theorem agrees_scanArray {reader : Cursor → Verdict (Content × Cursor)}
    {scan : Nat → Except Trap (Verdict (Content × Nat))}
    (inner : ∀ start, start ≤ buffer.length →
      Agrees buffer (start + 1) (reader ⟨start, buffer.drop start⟩) (scan start))
    (limit : Nat) {start : Nat} (here : start < buffer.length) :
    Agrees buffer (start + 3) (Frame.scanArray reader limit ⟨start + 1, buffer.drop (start + 1)⟩)
      (scanArray scan limit buffer start) := by
  refine (agrees_readLength short here).andThen fun count body _ behind inside => ?_
  cases count with
  | none => exact .complete _ behind inside
  | some count =>
    dsimp only
    by_cases many : limit / minElementLength < count
    · rw [if_pos many, if_pos many]
      exact .invalid _
    · rw [if_neg many, if_neg many]
      refine (agrees_scanItems inner limit count [] inside).andThen
        fun items next _ further within => ?_
      exact .complete _ (Nat.le_trans behind further) within

theorem agrees_scanWith {reader : Cursor → Verdict (Content × Cursor)}
    {array : Nat → Except Trap (Verdict (Content × Nat))} (limit : Nat) {start : Nat}
    (here : start ≤ buffer.length)
    (inner : start < buffer.length →
      Agrees buffer (start + 1) (reader ⟨start + 1, buffer.drop (start + 1)⟩) (array start)) :
    Agrees buffer (start + 1) (Frame.scanWith reader limit ⟨start, buffer.drop start⟩)
      (scanWith array limit buffer start) := by
  rw [Frame.scanWith, scanWith]
  dsimp only
  cases cut : buffer.drop start with
  | nil =>
    rw [(of_drop_nil here cut).2]
    exact .incomplete
  | cons mark rest =>
    obtain ⟨inside, found, rfl⟩ := of_drop_cons cut
    rw [found]
    dsimp only
    have line (kind : Kind) := (agrees_scanLine short kind inside).mono (Nat.le_add_right _ 2)
    cases announced : Kind.ofMark? mark with
    | none => exact .invalid _
    | some kind =>
      cases kind with
      | array => exact inner inside
      | bulk => exact (agrees_scanBulk short limit inside).mono (Nat.le_add_right _ 2)
      | status => exact line .status
      | error => exact line .error
      | integer => exact line .integer

/-- Wherever the search stands, inside of however many arrays, the machine comes to the same. The
room for arrays that is left is what the nesting limit leaves. -/
theorem agrees_scan (limit : Nat) {room depth start : Nat} (left : depth + room = nestingLimit)
    (here : start ≤ buffer.length) :
    Agrees buffer (start + 1) (Frame.scan limit room ⟨start, buffer.drop start⟩)
      (scan limit buffer room depth start) := by
  induction room generalizing depth start with
  | zero =>
    rw [Frame.scan, scan]
    refine agrees_scanWith short limit here fun _ => ?_
    have deep : nestingLimit ≤ depth := Nat.le_of_eq left.symm
    rw [if_pos deep]
    exact .invalid _
  | succ room ih =>
    rw [Frame.scan, scan]
    refine agrees_scanWith short limit here fun inside => ?_
    rw [if_neg (by omega)]
    refine (agrees_scanArray short (fun start here => ?_) limit inside).mono (Nat.le_add_right _ 2)
    exact ih (by omega) here

theorem find_eq (limit : Nat) : find limit buffer = .ok (Frame.find limit buffer) := by
  have agrees := agrees_scan short limit (Nat.zero_add nestingLimit) (Nat.zero_le _)
  rw [find, Frame.find]
  rw [List.drop_zero] at agrees
  generalize Frame.scan limit nestingLimit ⟨0, buffer⟩ = found at agrees
  generalize scan limit buffer nestingLimit 0 0 = read at agrees
  cases agrees with
  | incomplete => rfl
  | invalid why => rfl
  | complete value behind inside => rfl

end

/-- A frame that was found can be cut out of its buffer, and its pieces out of the frame. -/
theorem next_eq {decoder : Decoder} (short : decoder.buffer.length < 4611686018427387904) :
    next decoder = .ok decoder.next := by
  rw [next, find_eq short, ok_bind, Decoder.next]
  cases found : Frame.find decoder.limit decoder.buffer with
  | incomplete => rfl
  | invalid why => rfl
  | complete frame =>
    dsimp only
    rw [slice_eq (Nat.zero_le _) (length_le_of_find found), ok_bind]
    rfl

theorem piece_eq {decoded : Decoded} {place : Option Span}
    (inside : ∀ span, place = some span →
      span.first ≤ span.stop ∧ span.stop ≤ decoded.bytes.length) :
    piece decoded place = .ok (place.map fun span => span.slice decoded.bytes) := by
  cases place with
  | none => rfl
  | some span =>
    obtain ⟨order, within⟩ := inside span rfl
    rw [piece, slice_eq order within]
    rfl

/-- What holds of a buffer under a limit, for as many arrays inside each other as the nesting limit
allows.

* `scans`: wherever the search stands, inside of however many arrays, the machine meets no trap and
  comes to the same; a frame that it finds ends behind its start and in the buffer.
* `finds`, `splits`: neither does it meet one when it looks for a frame at the front, and splits it
  off.
* `inside`: the frame has octets, all of them in the buffer, and its stretches lie in it.
* `payload`, `element`: any of them can be cut out of the frame that was split off. -/
structure Safe (limit : Nat) (buffer : Bytes) : Prop where
  scans : ∀ depth start, depth ≤ 128 → start ≤ buffer.length →
    Agrees buffer (start + 1) (Frame.scan limit (128 - depth) ⟨start, buffer.drop start⟩)
      (scan limit buffer (128 - depth) depth start)
  finds : find limit buffer = .ok (Frame.find limit buffer)
  splits : next ⟨limit, buffer⟩ = .ok (Decoder.next ⟨limit, buffer⟩)
  inside : ∀ frame, Frame.find limit buffer = .complete frame →
    0 < frame.length ∧ frame.length ≤ buffer.length ∧
      ∀ span, frame.payload = some span ∨ some span ∈ frame.elements →
        span.first ≤ span.stop ∧ span.stop ≤ frame.length
  payload : ∀ decoded rest, Decoder.next ⟨limit, buffer⟩ = (.complete decoded, rest) →
    payload decoded = .ok decoded.payload
  element : ∀ decoded rest, Decoder.next ⟨limit, buffer⟩ = (.complete decoded, rest) →
    ∀ index, element decoded index = .ok (decoded.element index)

theorem span_inside {limit : Nat} {buffer : Bytes} {frame : Frame}
    (found : Frame.find limit buffer = .complete frame) {span : Span}
    (named : frame.payload = some span ∨ some span ∈ frame.elements) :
    span.first ≤ span.stop ∧ span.stop ≤ frame.length := by
  obtain ⟨tree, ⟨rest, rfl⟩, _, rfl⟩ := exists_tree_of_find found
  exact (tree.describes_frame rest).inside span named

/-- The pieces of a frame that was split off lie in its bytes. -/
theorem span_inside_of_next {decoder rest : Decoder} {decoded : Decoded}
    (given : decoder.next = (.complete decoded, rest)) {span : Span}
    (named : decoded.frame.payload = some span ∨ some span ∈ decoded.frame.elements) :
    span.first ≤ span.stop ∧ span.stop ≤ decoded.bytes.length := by
  unfold Decoder.next at given
  split at given
  · simp at given
  · simp at given
  · next frame found =>
    simp only [Prod.mk.injEq, Verdict.complete.injEq] at given
    obtain ⟨rfl, _⟩ := given
    dsimp only at named ⊢
    rw [List.length_take_of_le (length_le_of_find found)]
    exact span_inside found named

/-- On a buffer of any size that can be held, whatever it declares and whatever the limit is, the
machine meets no trap and finds the same as the search. -/
theorem safe {buffer : Bytes} (short : buffer.length < 4611686018427387904) (limit : Nat) :
    Safe limit buffer where
  scans depth start shallow here := by
    refine agrees_scan short limit ?_ here
    exact Nat.add_sub_of_le shallow
  finds := find_eq short limit
  splits := @next_eq ⟨limit, buffer⟩ short
  inside frame found :=
    ⟨length_pos_of_find found, length_le_of_find found, fun _ named => span_inside found named⟩
  payload decoded rest given := piece_eq fun _ lies => span_inside_of_next given (.inl lies)
  element decoded rest given index := by
    refine piece_eq fun span lies => span_inside_of_next given (.inr ?_)
    cases named : decoded.frame.elements[index]? with
    | none => simp [named] at lies
    | some place =>
      rw [named, Option.join_some] at lies
      exact lies ▸ List.mem_of_getElem? named

namespace Sample

/-- An array of two bulks, the second one as long as any that can be declared. -/
def vast : Bytes := Text.utf8 "*2\r\n$3\r\nfoo\r\n$9223372036854775807\r\nbar"

end Sample

/-- The machine waits for the rest of a bulk that no memory could hold, since the limit is the
largest there is. -/
theorem safe_vast :
    Sample.vast.length < 4611686018427387904 ∧ Safe 18446744073709551615 Sample.vast ∧
      find 18446744073709551615 Sample.vast = .ok .incomplete := by
  have short : Sample.vast.length < 4611686018427387904 := by decide +kernel
  have waits : Frame.find 18446744073709551615 Sample.vast = .incomplete := by decide +kernel
  exact ⟨short, safe short _, (safe short _).finds.trans (congrArg _ waits)⟩

end Guarded

end ClusterProxy.Frame
