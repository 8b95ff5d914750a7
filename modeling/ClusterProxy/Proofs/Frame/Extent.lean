import ClusterProxy.Frame.Decoder
import ClusterProxy.Proofs.Frame.Steady

/-!
# The octets a frame is read from

What a reader completes depends on the octets it takes and on no others (`Frame.Local`). Together
with `Frame.Steady`, which says that octets behind a decision do not matter, this settles what
`Frame.find` says about one buffer from what it says about another:

* `Frame.find_append`: a frame at the front stays there when more octets arrive;
* `Frame.find_take`: the octets of a frame alone are that frame;
* `Frame.find_take_of_lt`: a proper prefix of a frame is never decided;
* `Frame.find_append_invalid`: a buffer that is refused is refused with more octets as well.
-/

namespace ClusterProxy.Frame

/-! ## Readers that look no further than they read -/

/-- A reader is local if what it completes stands at the front of what it was given, and the octets
it took give the same alone. -/
def Local {α : Type} (reader : Cursor → Verdict (α × Cursor)) : Prop :=
  ∀ cursor value next, reader cursor = .complete (value, next) →
    ∃ used, cursor.rest = used ++ next.rest ∧ next.offset = cursor.offset + used.length ∧
      reader ⟨cursor.offset, used⟩ = .complete (value, ⟨next.offset, []⟩)

/-- A steady reader that completes on some octets completes with any octets behind them. -/
theorem Steady.complete {α : Type} {reader : Cursor → Verdict (α × Cursor)}
    (steady : Steady reader) {offset stop : Nat} {used rest : Bytes} {value : α}
    (found : reader ⟨offset, used⟩ = .complete (value, ⟨stop, rest⟩)) (more : Bytes) :
    reader ⟨offset, used ++ more⟩ = .complete (value, ⟨stop, rest ++ more⟩) := by
  have extended := steady ⟨offset, used⟩ more (by rw [found]; rfl)
  rw [found] at extended
  exact extended

theorem Local.andThen {α β : Type} {reader : Cursor → Verdict (α × Cursor)}
    {next : α × Cursor → Verdict (β × Cursor)} (steady : Steady reader) (first : Local reader)
    (second : ∀ value, Local fun rest => next (value, rest)) :
    Local fun cursor => (reader cursor).andThen next := by
  intro cursor value stop found
  dsimp only at found
  cases read : reader cursor with
  | incomplete => simp [read] at found
  | invalid why => simp [read] at found
  | complete taken =>
    obtain ⟨head, middle⟩ := taken
    rw [read, Verdict.andThen_complete] at found
    obtain ⟨front, cut, reached, alone⟩ := first cursor head middle read
    obtain ⟨back, cutBack, reachedBack, aloneBack⟩ := second head middle value stop found
    refine ⟨front ++ back, ?_, ?_, ?_⟩
    · rw [cut, cutBack, List.append_assoc]
    · rw [reachedBack, reached, List.length_append, Nat.add_assoc]
    · have both := steady.complete alone back
      simp only [both, Verdict.andThen_complete, List.nil_append]
      exact aloneBack

/-- Digits that something stands behind end where that stands. -/
theorem readDigits_local {value offset number stop : Nat} {rest tail : Bytes} {first : UInt8}
    (read : readDigits value offset rest = some (number, ⟨stop, first :: tail⟩)) :
    ∃ digits, rest = digits ++ first :: tail ∧ stop = offset + digits.length ∧
      readDigits value offset (digits ++ [first]) = some (number, ⟨stop, [first]⟩) := by
  induction rest generalizing value offset with
  | nil => simp [readDigits] at read
  | cons b rest ih =>
    by_cases digit : Bytes.isDigit b
    · by_cases small : value * 10 + Bytes.digitValue b ≤ maxLength
      · simp only [readDigits, digit, small, if_true] at read
        obtain ⟨digits, cut, reached, alone⟩ := ih read
        refine ⟨b :: digits, by rw [cut]; rfl, by simp [reached]; omega, ?_⟩
        simp [readDigits, digit, small, alone]
      · simp [readDigits, digit, small] at read
    · simp only [readDigits, digit, Bool.false_eq_true, if_false, Option.some.injEq,
        Prod.mk.injEq, Cursor.mk.injEq, List.cons.injEq] at read
      obtain ⟨rfl, rfl, rfl, rfl⟩ := read
      exact ⟨[], rfl, rfl, by simp [readDigits, digit]⟩

theorem findLineEnd_local {offset stop : Nat} {rest : Bytes} {next : Cursor}
    (found : findLineEnd offset rest = some (stop, next)) :
    ∃ used, rest = used ++ next.rest ∧ next.offset = offset + used.length ∧
      findLineEnd offset used = some (stop, ⟨next.offset, []⟩) := by
  induction rest generalizing offset with
  | nil => simp [findLineEnd] at found
  | cons b rest ih =>
    by_cases ends : b = Bytes.cr ∧ rest.head? = some Bytes.lf
    · simp only [findLineEnd, ends, and_self, if_true, Option.some.injEq, Prod.mk.injEq] at found
      obtain ⟨rfl, rfl⟩ := found
      obtain ⟨rfl, second⟩ := ends
      obtain ⟨tail, rfl⟩ : ∃ tail, rest = Bytes.lf :: tail := by
        cases rest <;> simp_all
      exact ⟨[Bytes.cr, Bytes.lf], rfl, rfl, by simp [findLineEnd]⟩
    · simp only [findLineEnd, ends, if_false] at found
      obtain ⟨used, cut, reached, alone⟩ := ih found
      refine ⟨b :: used, by rw [cut]; rfl, by simp [reached]; omega, ?_⟩
      -- The octet behind `b` is the same in `used`, which is not empty since it ends a line.
      have same : used.head? = rest.head? := by
        cases used with
        | nil => simp [findLineEnd] at alone
        | cons _ _ => rw [cut]; rfl
      simp [findLineEnd, same, ends, alone]

theorem local_scanLine (kind : Kind) : Local (scanLine kind) := by
  intro cursor value next found
  unfold scanLine at found
  cases line : findLineEnd cursor.offset cursor.rest with
  | none => simp [line] at found
  | some place =>
    obtain ⟨stop, after⟩ := place
    simp only [line, Verdict.complete.injEq, Prod.mk.injEq] at found
    obtain ⟨rfl, rfl⟩ := found
    obtain ⟨used, cut, reached, alone⟩ := findLineEnd_local line
    exact ⟨used, cut, reached, by simp [scanLine, alone]⟩

/-- Reads the digits of a length and its line end, behind the sign. -/
def readMagnitude (negative : Prop) [Decidable negative] (cursor : Cursor) :
    Verdict (Option Nat × Cursor) :=
  match readDigits 0 cursor.offset cursor.rest with
  | none => .invalid .lengthTooLarge
  | some (_, ⟨_, []⟩) => .incomplete
  | some (value, ⟨offset, first :: more⟩) =>
    if offset = cursor.offset then .invalid (.noLengthDigits offset)
    else match more with
      | [] => .incomplete
      | second :: rest =>
        if first ≠ Bytes.cr ∨ second ≠ Bytes.lf then .invalid (.lengthNotEnded offset)
        else if negative ∧ 1 < value then .invalid (.negativeLength value)
        else .complete (if negative ∧ value = 1 then none else some value, ⟨offset + 2, rest⟩)

theorem readLength_eq (cursor : Cursor) :
    readLength cursor = readMagnitude (cursor.rest.head? = some Bytes.minus)
      (if cursor.rest.head? = some Bytes.minus then cursor.skip 1 else cursor) := by
  rfl

theorem readMagnitude_complete {negative : Prop} [Decidable negative] {cursor next : Cursor}
    {length : Option Nat} (found : readMagnitude negative cursor = .complete (length, next)) :
    ∃ digits number,
      cursor.rest = digits ++ Bytes.crlf ++ next.rest ∧
      next.offset = cursor.offset + digits.length + 2 ∧ digits ≠ [] ∧
      readDigits 0 cursor.offset (digits ++ [Bytes.cr]) =
        some (number, ⟨cursor.offset + digits.length, [Bytes.cr]⟩) ∧
      ¬ (negative ∧ 1 < number) ∧
      length = if negative ∧ number = 1 then none else some number := by
  unfold readMagnitude at found
  cases read : readDigits 0 cursor.offset cursor.rest with
  | none => simp [read] at found
  | some taken =>
    obtain ⟨number, stop, left⟩ := taken
    cases left with
    | nil => simp [read] at found
    | cons first more =>
      obtain ⟨digits, cut, reached, alone⟩ := readDigits_local read
      simp only [read] at found
      by_cases moved : stop = cursor.offset
      · simp [moved] at found
      cases more with
      | nil => simp [moved] at found
      | cons second tail =>
        by_cases ended : first ≠ Bytes.cr ∨ second ≠ Bytes.lf
        · simp [moved, ended] at found
        by_cases large : negative ∧ 1 < number
        · simp [moved, ended, large] at found
        simp only [moved, ended, large, if_false, Verdict.complete.injEq, Prod.mk.injEq] at found
        obtain ⟨rfl, rfl⟩ := found
        obtain ⟨rfl, rfl⟩ : first = Bytes.cr ∧ second = Bytes.lf := by
          simpa only [not_or, Decidable.not_not, ne_eq] using ended
        subst reached
        refine ⟨digits, number, ?_, rfl, ?_, alone, large, rfl⟩
        · rw [cut]
          simp [Bytes.crlf]
        · rintro rfl
          exact moved rfl

theorem readMagnitude_digits {negative : Prop} [Decidable negative] {offset number : Nat}
    {digits : Bytes} (some_digits : digits ≠ [])
    (read : readDigits 0 offset (digits ++ [Bytes.cr]) =
      some (number, ⟨offset + digits.length, [Bytes.cr]⟩))
    (small : ¬ (negative ∧ 1 < number)) (more : Bytes) :
    readMagnitude negative ⟨offset, digits ++ Bytes.crlf ++ more⟩ =
      .complete (if negative ∧ number = 1 then none else some number,
        ⟨offset + digits.length + 2, more⟩) := by
  have extended := readDigits_append_some (Bytes.lf :: more) read
  have same : digits ++ Bytes.crlf ++ more = digits ++ [Bytes.cr] ++ Bytes.lf :: more := by
    simp [Bytes.crlf]
  simp only [readMagnitude, same, extended, List.nil_append]
  simp [some_digits, small]

theorem local_readMagnitude (negative : Prop) [Decidable negative] :
    Local (readMagnitude negative) := by
  intro cursor length next found
  obtain ⟨digits, number, cut, reached, some_digits, read, small, rfl⟩ :=
    readMagnitude_complete found
  refine ⟨digits ++ Bytes.crlf, cut, by rw [reached]; simp [Bytes.crlf]; omega, ?_⟩
  rw [reached]
  simpa using readMagnitude_digits some_digits read small []

theorem local_readLength : Local readLength := by
  rintro ⟨offset, rest⟩ length next found
  rw [readLength_eq] at found
  obtain ⟨used, cut, reached, alone⟩ := local_readMagnitude _ _ _ _ found
  by_cases negative : rest.head? = some Bytes.minus
  · obtain ⟨tail, rfl⟩ : ∃ tail, rest = Bytes.minus :: tail := by cases rest <;> simp_all
    simp only [negative, if_true, Cursor.skip, List.drop_one, List.tail_cons] at cut reached alone
    refine ⟨Bytes.minus :: used, by simp [cut], by simp [reached]; omega, ?_⟩
    simpa [readLength_eq, Cursor.skip] using alone
  · simp only [negative, if_false] at cut reached alone
    refine ⟨used, cut, reached, ?_⟩
    -- Alone, the octets show no sign either, since there is one in front of the line end.
    have same : used.head? = rest.head? := by
      cases used with
      | nil => simp [readMagnitude, readDigits] at alone
      | cons _ _ => rw [cut]; rfl
    simpa [readLength_eq, same, negative] using alone

theorem front_of_drop {n : Nat} {bytes behind : Bytes} {b : UInt8}
    (dropped : bytes.drop n = b :: behind) :
    ∃ front, front.length = n ∧ bytes = front ++ b :: behind := by
  have reaches : n < bytes.length := by
    refine Nat.lt_of_not_le fun past => ?_
    rw [List.drop_of_length_le past] at dropped
    simp at dropped
  refine ⟨bytes.take n, List.length_take_of_le (Nat.le_of_lt reaches), ?_⟩
  rw [← dropped, List.take_append_drop]

theorem local_scanBulk (limit : Nat) : Local (scanBulk limit) := by
  refine local_readLength.andThen steady_readLength fun length => ?_
  rintro ⟨offset, rest⟩ content next found
  cases length with
  | none =>
    simp only [Verdict.complete.injEq, Prod.mk.injEq] at found
    obtain ⟨rfl, rfl⟩ := found
    exact ⟨[], rfl, rfl, rfl⟩
  | some length =>
    dsimp only at found ⊢
    by_cases long : limit < length
    · simp [long] at found
    by_cases far : limit < offset + length + 2
    · simp [long, far] at found
    simp only [long, far, if_false] at found ⊢
    match body : rest.drop length with
    | [] => simp [body] at found
    | [_] => simp [body] at found
    | first :: second :: tail =>
      by_cases ended : first = Bytes.cr ∧ second = Bytes.lf
      · simp only [body, ended, and_self, if_true, Verdict.complete.injEq, Prod.mk.injEq] at found
        obtain ⟨rfl, rfl⟩ := found
        obtain ⟨rfl, rfl⟩ := ended
        obtain ⟨text, rfl, rfl⟩ := front_of_drop body
        refine ⟨text ++ Bytes.crlf, by simp [Bytes.crlf], by simp [Bytes.crlf]; omega, ?_⟩
        rw [List.drop_left]
        rfl
      · simp [body, ended] at found

theorem local_scanItems {reader : Cursor → Verdict (Content × Cursor)} (steady : Steady reader)
    (inner : Local reader) (limit count : Nat) (seen : List Item) :
    Local (scanItems reader limit count seen) := by
  induction count generalizing seen with
  | zero =>
    rintro cursor items next found
    simp only [scanItems, Verdict.complete.injEq, Prod.mk.injEq] at found
    obtain ⟨rfl, rfl⟩ := found
    exact ⟨[], rfl, rfl, rfl⟩
  | succ count ih =>
    intro cursor items stop found
    unfold scanItems at found
    cases read : reader cursor with
    | incomplete => simp [read] at found
    | invalid why => simp [read] at found
    | complete taken =>
      obtain ⟨content, middle⟩ := taken
      by_cases far : limit < middle.offset
      · simp [read, far] at found
      simp only [read, far, if_false] at found
      obtain ⟨front, cut, reached, alone⟩ := inner _ _ _ read
      obtain ⟨back, cutBack, reachedBack, aloneBack⟩ := ih _ _ _ _ found
      refine ⟨front ++ back, ?_, ?_, ?_⟩
      · rw [cut, cutBack, List.append_assoc]
      · rw [reachedBack, reached, List.length_append, Nat.add_assoc]
      · have both := steady.complete alone back
        simp only [scanItems, both, far, if_false, List.nil_append]
        exact aloneBack

theorem local_scanArray {reader : Cursor → Verdict (Content × Cursor)} (steady : Steady reader)
    (inner : Local reader) (limit : Nat) : Local (scanArray reader limit) := by
  refine local_readLength.andThen steady_readLength fun count => ?_
  cases count with
  | none =>
    rintro cursor content next found
    simp only [Verdict.complete.injEq, Prod.mk.injEq] at found
    obtain ⟨rfl, rfl⟩ := found
    exact ⟨[], rfl, rfl, rfl⟩
  | some count =>
    by_cases many : limit / minElementLength < count
    · intro cursor content next found
      simp [many] at found
    · simp only [many, if_false]
      refine (local_scanItems steady inner limit count []).andThen
        (steady_scanItems steady limit count []) fun items => ?_
      rintro cursor content next found
      simp only [Verdict.complete.injEq, Prod.mk.injEq] at found
      obtain ⟨rfl, rfl⟩ := found
      exact ⟨[], rfl, rfl, rfl⟩

theorem local_scanWith {array : Cursor → Verdict (Content × Cursor)} (inner : Local array)
    (limit : Nat) : Local (scanWith array limit) := by
  rintro ⟨offset, rest⟩ content next found
  cases rest with
  | nil => simp [scanWith] at found
  | cons mark rest =>
    -- Behind its mark a frame is read by the reader of its kind.
    have behind {reader : Cursor → Verdict (Content × Cursor)} (inner : Local reader)
        (announced : ∀ rest,
          scanWith array limit ⟨offset, mark :: rest⟩ = reader ⟨offset + 1, rest⟩) :
        ∃ used, mark :: rest = used ++ next.rest ∧ next.offset = offset + used.length ∧
          scanWith array limit ⟨offset, used⟩ = .complete (content, ⟨next.offset, []⟩) := by
      rw [announced] at found
      obtain ⟨used, cut, reached, alone⟩ := inner _ _ _ found
      refine ⟨mark :: used, ?_, ?_, by rw [announced, alone]⟩
      · rw [List.cons_append, ← cut]
      · rw [reached, List.length_cons]
        dsimp only
        omega
    cases announced : Kind.ofMark? mark with
    | none => simp [scanWith, announced] at found
    | some kind =>
      cases kind with
      | array => exact behind inner fun _ => by simp only [scanWith, announced]
      | bulk => exact behind (local_scanBulk limit) fun _ => by simp only [scanWith, announced]
      | status => exact behind (local_scanLine .status) fun _ => by simp only [scanWith, announced]
      | error => exact behind (local_scanLine .error) fun _ => by simp only [scanWith, announced]
      | integer =>
        exact behind (local_scanLine .integer) fun _ => by simp only [scanWith, announced]

/-- A frame is read from its own octets. -/
theorem local_scan (limit levels : Nat) : Local (scan limit levels) := by
  induction levels with
  | zero => exact local_scanWith (fun _ _ _ found => by simp at found) limit
  | succ levels ih =>
    exact local_scanWith (local_scanArray (steady_scan limit levels) ih limit) limit

/-! ## The frame at the front of a buffer -/

/-- The frames that are found are those that a scan completes within the limit. -/
theorem find_eq_complete_iff {limit : Nat} {buffer : Bytes} {frame : Frame} :
    find limit buffer = .complete frame ↔
      ∃ rest, scan limit nestingLimit ⟨0, buffer⟩ =
        .complete (frame.toContent, ⟨frame.length, rest⟩) ∧ frame.length ≤ limit := by
  unfold find
  cases found : scan limit nestingLimit ⟨0, buffer⟩ with
  | incomplete =>
    simp only [reduceCtorEq, false_and, exists_false, iff_false]
    split <;> simp
  | invalid why => simp
  | complete taken =>
    obtain ⟨content, ⟨stop, rest⟩⟩ := taken
    by_cases far : limit < stop
    · simp only [far, if_true, reduceCtorEq, Verdict.complete.injEq, Prod.mk.injEq,
        Cursor.mk.injEq, false_iff, not_exists]
      rintro _ ⟨⟨_, rfl, _⟩, fits⟩
      omega
    · simp only [far, if_false, Verdict.complete.injEq, Prod.mk.injEq, Cursor.mk.injEq]
      constructor
      · rintro rfl
        exact ⟨rest, ⟨rfl, rfl, rfl⟩, Nat.le_of_not_lt far⟩
      · rintro ⟨_, ⟨rfl, rfl, rfl⟩, _⟩
        rfl

/-- A frame that is found is at the front of the buffer, and its octets alone are read as it. -/
theorem scan_take {limit : Nat} {buffer : Bytes} {frame : Frame}
    (found : find limit buffer = .complete frame) :
    frame.length ≤ buffer.length ∧
      scan limit nestingLimit ⟨0, buffer.take frame.length⟩ =
        .complete (frame.toContent, ⟨frame.length, []⟩) := by
  obtain ⟨rest, scanned, _⟩ := find_eq_complete_iff.1 found
  obtain ⟨used, cut, reached, alone⟩ := local_scan _ _ _ _ _ scanned
  simp only [Nat.zero_add] at cut reached alone
  have front : buffer.take frame.length = used := by rw [cut, reached, List.take_left]
  refine ⟨?_, by rw [front]; exact alone⟩
  rw [cut, reached, List.length_append]
  omega

theorem length_le_of_find {limit : Nat} {buffer : Bytes} {frame : Frame}
    (found : find limit buffer = .complete frame) : frame.length ≤ buffer.length :=
  (scan_take found).1

theorem length_le_limit {limit : Nat} {buffer : Bytes} {frame : Frame}
    (found : find limit buffer = .complete frame) : frame.length ≤ limit := by
  obtain ⟨_, _, fits⟩ := find_eq_complete_iff.1 found
  exact fits

/-- A buffer that waits for more octets is not longer than a frame may be. -/
theorem length_le_of_incomplete {limit : Nat} {buffer : Bytes}
    (waits : find limit buffer = .incomplete) : buffer.length ≤ limit := by
  unfold find at waits
  split at waits
  · split at waits
    · simp at waits
    · omega
  · simp at waits
  · split at waits <;> simp at waits

/-- Every frame has an octet. -/
theorem length_pos_of_find {limit : Nat} {buffer : Bytes} {frame : Frame}
    (found : find limit buffer = .complete frame) : 0 < frame.length := by
  have alone := (scan_take found).2
  refine Nat.pos_of_ne_zero fun none_read => ?_
  rw [none_read, List.take_zero] at alone
  exact absurd alone (by simp [nestingLimit, scan, scanWith])

/-- A frame stays at the front of a buffer when more octets arrive. -/
theorem find_append {limit : Nat} {buffer : Bytes} {frame : Frame}
    (found : find limit buffer = .complete frame) (more : Bytes) :
    find limit (buffer ++ more) = .complete frame := by
  obtain ⟨rest, scanned, fits⟩ := find_eq_complete_iff.1 found
  exact find_eq_complete_iff.2
    ⟨rest ++ more, (steady_scan limit nestingLimit).complete scanned more, fits⟩

/-- The octets of a frame alone are that frame. -/
theorem find_take {limit : Nat} {buffer : Bytes} {frame : Frame}
    (found : find limit buffer = .complete frame) :
    find limit (buffer.take frame.length) = .complete frame :=
  find_eq_complete_iff.2 ⟨[], (scan_take found).2, length_le_limit found⟩

/-- A frame that is cut short waits for the rest of it. -/
theorem find_take_of_lt {limit n : Nat} {buffer : Bytes} {frame : Frame}
    (found : find limit buffer = .complete frame) (short : n < frame.length) :
    find limit (buffer.take n) = .incomplete := by
  have whole := (scan_take found).2
  have size := length_le_of_find found
  have fits := length_le_limit found
  have undecided : ¬ decides limit (buffer.take n) := by
    intro decided
    -- A decision of the prefix would be that of the frame, which takes more octets than there are.
    have extended := steady_scan limit nestingLimit ⟨0, buffer.take n⟩
      ((buffer.take frame.length).drop n) decided
    simp only [Cursor.extend] at extended
    rw [← take_eq_append_drop buffer (Nat.le_of_lt short), whole] at extended
    cases read : scan limit nestingLimit ⟨0, buffer.take n⟩ with
    | incomplete => simp [read, Verdict.extend] at extended
    | invalid why => simp [read, Verdict.extend] at extended
    | complete taken =>
      obtain ⟨content, ⟨stop, rest⟩⟩ := taken
      obtain ⟨used, cut, reached, _⟩ := local_scan _ _ _ _ _ read
      simp only [read, Verdict.extend, Verdict.andThen_complete, Cursor.extend,
        Verdict.complete.injEq, Prod.mk.injEq, Cursor.mk.injEq] at extended
      dsimp only at cut reached
      have room := congrArg List.length cut
      simp only [List.length_take, List.length_append] at room
      omega
  rw [find_of_not_decides undecided, if_neg]
  rw [List.length_take]
  omega

/-- A buffer that is refused is refused with more octets as well. -/
theorem find_append_invalid {limit : Nat} {buffer : Bytes} {why : FrameFault}
    (refused : find limit buffer = .invalid why) (more : Bytes) :
    ∃ why, find limit (buffer ++ more) = .invalid why := by
  cases found : find limit (buffer ++ more) with
  | invalid why => exact ⟨why, rfl⟩
  | incomplete =>
    by_cases decided : decides limit buffer
    · rw [find_append_of_decides more decided, refused] at found
      simp at found
    · have undecided : ¬ decides limit (buffer ++ more) := by
        intro decided
        rw [find] at found
        cases read : scan limit nestingLimit ⟨0, buffer ++ more⟩ with
        | incomplete => simp [decides, read, Verdict.isDecided] at decided
        | invalid why => simp [read] at found
        | complete taken => simp only [read] at found; split at found <;> simp at found
      rw [find_of_not_decides decided] at refused
      rw [find_of_not_decides undecided, List.length_append] at found
      split at refused <;> grind
  | complete frame =>
    by_cases short : buffer.length < frame.length
    · have waits := find_take_of_lt found short
      rw [List.take_left, refused] at waits
      simp at waits
    · have whole := find_append (find_take found) (buffer.drop frame.length)
      rw [List.take_append_of_le_length (by omega), List.take_append_drop, refused] at whole
      simp at whole

end ClusterProxy.Frame
