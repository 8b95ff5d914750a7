import ClusterProxy.Frame.Scan

/-!
# More octets at the end of a buffer

A reader goes through a buffer from its front, and stops where it has decided. So a buffer that
grows octet by octet says the same about the frame at its front until that frame is decided, and
once it is decided more octets change nothing (`Frame.steady_scan`). The readers are taken one by
one, from the length of a bulk up to the frame.
-/

namespace ClusterProxy

/-- The same place in a buffer with more octets at its end. -/
def Cursor.extend (cursor : Cursor) (more : Bytes) : Cursor := ⟨cursor.offset, cursor.rest ++ more⟩

namespace Verdict

/-- Whether no more octets are needed. -/
def isDecided {α : Type} : Verdict α → Bool
  | incomplete => false
  | invalid _ => true
  | complete _ => true

/-- The same verdict on a buffer with more octets at its end. -/
def extend {α : Type} (verdict : Verdict (α × Cursor)) (more : Bytes) : Verdict (α × Cursor) :=
  verdict.andThen fun (value, next) => .complete (value, next.extend more)

variable {α β : Type} (next : α → Verdict β)

@[simp] theorem andThen_incomplete : (incomplete : Verdict α).andThen next = incomplete := rfl

@[simp] theorem andThen_invalid (why : FrameFault) :
    (invalid why : Verdict α).andThen next = invalid why := rfl

@[simp] theorem andThen_complete (value : α) : (complete value).andThen next = next value := rfl

end Verdict

namespace Frame

/-- A reader is steady if more octets at the end of the buffer do not change what it decides. -/
def Steady {α : Type} (reader : Cursor → Verdict (α × Cursor)) : Prop :=
  ∀ cursor more, (reader cursor).isDecided →
    reader (cursor.extend more) = (reader cursor).extend more

theorem Steady.andThen {α β : Type} {reader : Cursor → Verdict (α × Cursor)}
    {next : α × Cursor → Verdict (β × Cursor)} (first : Steady reader)
    (second : ∀ value, Steady fun rest => next (value, rest)) :
    Steady fun cursor => (reader cursor).andThen next := by
  intro cursor more decided
  have extended := first cursor more
  cases read : reader cursor with
  | incomplete => simp [read, Verdict.isDecided] at decided
  | invalid why => simp [read, Verdict.isDecided, Verdict.extend] at extended ⊢; simp [extended]
  | complete found =>
    obtain ⟨value, rest⟩ := found
    simp only [read, Verdict.isDecided, Verdict.extend, Verdict.andThen_complete, forall_const]
      at extended
    simp only [read, Verdict.andThen_complete] at decided ⊢
    rw [extended, Verdict.andThen_complete]
    exact second value rest more decided

theorem readDigits_append_none {value offset : Nat} {rest : Bytes} (more : Bytes)
    (read : readDigits value offset rest = none) :
    readDigits value offset (rest ++ more) = none := by
  induction rest generalizing value offset with
  | nil => simp [readDigits] at read
  | cons b rest ih => grind [readDigits]

theorem readDigits_append_some {value offset number stop : Nat} {rest tail : Bytes} {first : UInt8}
    (more : Bytes) (read : readDigits value offset rest = some (number, ⟨stop, first :: tail⟩)) :
    readDigits value offset (rest ++ more) = some (number, ⟨stop, first :: (tail ++ more)⟩) := by
  induction rest generalizing value offset with
  | nil => simp [readDigits] at read
  | cons b rest ih => grind [readDigits]

theorem steady_readLength : Steady readLength := by
  rintro ⟨offset, rest⟩ more decided
  cases rest with
  | nil => simp [readLength, readDigits, Verdict.isDecided] at decided
  | cons b rest =>
    have moved (negative : Prop) [Decidable negative] :
        (if negative then (Cursor.extend ⟨offset, b :: rest⟩ more).skip 1
          else Cursor.extend ⟨offset, b :: rest⟩ more) =
        (if negative then Cursor.skip ⟨offset, b :: rest⟩ 1
          else ⟨offset, b :: rest⟩).extend more := by
      split <;> rfl
    have same : (Cursor.extend ⟨offset, b :: rest⟩ more).rest.head? = (b :: rest).head? := rfl
    simp only [readLength, same, moved] at decided ⊢
    generalize (if (b :: rest).head? = some Bytes.minus then Cursor.skip ⟨offset, b :: rest⟩ 1
      else ⟨offset, b :: rest⟩) = digits at decided ⊢
    cases read : readDigits 0 digits.offset digits.rest with
    | none => simp [Cursor.extend, readDigits_append_none more read, Verdict.extend]
    | some found =>
      obtain ⟨value, stop, left⟩ := found
      rw [read] at decided
      cases left with
      | nil => simp [Verdict.isDecided] at decided
      | cons first tail =>
        simp only [Cursor.extend, readDigits_append_some more read] at decided ⊢
        cases tail <;> grind [Verdict.isDecided, Verdict.extend, Verdict.andThen, Cursor.extend]

theorem findLineEnd_append {offset stop : Nat} {rest : Bytes} {next : Cursor} (more : Bytes)
    (found : findLineEnd offset rest = some (stop, next)) :
    findLineEnd offset (rest ++ more) = some (stop, next.extend more) := by
  induction rest generalizing offset with
  | nil => simp [findLineEnd] at found
  | cons b rest ih => cases rest <;> grind [findLineEnd, Cursor.extend]

theorem steady_scanLine (kind : Kind) : Steady (scanLine kind) := by
  intro cursor more decided
  cases found : findLineEnd cursor.offset cursor.rest with
  | none => simp [scanLine, found, Verdict.isDecided] at decided
  | some place =>
    have extended := findLineEnd_append more found
    simp [scanLine, found, Verdict.extend, Cursor.extend, extended]

theorem steady_scanBulk (limit : Nat) : Steady (scanBulk limit) := by
  refine steady_readLength.andThen fun length cursor more decided => ?_
  cases length with
  | none => rfl
  | some length =>
    simp only [Cursor.extend, Verdict.extend] at decided ⊢
    by_cases long : limit < length
    · simp [long]
    by_cases far : limit < cursor.offset + length + 2
    · simp [long, far]
    simp only [long, far, if_false] at decided ⊢
    match body : cursor.rest.drop length with
    | [] => simp [body, Verdict.isDecided] at decided
    | [_] => simp [body, Verdict.isDecided] at decided
    | first :: second :: rest =>
      have enough : length ≤ cursor.rest.length := by
        have := congrArg List.length body
        simp at this
        omega
      rw [List.drop_append_of_le_length enough, body]
      by_cases ended : first = Bytes.cr ∧ second = Bytes.lf <;> simp [ended]

theorem steady_scanItems {reader : Cursor → Verdict (Content × Cursor)} (steady : Steady reader)
    (limit count : Nat) (seen : List Item) : Steady (scanItems reader limit count seen) := by
  induction count generalizing seen with
  | zero => intro cursor more _; rfl
  | succ count ih =>
    intro cursor more decided
    have extended := steady cursor more
    cases read : reader cursor with
    | incomplete => simp [scanItems, read, Verdict.isDecided] at decided
    | invalid why =>
      simp only [read, Verdict.isDecided, Verdict.extend, forall_const] at extended
      simp [scanItems, read, extended, Verdict.extend]
    | complete found =>
      obtain ⟨content, next⟩ := found
      simp only [read, Verdict.isDecided, Verdict.extend, Verdict.andThen_complete, forall_const]
        at extended
      simp only [scanItems, read, extended] at decided ⊢
      by_cases far : limit < next.offset
      · simp [far, Cursor.extend, Verdict.extend]
      · simp only [far, Cursor.extend, if_false] at decided ⊢
        exact ih _ next more decided

theorem steady_scanArray {reader : Cursor → Verdict (Content × Cursor)} (steady : Steady reader)
    (limit : Nat) : Steady (scanArray reader limit) := by
  refine steady_readLength.andThen fun count => ?_
  cases count with
  | none => exact fun _ _ _ => rfl
  | some count =>
    by_cases many : limit / minElementLength < count
    · simp only [many, if_true]
      exact fun _ _ _ => rfl
    · simp only [many, if_false]
      exact (steady_scanItems steady limit count []).andThen fun _ _ _ _ => rfl

theorem steady_scanWith {array : Cursor → Verdict (Content × Cursor)} (steady : Steady array)
    (limit : Nat) : Steady (scanWith array limit) := by
  rintro ⟨offset, rest⟩ more decided
  cases rest with
  | nil => simp [scanWith, Verdict.isDecided] at decided
  | cons mark rest =>
    simp only [scanWith, Cursor.extend, List.cons_append] at decided ⊢
    cases announced : Kind.ofMark? mark with
    | none => rfl
    | some kind =>
      simp only [announced] at decided ⊢
      cases kind with
      | array => exact steady ⟨offset + 1, rest⟩ more decided
      | bulk => exact steady_scanBulk limit ⟨offset + 1, rest⟩ more decided
      | status => exact steady_scanLine .status ⟨offset + 1, rest⟩ more decided
      | error => exact steady_scanLine .error ⟨offset + 1, rest⟩ more decided
      | integer => exact steady_scanLine .integer ⟨offset + 1, rest⟩ more decided

/-- Once a frame is decided, more octets change nothing. -/
theorem steady_scan (limit levels : Nat) : Steady (scan limit levels) := by
  induction levels with
  | zero => exact steady_scanWith (fun _ _ _ => rfl) limit
  | succ levels ih => exact steady_scanWith (steady_scanArray ih limit) limit

/-- Whether a buffer says all about the frame at its front. -/
def decides (limit : Nat) (buffer : Bytes) : Bool :=
  (scan limit nestingLimit ⟨0, buffer⟩).isDecided

/-- A buffer that decides says the same with more octets at its end. -/
theorem find_append_of_decides {limit : Nat} {buffer : Bytes} (more : Bytes)
    (decided : decides limit buffer) : find limit (buffer ++ more) = find limit buffer := by
  have extended := steady_scan limit nestingLimit ⟨0, buffer⟩ more decided
  simp only [Cursor.extend] at extended
  simp only [find, extended]
  cases found : scan limit nestingLimit ⟨0, buffer⟩ with
  | incomplete => simp [decides, found, Verdict.isDecided] at decided
  | invalid why => rfl
  | complete found => rfl

theorem find_of_not_decides {limit : Nat} {buffer : Bytes} (undecided : ¬ decides limit buffer) :
    find limit buffer = if limit < buffer.length then .invalid .frameTooLong else .incomplete := by
  cases found : scan limit nestingLimit ⟨0, buffer⟩ <;>
    simp_all [decides, find, Verdict.isDecided]

theorem take_eq_append_drop {i j : Nat} (buffer : Bytes) (shorter : i ≤ j) :
    buffer.take j = buffer.take i ++ (buffer.take j).drop i := by
  have cut := List.take_append_drop i (buffer.take j)
  rwa [List.take_take, Nat.min_eq_left shorter, eq_comm] at cut

end Frame

end ClusterProxy
