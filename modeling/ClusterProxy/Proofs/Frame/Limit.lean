import ClusterProxy.Proofs.Frame.Stream

/-!
# Lower limits

A lower limit refuses more and says nothing else (`Frame.find_of_le`), so a frame that is found
under one limit is found under every higher one (`Frame.find_of_limit_le`).
-/

namespace ClusterProxy

namespace Frame

/-! ## Lower limits -/

/-- One reader refuses more than another, and agrees with it where it does not refuse. -/
def RefusesMore {α : Type} (strict lax : Cursor → Verdict α) : Prop :=
  ∀ cursor, strict cursor = lax cursor ∨ ∃ why, strict cursor = .invalid why

theorem RefusesMore.refl {α : Type} (reader : Cursor → Verdict α) : RefusesMore reader reader :=
  fun _ => .inl rfl

theorem RefusesMore.andThen {α β : Type} {strict lax : Cursor → Verdict (α × Cursor)}
    {strictNext laxNext : α × Cursor → Verdict β} (first : RefusesMore strict lax)
    (second : ∀ value, RefusesMore (fun rest => strictNext (value, rest))
      fun rest => laxNext (value, rest)) :
    RefusesMore (fun cursor => (strict cursor).andThen strictNext)
      fun cursor => (lax cursor).andThen laxNext := by
  intro cursor
  dsimp only
  rcases first cursor with same | ⟨why, refused⟩
  · rw [same]
    cases lax cursor with
    | incomplete => exact .inl rfl
    | invalid why => exact .inl rfl
    | complete taken => exact second taken.1 taken.2
  · exact .inr ⟨why, by rw [refused]; rfl⟩

variable {limit larger : Nat} (lower : limit ≤ larger)
include lower

theorem refusesMore_scanBulk : RefusesMore (scanBulk limit) (scanBulk larger) := by
  refine RefusesMore.andThen (RefusesMore.refl readLength) fun length cursor => ?_
  cases length with
  | none => exact .inl rfl
  | some length =>
    dsimp only
    by_cases long : limit < length
    · exact .inr ⟨_, if_pos long⟩
    by_cases far : limit < cursor.offset + length + 2
    · exact .inr ⟨.frameTooLong, by simp [long, far]⟩
    · refine .inl ?_
      rw [if_neg long, if_neg far, if_neg (by omega), if_neg (by omega)]

theorem refusesMore_scanItems {strict lax : Cursor → Verdict (Content × Cursor)}
    (inner : RefusesMore strict lax) (count : Nat) (seen : List Item) :
    RefusesMore (scanItems strict limit count seen) (scanItems lax larger count seen) := by
  induction count generalizing seen with
  | zero => exact fun _ => .inl rfl
  | succ count ih =>
    intro cursor
    simp only [scanItems]
    rcases inner cursor with same | ⟨why, refused⟩
    · rw [same]
      cases lax cursor with
      | incomplete => exact .inl rfl
      | invalid why => exact .inl rfl
      | complete taken =>
        obtain ⟨content, next⟩ := taken
        dsimp only
        by_cases far : limit < next.offset
        · exact .inr ⟨_, if_pos far⟩
        · rw [if_neg far, if_neg (by omega)]
          exact ih _ next
    · exact .inr ⟨why, by rw [refused]⟩

theorem refusesMore_scanArray {strict lax : Cursor → Verdict (Content × Cursor)}
    (inner : RefusesMore strict lax) :
    RefusesMore (scanArray strict limit) (scanArray lax larger) := by
  refine RefusesMore.andThen (RefusesMore.refl readLength) fun count => ?_
  cases count with
  | none => exact fun _ => .inl rfl
  | some count =>
    dsimp only
    by_cases many : limit / minElementLength < count
    · exact fun _ => .inr ⟨_, if_pos many⟩
    · have fewer : ¬ larger / minElementLength < count := by
        have := Nat.div_le_div_right (c := minElementLength) lower
        omega
      simp only [many, fewer, if_false]
      exact (refusesMore_scanItems lower inner count []).andThen fun _ => .refl _

theorem refusesMore_scanWith {strict lax : Cursor → Verdict (Content × Cursor)}
    (inner : RefusesMore strict lax) :
    RefusesMore (scanWith strict limit) (scanWith lax larger) := by
  rintro ⟨offset, rest⟩
  cases rest with
  | nil => exact .inl rfl
  | cons mark rest =>
    simp only [scanWith]
    cases Kind.ofMark? mark with
    | none => exact .inl rfl
    | some kind =>
      cases kind with
      | array => exact inner _
      | bulk => exact refusesMore_scanBulk lower _
      | status => exact .inl rfl
      | error => exact .inl rfl
      | integer => exact .inl rfl

theorem refusesMore_scan (levels : Nat) : RefusesMore (scan limit levels) (scan larger levels) := by
  induction levels with
  | zero => exact refusesMore_scanWith lower (.refl _)
  | succ levels ih => exact refusesMore_scanWith lower (refusesMore_scanArray lower ih)

/-- A lower limit refuses more and says nothing else. -/
theorem find_of_le (buffer : Bytes) :
    find limit buffer = find larger buffer ∨ ∃ why, find limit buffer = .invalid why := by
  unfold find
  rcases refusesMore_scan lower nestingLimit ⟨0, buffer⟩ with same | ⟨why, refused⟩
  · rw [same]
    cases scan larger nestingLimit ⟨0, buffer⟩ with
    | incomplete =>
      by_cases long : limit < buffer.length
      · exact .inr ⟨_, if_pos long⟩
      · exact .inl (by dsimp only; rw [if_neg long, if_neg (by omega)])
    | invalid why => exact .inl rfl
    | complete taken =>
      obtain ⟨content, next⟩ := taken
      by_cases far : limit < next.offset
      · exact .inr ⟨_, if_pos far⟩
      · exact .inl (by dsimp only; rw [if_neg far, if_neg (by omega)])
  · exact .inr ⟨why, by rw [refused]⟩

/-- A frame is found under every higher limit. -/
theorem find_of_limit_le {buffer : Bytes} {frame : Frame}
    (found : find limit buffer = .complete frame) : find larger buffer = .complete frame := by
  rcases find_of_le lower buffer with same | ⟨why, refused⟩
  · rw [← same, found]
  · rw [refused] at found
    simp at found

end Frame

end ClusterProxy
