import ClusterProxy.Proofs.Frame.Extent
import Mathlib.Data.Nat.Find

/-!
# What a growing buffer says

As octets arrive, `Frame.find` is asked about one prefix of the stream after the other. The first
answer that is more than a request for octets is final: a frame stays the same frame, and a refusal
stays one (`Frame.settles_once`). It comes before more octets are held than a frame may have.
-/

namespace ClusterProxy.Frame

variable {limit : Nat} {buffer : Bytes}

theorem find_take_of_le {i j : Nat} {frame : Frame}
    (found : find limit (buffer.take i) = .complete frame) (later : i ≤ j) :
    find limit (buffer.take j) = .complete frame := by
  rw [take_eq_append_drop buffer later]
  exact find_append found _

theorem find_take_invalid_of_le {i j : Nat} {why : FrameFault}
    (refused : find limit (buffer.take i) = .invalid why) (later : i ≤ j) :
    ∃ why, find limit (buffer.take j) = .invalid why := by
  rw [take_eq_append_drop buffer later]
  exact find_append_invalid refused _

/-- A prefix waits for more octets only if every shorter prefix does. -/
theorem find_take_incomplete_of_le {i j : Nat}
    (waits : find limit (buffer.take j) = .incomplete) (earlier : i ≤ j) :
    find limit (buffer.take i) = .incomplete := by
  cases found : find limit (buffer.take i) with
  | incomplete => rfl
  | invalid why =>
    obtain ⟨_, refused⟩ := find_take_invalid_of_le found earlier
    rw [refused] at waits
    simp at waits
  | complete frame =>
    rw [find_take_of_le found earlier] at waits
    simp at waits

/-- No more octets wait for the rest of a frame than a frame may have. -/
theorem le_limit_of_find_take {i : Nat} (waits : find limit (buffer.take i) = .incomplete)
    (inside : i ≤ buffer.length) : i ≤ limit := by
  rw [← List.length_take_of_le inside]
  exact length_le_of_incomplete waits

/-- A frame is found in a prefix only if its own octets are there, and not before. -/
theorem find_take_of_lt_length {i k : Nat} {frame : Frame}
    (found : find limit (buffer.take i) = .complete frame) (short : k < frame.length) :
    find limit (buffer.take k) = .incomplete := by
  have reaches : frame.length ≤ i :=
    Nat.le_trans (length_le_of_find found) (List.length_take_le i buffer)
  have cut := find_take_of_lt found short
  rwa [List.take_take, Nat.min_eq_left (by omega)] at cut

/-- What the prefixes of a buffer say changes at most once.

* A frame that is found in a prefix is found in every longer one, and every prefix shorter than the
  frame waits for more octets.
* A prefix that is refused is refused with any more octets.
* A prefix that waits is not longer than a frame may be.
* So there is a length from which on no prefix waits, while all shorter ones do. -/
theorem settles_once (limit : Nat) (buffer : Bytes) :
    (∀ i frame, find limit (buffer.take i) = .complete frame →
        (∀ j, i ≤ j → find limit (buffer.take j) = .complete frame) ∧
          ∀ k, k < frame.length → find limit (buffer.take k) = .incomplete) ∧
      (∀ i why, find limit (buffer.take i) = .invalid why →
        ∀ j, i ≤ j → ∃ why, find limit (buffer.take j) = .invalid why) ∧
      (∀ i, i ≤ buffer.length → find limit (buffer.take i) = .incomplete → i ≤ limit) ∧
      ∃ first, first ≤ limit + 1 ∧ ∀ i, i ≤ buffer.length →
        (find limit (buffer.take i) = .incomplete ↔ i < first) := by
  refine ⟨fun i frame found => ⟨fun j => find_take_of_le found, fun k =>
      find_take_of_lt_length found⟩, fun i why refused j => find_take_invalid_of_le refused,
    fun i inside waits => le_limit_of_find_take waits inside, ?_⟩
  -- The first length at which the prefix does not wait, or the one behind the whole buffer.
  have ends : ∃ i, buffer.length < i ∨ find limit (buffer.take i) ≠ .incomplete :=
    ⟨buffer.length + 1, .inl (Nat.lt_succ_self _)⟩
  refine ⟨Nat.find ends, ?_, fun i inside => ⟨fun waits => ?_, fun before => ?_⟩⟩
  · by_contra late
    have early := Nat.find_min ends (Nat.lt_of_not_le late)
    simp only [not_or, Nat.not_lt, ne_eq, Decidable.not_not] at early
    have := le_limit_of_find_take early.2 early.1
    omega
  · by_contra settled
    rcases Nat.find_spec ends with past | decided
    · omega
    · exact decided (find_take_incomplete_of_le waits (Nat.le_of_not_lt settled))
  · have early := Nat.find_min ends before
    simp only [not_or, Nat.not_lt, ne_eq, Decidable.not_not] at early
    exact early.2

end ClusterProxy.Frame
