import ClusterProxy.Proofs.Frame.Extent
import Mathlib.Data.List.Induction

/-!
# Frames from a stream, in whatever pieces it arrives

`Decoder.drain` asks a decoder for frames until it gives none. An `Intake` is a decoder in use:
octets arrive and frames are asked for in any order. `Intake.arrival_irrelevant` says that the order
does not matter: the frames are those of the stream as a whole, and so is what is left of it.

The invariant is `Decoder.Takes`: the frames taken so far are frames that a decoder with all octets
so far gives as well, and it is left with the same octets. More octets keep it
(`Decoder.Takes.append`), since a frame at the front stays there when octets follow.
-/

namespace ClusterProxy

namespace Decoder

/-! ## One frame -/

/-- A frame is given exactly if one is found at the front. It is cut off the buffer. -/
theorem next_eq_complete_iff {decoder rest : Decoder} {decoded : Decoded} :
    decoder.next = (.complete decoded, rest) ↔
      Frame.find decoder.limit decoder.buffer = .complete decoded.frame ∧
      decoded.bytes = decoder.buffer.take decoded.frame.length ∧
      rest = ⟨decoder.limit, decoder.buffer.drop decoded.frame.length⟩ := by
  obtain ⟨bytes, frame⟩ := decoded
  unfold next
  cases Frame.find decoder.limit decoder.buffer with
  | incomplete => simp
  | invalid why => simp
  | complete found =>
    simp only [Prod.mk.injEq, Verdict.complete.injEq, Decoded.mk.injEq]
    constructor
    · rintro ⟨⟨rfl, rfl⟩, rfl⟩
      exact ⟨rfl, rfl, rfl⟩
    · rintro ⟨rfl, rfl, rfl⟩
      exact ⟨⟨rfl, rfl⟩, rfl⟩

/-- Nothing is taken from the buffer if there is no frame. -/
theorem next_eq_self {decoder : Decoder}
    (none_given : ∀ decoded, decoder.next.1 ≠ .complete decoded) : decoder.next.2 = decoder := by
  unfold next at none_given ⊢
  cases found : Frame.find decoder.limit decoder.buffer with
  | incomplete => rfl
  | invalid why => rfl
  | complete frame => simp [found] at none_given

/-- A frame that is given is given as well if more octets are behind it. -/
theorem next_append {decoder rest : Decoder} {decoded : Decoded}
    (given : decoder.next = (.complete decoded, rest)) (more : Bytes) :
    (decoder.append more).next = (.complete decoded, rest.append more) := by
  obtain ⟨found, bytes, rfl⟩ := next_eq_complete_iff.1 given
  have room := Frame.length_le_of_find found
  refine next_eq_complete_iff.2 ⟨Frame.find_append found more, ?_, ?_⟩
  · rw [bytes, append, List.take_append_of_le_length room]
  · rw [append, append, List.drop_append_of_le_length room]

/-- A decoder that gives up at the front does so as well if more octets are behind. -/
theorem next_append_invalid {decoder : Decoder} {why : FrameFault}
    (refused : decoder.next = (.invalid why, decoder)) (more : Bytes) :
    ∃ why, (decoder.append more).next = (.invalid why, decoder.append more) := by
  have found : Frame.find decoder.limit decoder.buffer = .invalid why := by
    unfold next at refused
    split at refused <;> simp_all
  obtain ⟨why, refused⟩ := Frame.find_append_invalid found more
  refine ⟨why, ?_⟩
  unfold next append
  rw [refused]

theorem bytes_append_buffer {decoder rest : Decoder} {decoded : Decoded}
    (given : decoder.next = (.complete decoded, rest)) :
    decoded.bytes ++ rest.buffer = decoder.buffer := by
  obtain ⟨_, bytes, rfl⟩ := next_eq_complete_iff.1 given
  rw [bytes, List.take_append_drop]

/-- Each frame makes the buffer shorter. -/
theorem length_buffer_lt {decoder rest : Decoder} {decoded : Decoded}
    (given : decoder.next = (.complete decoded, rest)) :
    rest.buffer.length < decoder.buffer.length := by
  obtain ⟨found, _, rfl⟩ := next_eq_complete_iff.1 given
  have some_octet := Frame.length_pos_of_find found
  have room := Frame.length_le_of_find found
  rw [List.length_drop]
  omega

/-- A decoder that waits for more holds no more than its limit. -/
theorem length_le_of_incomplete {decoder : Decoder} (missing : decoder.next.1 = .incomplete) :
    decoder.buffer.length ≤ decoder.limit := by
  unfold next at missing
  split at missing
  · next waits => exact Frame.length_le_of_incomplete waits
  · simp at missing
  · simp at missing

/-! ## Frames until there are no more -/

/-- Why a decoder gives no frame: more octets are needed, or no frame starts with those at hand. -/
inductive Ending where
  | waiting
  | refused
deriving DecidableEq, Repr

/-- What comes of asking for frames until none is given: the frames, why there are no more, and the
decoder that is left. -/
structure Drained where
  frames : List Decoded
  ending : Ending
  left : Decoder
deriving DecidableEq, Repr

/-- Puts frames that were taken before in front. -/
def Drained.behind (drained : Drained) (taken : List Decoded) : Drained :=
  { drained with frames := taken ++ drained.frames }

/-- Asks for frames until none is given. -/
def drain (decoder : Decoder) : Drained :=
  match _given : decoder.next with
  | (.incomplete, left) => ⟨[], .waiting, left⟩
  | (.invalid _, left) => ⟨[], .refused, left⟩
  | (.complete decoded, rest) => rest.drain.behind [decoded]
termination_by decoder.buffer.length
decreasing_by exact length_buffer_lt _given

theorem drain_of_complete {decoder rest : Decoder} {decoded : Decoded}
    (given : decoder.next = (.complete decoded, rest)) :
    decoder.drain = rest.drain.behind [decoded] := by
  rw [drain]
  split <;> simp_all

/-- A decoder gives these frames, one after the other, and is left as another decoder. -/
inductive Takes : Decoder → List Decoded → Decoder → Prop where
  | nothing (decoder : Decoder) : Takes decoder [] decoder
  | frame {decoder middle rest : Decoder} {decoded : Decoded} {frames : List Decoded} :
      decoder.next = (.complete decoded, middle) → Takes middle frames rest →
      Takes decoder (decoded :: frames) rest

namespace Takes

variable {decoder middle rest : Decoder} {frames others : List Decoded}

theorem append (takes : Takes decoder frames rest) (more : Bytes) :
    Takes (decoder.append more) frames (rest.append more) := by
  induction takes with
  | nothing decoder => exact .nothing _
  | frame given _ ih => exact .frame (next_append given more) ih

theorem trans (takes : Takes decoder frames middle) (takesOn : Takes middle others rest) :
    Takes decoder (frames ++ others) rest := by
  induction takes with
  | nothing decoder => exact takesOn
  | frame given _ ih => exact .frame given (ih takesOn)

/-- The frames are the front of the buffer, and the decoder is left with the rest. -/
theorem bytes_append (takes : Takes decoder frames rest) :
    (frames.map Decoded.bytes).flatten ++ rest.buffer = decoder.buffer := by
  induction takes with
  | nothing decoder => rfl
  | frame given _ ih =>
    rw [List.map_cons, List.flatten_cons, List.append_assoc, ih, bytes_append_buffer given]

theorem cons_iff {decoded : Decoded} : Takes decoder (decoded :: frames) rest ↔
    ∃ middle, decoder.next = (.complete decoded, middle) ∧ Takes middle frames rest := by
  refine ⟨fun takes => ?_, fun ⟨_, given, onward⟩ => .frame given onward⟩
  cases takes with
  | frame given onward => exact ⟨_, given, onward⟩

theorem singleton_iff {decoded : Decoded} :
    Takes decoder [decoded] rest ↔ decoder.next = (.complete decoded, rest) := by
  refine ⟨fun takes => ?_, fun given => .frame given (.nothing rest)⟩
  obtain ⟨middle, given, onward⟩ := cons_iff.1 takes
  cases onward
  exact given

theorem length_buffer_le (takes : Takes decoder frames rest) :
    rest.buffer.length ≤ decoder.buffer.length := by
  rw [← takes.bytes_append, List.length_append]
  omega

/-- What a decoder is left as says which frames it gave. -/
theorem unique (takes : Takes decoder frames rest) (again : Takes decoder others rest) :
    frames = others := by
  induction takes generalizing others with
  | nothing decoder =>
    cases again with
    | nothing => rfl
    | frame given onward =>
      exact absurd onward.length_buffer_le (Nat.not_le.2 (length_buffer_lt given))
  | frame given onward ih =>
    cases again with
    | nothing => exact absurd onward.length_buffer_le (Nat.not_le.2 (length_buffer_lt given))
    | frame other onwards =>
      rw [given] at other
      cases other
      rw [ih onwards]

theorem drain_eq (takes : Takes decoder frames rest) :
    decoder.drain = rest.drain.behind frames := by
  induction takes with
  | nothing decoder => rfl
  | frame given _ ih => rw [drain_of_complete given, ih]; rfl

end Takes

end Decoder

/-! ## A decoder in use -/

/-- One use of a decoder: octets arrive, or a frame is asked for. -/
inductive Use where
  | arrive (data : Bytes)
  | ask
deriving DecidableEq, Repr

/-- The octets that arrive with a use. -/
def Use.data : Use → Bytes
  | arrive data => data
  | ask => []

/-- A decoder in use, and the frames it gave so far. -/
structure Intake where
  taken : List Decoded
  decoder : Decoder
deriving DecidableEq, Repr

namespace Intake

/-- A new decoder. -/
def fresh (limit : Nat) : Intake := ⟨[], .empty limit⟩

/-- Takes the frame that the decoder gives, if it gives one. -/
def ask (intake : Intake) : Intake :=
  match intake.decoder.next with
  | (.complete decoded, rest) => ⟨intake.taken ++ [decoded], rest⟩
  | (_, rest) => { intake with decoder := rest }

/-- Makes one use of the decoder. -/
def use (intake : Intake) : Use → Intake
  | .arrive data => { intake with decoder := intake.decoder.append data }
  | .ask => intake.ask

/-- Uses a new decoder in order. -/
def run (limit : Nat) (uses : List Use) : Intake := uses.foldl use (fresh limit)

/-- All octets that arrive in the course of uses. -/
def arrived (uses : List Use) : Bytes := uses.flatMap Use.data

/-- Asks for frames until none is given. -/
def finish (intake : Intake) : Decoder.Drained := intake.decoder.drain.behind intake.taken

/-- The stream as a whole is taken apart. -/
def whole (limit : Nat) (stream : Bytes) : Decoder.Drained :=
  ((Decoder.empty limit).append stream).drain

theorem run_concat (limit : Nat) (uses : List Use) (next : Use) :
    run limit (uses ++ [next]) = (run limit uses).use next := by
  rw [run, List.foldl_append]
  rfl

theorem arrived_append (uses others : List Use) :
    arrived (uses ++ others) = arrived uses ++ arrived others := List.flatMap_append

/-- Asking takes at most one frame. -/
theorem takes_ask (intake : Intake) :
    ∃ frames, intake.ask.taken = intake.taken ++ frames ∧
      Decoder.Takes intake.decoder frames intake.ask.decoder := by
  unfold ask
  split
  · next decoded rest given => exact ⟨[decoded], rfl, .frame given (.nothing rest)⟩
  · next verdict rest other given =>
    have same : rest = intake.decoder := by
      have kept : intake.decoder.next.2 = intake.decoder :=
        Decoder.next_eq_self fun decoded complete => other decoded (by rw [← complete, given])
      rw [given] at kept
      exact kept
    exact ⟨[], by simp, by rw [same]; exact .nothing _⟩

/-- The frames taken so far are those that a decoder with all octets so far gives first. -/
theorem takes_run (limit : Nat) (uses : List Use) :
    Decoder.Takes ((Decoder.empty limit).append (arrived uses)) (run limit uses).taken
      (run limit uses).decoder := by
  induction uses using List.reverseRecOn with
  | nil => exact .nothing _
  | append_singleton uses next ih =>
    rw [run_concat, arrived_append]
    cases next with
    | arrive data => simpa [use, Decoder.append, arrived, Use.data] using ih.append data
    | ask =>
      obtain ⟨frames, taken, takes⟩ := takes_ask (run limit uses)
      have on := ih.trans takes
      rw [← taken] at on
      simpa [use, arrived, Use.data] using on

theorem ask_eq_self {intake : Intake}
    (none_given : ∀ decoded, intake.decoder.next.1 ≠ .complete decoded) : intake.ask = intake := by
  have kept := Decoder.next_eq_self none_given
  unfold ask
  split
  · next decoded rest given => exact absurd (by rw [given]) (none_given decoded)
  · next verdict rest other given =>
    rw [given] at kept
    rw [show rest = intake.decoder from kept]

/-- Frames do not depend on how their octets arrive. At every point of every order of arrivals and
requests for frames, the frames taken so far and the buffer are the octets that have arrived, a
request that gives no frame changes nothing, and the frames taken so far are the first ones of the
whole stream. Once frames are asked for until there are no more, they are the frames of the whole
stream, with the same end and the same octets left over. -/
theorem arrival_irrelevant (limit : Nat) (uses : List Use) :
    (∀ n,
      let intake := run limit (uses.take n)
      (intake.taken.map Decoded.bytes).flatten ++ intake.decoder.buffer =
          arrived (uses.take n) ∧
        ((∀ decoded, intake.decoder.next.1 ≠ .complete decoded) →
          intake.use .ask = intake) ∧
        intake.taken <+: (whole limit (arrived uses)).frames) ∧
      (run limit uses).finish = whole limit (arrived uses) := by
  refine ⟨fun n => ⟨?_, ask_eq_self, ?_⟩, (takes_run limit uses).drain_eq.symm⟩
  · exact (takes_run limit (uses.take n)).bytes_append
  · -- The decoder that was used so far is the whole one but for the octets that are still to come.
    have later : arrived uses = arrived (uses.take n) ++ arrived (uses.drop n) := by
      rw [← arrived_append, List.take_append_drop]
    have takes := (takes_run limit (uses.take n)).append (arrived (uses.drop n))
    rw [whole, later]
    have drained := takes.drain_eq
    simp only [Decoder.append, Decoder.empty, List.nil_append] at drained ⊢
    rw [drained]
    exact List.prefix_append _ _

end Intake

end ClusterProxy
