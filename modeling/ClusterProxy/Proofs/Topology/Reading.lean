import ClusterProxy.Proofs.Text.Words
import ClusterProxy.Topology.Reading

/-!
# Redirects are recognized exactly

What an error line says is decided by its first word, and for `MOVED` and `ASK` by what is behind
that word (`Reading.Reads`, `Reading.ofError_eq_iff`): there must be a slot and an address, with any
number of spaces in front of each of them (`Redirect.Names`), and what is behind the address does
not matter. So a redirect is read as the one it was written for, in any of the ways to write it
(`Reading.redirects_recognized`), and as one line of three words above all (`Redirect.line`,
`Reading.ofError_moved`, `Reading.ofError_ask`).

An error line with any other first word is read as no redirect (`Reading.ofError_other`).
-/

namespace ClusterProxy

/-! ## The parts of an error line -/

namespace Reading

/-- What is in front of the first line break. -/
def line (payload : Bytes) : Bytes :=
  payload.takeWhile fun b => b != Bytes.cr && b != Bytes.lf

/-- The first word of an error line. -/
def firstWord (text : Bytes) : Bytes :=
  text.takeWhile fun b => b != Bytes.cr && b != Bytes.lf && b != Bytes.space

/-- What is behind the first word of an error line. -/
def behind (payload : Bytes) : Bytes :=
  (line payload).dropWhile fun b => b != Bytes.space

/-- What may follow a line: nothing, or what begins with a space or with a line break. -/
def Ends (tail : Bytes) : Prop :=
  tail = [] ∨ ∃ b ∈ [Bytes.space, Bytes.cr, Bytes.lf], ∃ rest, tail = b :: rest

theorem takeWhile_firstWord (text : Bytes) :
    (line text).takeWhile (fun b => b != Bytes.space) = firstWord text := by
  rw [line, List.takeWhile_takeWhile, firstWord]
  congr 1
  funext b
  rw [Bool.decide_and, Bool.decide_eq_true, Bool.decide_eq_true, Bool.and_comm]

theorem space_not_mem_firstWord (payload : Bytes) : Bytes.space ∉ firstWord payload := by
  rw [← takeWhile_firstWord]
  exact Bytes.not_mem_takeWhile _ _

theorem firstWord_append_behind (payload : Bytes) :
    firstWord payload ++ behind payload = line payload := by
  rw [← takeWhile_firstWord, behind, List.takeWhile_append_dropWhile]

theorem breaks_behind (payload : Bytes) : Bytes.Breaks (behind payload) :=
  Bytes.breaks_dropWhile _

theorem line_append {front : Bytes} (back : Bytes) (no_return : Bytes.cr ∉ front)
    (no_feed : Bytes.lf ∉ front) : line (front ++ back) = front ++ line back := by
  refine List.takeWhile_append_of_pos fun b member => ?_
  rw [Bool.and_eq_true, bne_iff_ne, bne_iff_ne]
  exact ⟨ne_of_mem_of_not_mem member no_return, ne_of_mem_of_not_mem member no_feed⟩

theorem breaks_line {tail : Bytes} (ends : Ends tail) : Bytes.Breaks (line tail) := by
  rcases ends with rfl | ⟨b, member, rest, rfl⟩
  · exact .inl rfl
  · simp only [List.mem_cons, List.not_mem_nil, or_false] at member
    rcases member with rfl | rfl | rfl
    · exact .inr ⟨line rest, rfl⟩
    · exact .inl rfl
    · exact .inl rfl

end Reading

/-! ## What is behind the first word of a redirect -/

namespace Redirect

/-- A slot and an address stand behind the first word of a line, each behind one or more spaces. -/
def Names (slot : Nat) (address : String) (behind : Bytes) : Prop :=
  ∃ one two number tail, behind = Bytes.spaces (one + 1) ++
      (number ++ (Bytes.spaces (two + 1) ++ (Text.utf8 address ++ tail))) ∧
    number.Writes slot ∧ slot < Slot.count ∧ address ≠ "" ∧ ' ' ∉ address.toList ∧
    Bytes.Breaks tail

variable {slot : Nat} {address : String}

/-- The slot and the address are the first two pieces of what stands behind the word. -/
theorem names_iff {behind : Bytes} (breaks : Bytes.Breaks behind) :
    Names slot address behind ↔ ∃ number words,
      Bytes.tokens behind = number :: Text.utf8 address :: words ∧ number.Writes slot ∧
        slot < Slot.count := by
  constructor
  · rintro ⟨one, two, number, tail, rfl, writes, inside, some_char, no_space, cut⟩
    refine ⟨number, Bytes.tokens tail, ?_, writes, inside⟩
    rw [Bytes.tokens_spaces_append,
      Bytes.tokens_append writes.ne_nil writes.space_not_mem (Bytes.breaks_spaces_append two _),
      Bytes.tokens_spaces_append,
      Bytes.tokens_append (mt Text.utf8_eq_nil_iff.1 some_char)
        (mt Text.space_mem_utf8_iff.1 no_space) cut]
  · rintro ⟨number, words, found, writes, inside⟩
    -- Each piece ends where the next one cannot begin, so there is a space between them.
    obtain ⟨one, rest, rfl, -, -, gap, found⟩ := (Bytes.tokens_eq_cons_iff_of_breaks breaks).1 found
    obtain ⟨two, tail, rfl, some_octet, no_space, cut, -⟩ :=
      (Bytes.tokens_eq_cons_iff_of_breaks gap).1 found
    exact ⟨one, two, number, tail, rfl, writes, inside, mt Text.utf8_eq_nil_iff.2 some_octet,
      mt Text.space_mem_utf8_iff.2 no_space, cut⟩

/-- What is read from a line are its second and its third piece. -/
theorem target?_iff_tokens {line : Bytes} :
    Reading.target? line = some (slot, address) ↔ ∃ code number words,
      Bytes.tokens line = code :: number :: Text.utf8 address :: words ∧ number.Writes slot ∧
        slot < Slot.count := by
  unfold Reading.target?
  split
  · next code number word words found =>
    have numbered := @Text.decimal?_utf8_iff Slot.count slot number
    simp only [Option.bind_eq_some_iff] at numbered
    constructor
    · intro read
      obtain ⟨text, decoded, value, stands, last, named, same⟩ := by
        simpa only [Option.bind_eq_bind, Option.bind_eq_some_iff] using read
      obtain ⟨rfl, rfl⟩ := Prod.mk.inj (Option.some.inj same)
      obtain ⟨writes, inside⟩ := numbered.1 ⟨text, decoded, stands⟩
      rw [Text.ofUtf8?_eq_some_iff.1 named] at found
      exact ⟨code, number, words, found, writes, inside⟩
    · rintro ⟨_, _, _, same, writes, inside⟩
      obtain ⟨rfl, rfl, rfl, rfl⟩ := by simpa only [found, List.cons.injEq] using same
      obtain ⟨text, decoded, stands⟩ := numbered.2 ⟨writes, inside⟩
      rw [decoded, Option.bind_eq_bind, Option.bind_some, stands, Text.ofUtf8?_utf8]
      rfl
  · next short =>
    constructor
    · exact fun read => nomatch read
    · rintro ⟨code, number, words, found, -⟩
      exact absurd found (short _ _ _ _)

/-- What is read from the line of a redirect stands behind its first word. -/
theorem target?_iff_names {payload : Bytes} (named : Reading.firstWord payload ≠ []) :
    Reading.target? (Reading.line payload) = some (slot, address) ↔
      Names slot address (Reading.behind payload) := by
  have breaks := Reading.breaks_behind payload
  rw [names_iff breaks, target?_iff_tokens, ← Reading.firstWord_append_behind,
    Bytes.tokens_append named (Reading.space_not_mem_firstWord payload) breaks]
  simp only [List.cons.injEq, and_assoc, exists_and_left, exists_eq_left']

end Redirect

/-! ## Reading an error line -/

namespace Reading

/-- What an error line says, by its first word and what stands behind that word. -/
inductive Reads (payload : Bytes) : Except Fault Reading → Prop
  | moved {slot : Nat} {address : String} (word : firstWord payload = Text.utf8 "MOVED")
      (names : Redirect.Names slot address (behind payload)) :
      Reads payload (.ok (moved slot address))
  | ask {slot : Nat} {address : String} (word : firstWord payload = Text.utf8 "ASK")
      (names : Redirect.Names slot address (behind payload)) :
      Reads payload (.ok (ask slot address))
  | malformed (word : firstWord payload ∈ [Text.utf8 "MOVED", Text.utf8 "ASK"])
      (unnamed : ∀ slot address, ¬ Redirect.Names slot address (behind payload)) :
      Reads payload (.error (.malformedRedirect (Text.ofUtf8Lossy (line payload))))
  | tryAgain (word : firstWord payload = Text.utf8 "TRYAGAIN") : Reads payload (.ok tryAgain)
  | noScript (word : firstWord payload = Text.utf8 "NOSCRIPT") : Reads payload (.ok noScript)
  | failure (word : firstWord payload ∉
      [Text.utf8 "MOVED", Text.utf8 "ASK", Text.utf8 "TRYAGAIN", Text.utf8 "NOSCRIPT"]) :
      Reads payload (.ok (failure (ErrorCode.ofWord (firstWord payload))))

theorem ofError_eq (payload : Bytes) : ofError payload =
    let redirect (reading : Nat → String → Reading) : Except Fault Reading :=
      match target? (line payload) with
      | some (slot, address) => .ok (reading slot address)
      | none => .error (.malformedRedirect (Text.ofUtf8Lossy (line payload)))
    if firstWord payload = Text.utf8 "MOVED" then redirect moved
    else if firstWord payload = Text.utf8 "ASK" then redirect ask
    else if firstWord payload = Text.utf8 "TRYAGAIN" then .ok tryAgain
    else if firstWord payload = Text.utf8 "NOSCRIPT" then .ok noScript
    else .ok (failure (ErrorCode.ofWord (firstWord payload))) := by
  rw [← takeWhile_firstWord]
  rfl

theorem target?_eq_none_iff {payload : Bytes} (named : firstWord payload ≠ []) :
    target? (line payload) = none ↔
      ∀ slot address, ¬ Redirect.Names slot address (behind payload) := by
  simp only [Option.eq_none_iff_forall_ne_some, Prod.forall, ne_eq,
    Redirect.target?_iff_names named]

theorem reads_ofError (payload : Bytes) : Reads payload (ofError payload) := by
  rw [ofError_eq]
  dsimp only
  -- The words are tried in turn, and behind the first two a slot and an address are looked for.
  split
  · next word =>
    have named : firstWord payload ≠ [] := word ▸ Text.isWord_moved.utf8_ne_nil
    split
    · next read => exact .moved word ((Redirect.target?_iff_names named).1 read)
    · next unread => exact .malformed (by simp [word]) ((target?_eq_none_iff named).1 unread)
  · split
    · next word =>
      have named : firstWord payload ≠ [] := word ▸ Text.isWord_ask.utf8_ne_nil
      split
      · next read => exact .ask word ((Redirect.target?_iff_names named).1 read)
      · next unread => exact .malformed (by simp [word]) ((target?_eq_none_iff named).1 unread)
    · split
      · next word => exact .tryAgain word
      · split
        · next word => exact .noScript word
        · next moved ask tryAgain noScript => exact .failure (by simp [*])

/-- The words that an error line is compared with are different ones. -/
theorem words_ne : (Text.utf8 "ASK" ≠ Text.utf8 "MOVED") ∧
    (Text.utf8 "TRYAGAIN" ≠ Text.utf8 "MOVED" ∧ Text.utf8 "TRYAGAIN" ≠ Text.utf8 "ASK") ∧
    Text.utf8 "NOSCRIPT" ≠ Text.utf8 "MOVED" ∧ Text.utf8 "NOSCRIPT" ≠ Text.utf8 "ASK" ∧
      Text.utf8 "NOSCRIPT" ≠ Text.utf8 "TRYAGAIN" := by decide

theorem Reads.ofError_eq {payload : Bytes} {outcome : Except Fault Reading}
    (reads : Reads payload outcome) : ofError payload = outcome := by
  obtain ⟨ask, tryAgain, noScript⟩ := words_ne
  rw [Reading.ofError_eq]
  dsimp only
  cases reads with
  | moved word names =>
    have named : firstWord payload ≠ [] := word ▸ Text.isWord_moved.utf8_ne_nil
    rw [if_pos word, (Redirect.target?_iff_names named).2 names]
  | ask word names =>
    have named : firstWord payload ≠ [] := word ▸ Text.isWord_ask.utf8_ne_nil
    rw [if_neg (by rwa [word]), if_pos word, (Redirect.target?_iff_names named).2 names]
  | malformed word unnamed =>
    have named : firstWord payload ≠ [] := by
      intro missing
      rw [missing] at word
      exact absurd word (by decide)
    rw [(target?_eq_none_iff named).2 unnamed]
    simp only [List.mem_cons, List.not_mem_nil, or_false] at word
    rcases word with word | word
    · rw [if_pos word]
    · rw [if_neg (by rwa [word]), if_pos word]
  | tryAgain word => simp only [word, tryAgain, if_false, if_true]
  | noScript word => simp only [word, noScript, if_false, if_true]
  | failure word =>
    simp only [List.mem_cons, List.not_mem_nil, or_false, not_or] at word
    obtain ⟨moved, ask, tryAgain, noScript⟩ := word
    rw [if_neg moved, if_neg ask, if_neg tryAgain, if_neg noScript]

/-- The reading of an error line is the one that its words ask for, and there is no other one. -/
theorem ofError_eq_iff {payload : Bytes} {outcome : Except Fault Reading} :
    ofError payload = outcome ↔ Reads payload outcome := by
  refine ⟨?_, Reads.ofError_eq⟩
  rintro rfl
  exact reads_ofError payload

end Reading

/-! ## Writing a redirect -/

namespace Redirect

/-- The error line of a redirect: its first word, the slot, and the address. -/
def line (code : String) (slot : Nat) (address : String) : Bytes :=
  Text.utf8 code ++ Bytes.space :: (Text.utf8 (toString slot) ++ Bytes.space :: Text.utf8 address)

/-- A redirect in any of the ways to write it: with more spaces in front of the slot and of the
address, and with something behind the address. -/
def written (code : String) (one slot two : Nat) (address : String) (tail : Bytes) : Bytes :=
  Text.utf8 code ++ (Bytes.spaces (one + 1) ++ (Text.utf8 (toString slot) ++
    (Bytes.spaces (two + 1) ++ (Text.utf8 address ++ tail))))

theorem written_line (code : String) (slot : Nat) (address : String) :
    written code 0 slot 0 address [] = line code slot address := by
  rw [written, List.append_nil]
  rfl

theorem written_append (code : String) (one slot two : Nat) (address : String) (tail : Bytes) :
    written code one slot two address tail = written code one slot two address [] ++ tail := by
  simp [written]

theorem not_mem_written {code address : String} {slot : Nat} {b : UInt8} (one two : Nat)
    (mark : b ≠ Bytes.space) (first : b ∉ Text.utf8 code) (second : b ∉ Text.utf8 (toString slot))
    (third : b ∉ Text.utf8 address) : b ∉ written code one slot two address [] := by
  simp only [written, Bytes.spaces, List.mem_append, List.mem_replicate, mark, and_false, first,
    second, third, List.not_mem_nil, or_self, not_false_eq_true]

section

variable {code address : String} (named : Text.IsWord code) (slot : Nat)
  (whole : Text.IsWord address)
include named whole

theorem return_not_mem : Bytes.cr ∉ line code slot address := by
  rw [← written_line]
  exact not_mem_written 0 0 (by decide) named.return_not_mem
    (Text.IsWord.toString_nat slot).return_not_mem whole.return_not_mem

/-- A redirect goes up to the first line break behind its address. -/
theorem line_written (one two : Nat) (tail : Bytes) :
    Reading.line (written code one slot two address tail) =
      written code one slot two address (Reading.line tail) := by
  have numbered := Text.IsWord.toString_nat slot
  rw [written_append, Reading.line_append tail, ← written_append]
  · exact not_mem_written one two (by decide) named.return_not_mem numbered.return_not_mem
      whole.return_not_mem
  · exact not_mem_written one two (by decide) named.feed_not_mem numbered.feed_not_mem
      whole.feed_not_mem

theorem firstWord_written (one two : Nat) (tail : Bytes) :
    Reading.firstWord (written code one slot two address tail) = Text.utf8 code := by
  rw [← Reading.takeWhile_firstWord, line_written named slot whole]
  exact Bytes.takeWhile_append_of_not_mem _ named.space_not_mem

/-- What stands behind the first word names the slot and the address. -/
theorem names_written (one two : Nat) {tail : Bytes} (inside : slot < Slot.count)
    (ends : Reading.Ends tail) :
    Names slot address (Reading.behind (written code one slot two address tail)) := by
  refine ⟨one, two, Text.utf8 (toString slot), Reading.line tail, ?_, Bytes.writes_toString slot,
    inside, whole.some_char, whole.no_space, Reading.breaks_line ends⟩
  rw [Reading.behind, line_written named slot whole]
  exact Bytes.dropWhile_append_of_not_mem _ named.space_not_mem

end

end Redirect

namespace Reading

variable {slot : Nat} {address : String} {tail : Bytes}

theorem ofError_moved_written (one two : Nat) (inside : slot < Slot.count)
    (whole : Text.IsWord address) (ends : Ends tail) :
    ofError (Redirect.written "MOVED" one slot two address tail) = .ok (moved slot address) :=
  have named := Text.isWord_moved
  (Reads.moved (Redirect.firstWord_written named slot whole one two tail)
    (Redirect.names_written named slot whole one two inside ends)).ofError_eq

theorem ofError_ask_written (one two : Nat) (inside : slot < Slot.count)
    (whole : Text.IsWord address) (ends : Ends tail) :
    ofError (Redirect.written "ASK" one slot two address tail) = .ok (ask slot address) :=
  have named := Text.isWord_ask
  (Reads.ask (Redirect.firstWord_written named slot whole one two tail)
    (Redirect.names_written named slot whole one two inside ends)).ofError_eq

theorem ofError_moved (inside : slot < Slot.count) (whole : Text.IsWord address) :
    ofError (Redirect.line "MOVED" slot address) = .ok (moved slot address) := by
  rw [← Redirect.written_line]
  exact ofError_moved_written 0 0 inside whole (.inl rfl)

theorem ofError_ask (inside : slot < Slot.count) (whole : Text.IsWord address) :
    ofError (Redirect.line "ASK" slot address) = .ok (ask slot address) := by
  rw [← Redirect.written_line]
  exact ofError_ask_written 0 0 inside whole (.inl rfl)

/-- An error line is read as what it says: as a redirect exactly if its first word is one of `MOVED`
and `ASK` and a slot and an address stand behind it, as a malformed one exactly if there is none,
and as an answer of the node exactly if its first word is none of the four that mean something else.

A redirect that is written, with any number of spaces between its words and with any text behind a
space or a line break, is read as the one it was written for. -/
theorem redirects_recognized :
    (∀ payload outcome, ofError payload = outcome ↔ Reads payload outcome) ∧
    ∀ slot < Slot.count, ∀ address, Text.IsWord address → ∀ one two tail, Ends tail →
      ofError (Redirect.written "MOVED" one slot two address tail) = .ok (moved slot address) ∧
      ofError (Redirect.written "ASK" one slot two address tail) = .ok (ask slot address) := by
  constructor
  · intro payload outcome
    exact ofError_eq_iff
  · intro slot inside address whole one two tail ends
    exact ⟨ofError_moved_written one two inside whole ends,
      ofError_ask_written one two inside whole ends⟩

/-- A redirect with more spaces than it needs, and with a second line behind a remark. -/
theorem redirects_recognized_spaced :
    Redirect.written "MOVED" 1 3999 2 "127.0.0.1:6381" (Text.utf8 " now\r\nASK 1 b") =
      Text.utf8 "MOVED  3999   127.0.0.1:6381 now\r\nASK 1 b" ∧
    ofError (Text.utf8 "MOVED  3999   127.0.0.1:6381 now\r\nASK 1 b") =
      .ok (moved 3999 "127.0.0.1:6381") := by
  have same : Redirect.written "MOVED" 1 3999 2 "127.0.0.1:6381" (Text.utf8 " now\r\nASK 1 b") =
      Text.utf8 "MOVED  3999   127.0.0.1:6381 now\r\nASK 1 b" := by decide
  have ends : Ends (Text.utf8 " now\r\nASK 1 b") := .inr ⟨Bytes.space, by decide, _, rfl⟩
  have whole : Text.IsWord "127.0.0.1:6381" := ⟨by decide, by decide, by decide, by decide⟩
  refine ⟨same, ?_⟩
  rw [← same]
  exact (redirects_recognized.2 3999 (by decide) _ whole 1 2 _ ends).1

example : ofError (Text.utf8 "MOVEDX 1 a") = .ok (failure .other) ∧
    ofError (Text.utf8 "moved 1 a") = .ok (failure .other) ∧
    ofError (Text.utf8 " MOVED 1 a") = .ok (failure .other) := ⟨rfl, rfl, rfl⟩

/-- A reply that cannot be read is a malformed redirect. -/
theorem exists_text_of_ofFrame {frame : Frame} {buffer : Bytes} {fault : Fault}
    (refused : ofFrame frame buffer = .error fault) : ∃ text, fault = .malformedRedirect text := by
  unfold ofFrame at refused
  split at refused
  · cases ofError_eq_iff.1 refused with
    | malformed word unnamed => exact ⟨_, rfl⟩
  · simp at refused

/-! ## Replies that ask for another try -/

/-- An error line with a first word that asks for no other try is no such reading. -/
theorem ofError_other {text : Bytes}
    (other : firstWord text ∉ [Text.utf8 "MOVED", Text.utf8 "ASK", Text.utf8 "TRYAGAIN"]) :
    ∃ reading, ofError text = .ok reading ∧ reading.isRetry = false := by
  by_cases script : firstWord text = Text.utf8 "NOSCRIPT"
  · exact ⟨_, (Reads.noScript script).ofError_eq, rfl⟩
  · refine ⟨_, (Reads.failure ?_).ofError_eq, rfl⟩
    simp only [List.mem_cons, List.not_mem_nil, or_false, not_or] at other ⊢
    exact ⟨other.1, other.2.1, other.2.2, script⟩

end Reading

end ClusterProxy
