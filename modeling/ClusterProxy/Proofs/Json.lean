import ClusterProxy.Json.Reader
import ClusterProxy.Json.Writer
import ClusterProxy.Proofs.Ipv6

/-!
# What is written is read back

`Json.Reads` says that what is written is read as a certain value wherever a comma, a closing
bracket or the end of the text stands behind it. Numbers and texts are (`reads_writeNatural`,
`reads_writeText`), and so are arrays and objects of values that are (`reads_writeArray`,
`reads_writeObject`). Fuel is enough as soon as it exceeds the length of what is written, so a whole
text is read with the fuel that the reader starts with (`Json.Reads.read?`).
-/

namespace ClusterProxy.Json

/-! ## Texts -/

/-- The piece that a character is read as after it was written. A control character without a letter
of its own is written as a unit. -/
def pieceOf (c : Char) : Piece :=
  if escapeLetter? c = none ∧ c.toNat < 0x20 then .unit c.toNat else .char c

theorem escaped?_of_escapeLetter? {c letter : Char} (escapes : escapeLetter? c = some letter) :
    escaped? letter = some c ∧ letter ≠ 'u' := by
  unfold escapeLetter? at escapes
  split at escapes
  all_goals first
    | exact Option.some.inj escapes ▸ ⟨rfl, by decide⟩
    | simp at escapes

theorem ne_of_escapeLetter?_eq_none {c : Char} (plain : escapeLetter? c = none) :
    c ≠ '"' ∧ c ≠ '\\' := by
  constructor
  · rintro rfl
    simp [escapeLetter?] at plain
  · rintro rfl
    simp [escapeLetter?] at plain

theorem unit?_control {n : Nat} (small : n < 32) :
    unit? '0' '0' (n / 16).digitChar (n % 16).digitChar = some n := by
  have zero : Text.hexDigit? '0' = some 0 := by decide
  rw [unit?, zero, Text.hexDigit?_digitChar (by omega), Text.hexDigit?_digitChar (by omega)]
  simp only [Option.bind_eq_bind, Option.bind_some, Option.pure_def, Option.some.injEq]
  omega

theorem readText_writeChar (seen : List Piece) (c : Char) (rest : List Char) :
    readText seen (writeChar c ++ rest) = readText (pieceOf c :: seen) rest := by
  cases escapes : escapeLetter? c with
  | some letter =>
    obtain ⟨stands, other⟩ := escaped?_of_escapeLetter? escapes
    have piece : pieceOf c = .char c := if_neg (by simp [escapes])
    rw [writeChar, escapes, piece]
    dsimp only [List.cons_append, List.nil_append]
    rw [readText, stands, Option.bind_some]
    exact fun a b c d rest => by simp [other]
  | none =>
    by_cases control : c.toNat < 0x20
    · have piece : pieceOf c = .unit c.toNat := if_pos ⟨escapes, control⟩
      rw [writeChar, escapes, piece]
      dsimp only
      rw [if_pos control]
      dsimp only [List.cons_append, List.nil_append]
      rw [readText, unit?_control control, Option.bind_some]
    · have piece : pieceOf c = .char c := if_neg fun both => control both.2
      obtain ⟨quote, slash⟩ := ne_of_escapeLetter?_eq_none escapes
      rw [writeChar, escapes, piece]
      dsimp only
      rw [if_neg control, List.singleton_append, readText]
      · simp [control, slash]
      all_goals simp [quote, slash]

/-- A written text is read up to its closing quote. -/
theorem readText_flatMap (seen : List Piece) (text rest : List Char) :
    readText seen (text.flatMap writeChar ++ '"' :: rest) =
      some (seen.reverse ++ text.map pieceOf, rest) := by
  induction text generalizing seen with
  | nil => simp [readText]
  | cons c text ih =>
    rw [List.flatMap_cons, List.append_assoc, readText_writeChar, ih]
    simp

theorem text?_unit {n : Nat} (small : n < 32) (rest : List Piece) :
    text? (.unit n :: rest) = (text? rest).map (Char.ofNat n :: ·) := by
  have high : isHighSurrogate n = false := by simp [isHighSurrogate]; omega
  have low : isLowSurrogate n = false := by simp [isLowSurrogate]; omega
  cases rest with
  | nil => simp [text?, high, low]
  | cons piece rest => cases piece <;> simp [text?, high, low]

/-- The pieces of a written text make up the text again. -/
theorem text?_map_pieceOf (text : List Char) : text? (text.map pieceOf) = some text := by
  induction text with
  | nil => rfl
  | cons c text ih =>
    rw [List.map_cons]
    by_cases control : escapeLetter? c = none ∧ c.toNat < 0x20
    · rw [pieceOf, if_pos control, text?_unit control.2, ih, Option.map_some, Char.ofNat_toNat]
    · rw [pieceOf, if_neg control, text?, ih, Option.map_some]

/-! ## Numbers -/

/-- A text that can stand behind a value in an array or in an object. -/
def Closing (rest : List Char) : Prop :=
  ∀ c, rest.head? = some c → c = ',' ∨ c = ']' ∨ c = '\x7d'

theorem writeNatural_eq (n : Nat) : writeNatural n = (toString n).toList := by
  rw [Nat.toString_eq_ofList_toDigits, String.toList_ofList]
  rfl

theorem isDigit_of_mem_writeNatural {n : Nat} {c : Char} (member : c ∈ writeNatural n) :
    c.isDigit :=
  Text.isDigit_of_mem_toString c (writeNatural_eq n ▸ member)

/-- A number is written with one digit at least. -/
theorem exists_cons_writeNatural (n : Nat) :
    ∃ first digits, writeNatural n = first :: digits ∧ first.isDigit := by
  have some_digit : writeNatural n ≠ [] := writeNatural_eq n ▸ Text.toList_toString_ne_nil n
  obtain ⟨first, digits, same⟩ := List.exists_cons_of_ne_nil some_digit
  exact ⟨first, digits, same, isDigit_of_mem_writeNatural (same ▸ List.mem_cons_self)⟩

section

variable {rest : List Char} (closing : Closing rest)
include closing

theorem Closing.takeWhile_isDigit : rest.takeWhile Char.isDigit = [] := by
  cases rest with
  | nil => rfl
  | cons c rest =>
    rcases closing c rfl with rfl | rfl | rfl <;> rfl

theorem Closing.dropWhile_isDigit : rest.dropWhile Char.isDigit = rest := by
  cases rest with
  | nil => rfl
  | cons c rest =>
    rcases closing c rfl with rfl | rfl | rfl <;> rfl

theorem Closing.readFraction : readFraction rest = some ([], rest) := by
  cases rest with
  | nil => rfl
  | cons c rest =>
    rcases closing c rfl with rfl | rfl | rfl <;> rfl

theorem Closing.readExponent : readExponent rest = some ([], rest) := by
  cases rest with
  | nil => rfl
  | cons c rest =>
    rcases closing c rfl with rfl | rfl | rfl <;> rfl

theorem readDigits_writeNatural (n : Nat) :
    readDigits (writeNatural n ++ rest) = some (writeNatural n, rest) := by
  obtain ⟨first, digits, same, _⟩ := exists_cons_writeNatural n
  unfold readDigits
  rw [List.takeWhile_append_of_pos fun _ => isDigit_of_mem_writeNatural,
    List.dropWhile_append_of_pos fun _ => isDigit_of_mem_writeNatural,
    closing.takeWhile_isDigit, closing.dropWhile_isDigit, List.append_nil, same]

theorem readWhole_writeNatural (n : Nat) :
    readWhole (writeNatural n ++ rest) = some (writeNatural n, rest) := by
  have digits := readDigits_writeNatural closing n
  obtain ⟨first, more, same, _⟩ := exists_cons_writeNatural n
  by_cases zero : first = '0'
  · -- No number but zero is written with a zero in front.
    have alone : writeNatural n = ['0'] := by
      rw [writeNatural_eq] at same ⊢
      exact Text.toString_of_head?_eq_zero (by rw [same, zero]; rfl)
    rw [alone]
    cases rest with
    | nil => rfl
    | cons c rest =>
      rcases closing c rfl with rfl | rfl | rfl <;> rfl
  · rw [same] at digits ⊢
    rw [← digits, List.cons_append, readWhole]
    simp [zero]

theorem readNumber_writeNatural (n : Nat) :
    readNumber (writeNatural n ++ rest) = some (writeNatural n, rest) := by
  have whole := readWhole_writeNatural closing n
  obtain ⟨first, more, same, digit⟩ := exists_cons_writeNatural n
  have unsigned : first ≠ '-' := by
    rintro rfl
    simp at digit
  rw [same, List.cons_append] at whole ⊢
  unfold readNumber
  simp [unsigned, whole, closing.readFraction, closing.readExponent]

end

/-! ## Values -/

/-- What is written is read as a value in front of whatever closes it. It starts with a character
that is neither white space nor a closing bracket. -/
structure Reads (written : List Char) (value : Value) : Prop where
  starts : ∃ first rest, written = first :: rest ∧ isSpace first = false ∧ first ≠ ']'
  reads : ∀ fuel rest, written.length < fuel → Closing rest →
    readValue fuel (written ++ rest) = some (value, rest)

theorem skipSpace_cons {first : Char} {rest : List Char} (solid : isSpace first = false) :
    skipSpace (first :: rest) = first :: rest := by
  simp [skipSpace, solid]

theorem readValue_quote (fuel : Nat) (rest : List Char) :
    readValue (fuel + 1) ('"' :: rest) =
      (readText [] rest).map fun (pieces, rest) => (.text pieces, rest) := rfl

theorem readValue_bracket {fuel : Nat} {first : Char} {rest : List Char}
    (solid : isSpace first = false) (opens : first ≠ ']') :
    readValue (fuel + 1) ('[' :: first :: rest) =
      (readItems fuel [] (first :: rest)).map fun (items, rest) => (.array items, rest) := by
  have bracket : isSpace '[' = false := rfl
  simp [readValue, skipSpace_cons, bracket, solid, opens]

theorem readValue_brace (fuel : Nat) (rest : List Char) :
    readValue (fuel + 1) ('\x7b' :: '"' :: rest) =
      (readFields fuel [] ('"' :: rest)).map fun (fields, rest) => (.object fields, rest) := rfl

theorem isSpace_of_isDigit {c : Char} (digit : c.isDigit) : isSpace c = false := by
  cases space : isSpace c with
  | false => rfl
  | true =>
    simp only [isSpace, Bool.or_eq_true, beq_iff_eq] at space
    obtain ((rfl | rfl) | rfl) | rfl := space <;> simp at digit

theorem readValue_digit {fuel : Nat} {first : Char} {rest : List Char} (digit : first.isDigit) :
    readValue (fuel + 1) (first :: rest) =
      (readNumber (first :: rest)).map fun (number, rest) => (.number number, rest) := by
  rw [readValue, skipSpace_cons (isSpace_of_isDigit digit)]
  -- The first character is none of those that announce another value.
  split
  all_goals first
    | rfl
    | next same =>
      obtain rfl := (List.cons.inj same).1
      simp at digit

theorem Reads.read? {written : List Char} {value : Value} (reads : Reads written value) :
    read? written = some value := by
  have whole := reads.reads (2 * written.length + 1) [] (by omega) fun _ head => by simp at head
  rw [List.append_nil] at whole
  rw [Json.read?, whole]
  rfl

theorem reads_writeNatural (n : Nat) : Reads (writeNatural n) (.number (writeNatural n)) := by
  obtain ⟨first, digits, same, digit⟩ := exists_cons_writeNatural n
  refine ⟨⟨first, digits, same, isSpace_of_isDigit digit, ?_⟩, fun fuel rest enough closing => ?_⟩
  · rintro rfl
    simp at digit
  · obtain ⟨fuel, rfl⟩ := Nat.exists_eq_succ_of_ne_zero (Nat.ne_zero_of_lt enough)
    have number := readNumber_writeNatural closing n
    rw [same, List.cons_append] at number ⊢
    rw [readValue_digit digit, number]
    rfl

theorem reads_writeText (text : List Char) :
    Reads (writeText text) (.text (text.map pieceOf)) := by
  refine ⟨⟨'"', _, rfl, rfl, by decide⟩, fun fuel rest enough _ => ?_⟩
  cases fuel with
  | zero => simp at enough
  | succ fuel =>
    have body := readText_flatMap [] text rest
    have same : writeText text ++ rest = '"' :: (text.flatMap writeChar ++ '"' :: rest) := by
      simp [writeText]
    rw [same, readValue_quote, body]
    rfl

/-! ## Arrays and objects -/

theorem intercalate_cons {first second : List Char} {others : List (List Char)} :
    [','].intercalate (first :: second :: others) =
      first ++ ',' :: [','].intercalate (second :: others) := by
  rw [List.intercalate_cons_cons, List.append_assoc, List.singleton_append]

theorem closing_cons {c : Char} (closes : c = ',' ∨ c = ']' ∨ c = '\x7d') (rest : List Char) :
    Closing (c :: rest) := by
  rintro _ ⟨⟩
  exact closes

section

variable {ι : Type} {written : ι → List Char} {value : ι → Value}

theorem readItems_intercalate {key : ι} {keys : List ι}
    (each : ∀ item ∈ key :: keys, Reads (written item) (value item)) (fuel : Nat)
    (seen : List Value) (rest : List Char)
    (enough : ([','].intercalate ((key :: keys).map written)).length + 1 < fuel) :
    readItems fuel seen ([','].intercalate ((key :: keys).map written) ++ ']' :: rest) =
      some (seen.reverse ++ (key :: keys).map value, rest) := by
  obtain ⟨first, others⟩ := List.forall_mem_cons.1 each
  induction keys generalizing key fuel seen with
  | nil =>
    have alone : [','].intercalate ([key].map written) = written key := by simp
    rw [alone] at enough ⊢
    obtain ⟨fuel, rfl⟩ := Nat.exists_eq_succ_of_ne_zero (Nat.ne_zero_of_lt enough)
    rw [readItems, first.reads fuel _ (by omega) (closing_cons (by simp) rest)]
    simp [skipSpace_cons (show isSpace ']' = false from rfl)]
  | cons next keys ih =>
    rw [List.map_cons, List.map_cons, intercalate_cons] at enough ⊢
    obtain ⟨fuel, rfl⟩ := Nat.exists_eq_succ_of_ne_zero (Nat.ne_zero_of_lt enough)
    rw [List.length_append, List.length_cons] at enough
    rw [List.append_assoc, List.cons_append, readItems,
      first.reads fuel _ (by omega) (closing_cons (by simp) _)]
    dsimp only
    rw [skipSpace_cons (show isSpace ',' = false from rfl)]
    have items := ih others fuel (value key :: seen) (by rw [List.map_cons]; omega)
      (others next List.mem_cons_self) fun item listed =>
        others item (List.mem_cons_of_mem next listed)
    rw [List.map_cons] at items
    change readItems fuel (value key :: seen) _ = _
    rw [items]
    simp

/-- An array of values that are read back is read back. -/
theorem reads_writeArray {keys : List ι}
    (each : ∀ item ∈ keys, Reads (written item) (value item)) :
    Reads (writeArray (keys.map written)) (.array (keys.map value)) := by
  refine ⟨⟨'[', _, rfl, rfl, by decide⟩, fun fuel rest enough _ => ?_⟩
  obtain ⟨fuel, rfl⟩ := Nat.exists_eq_succ_of_ne_zero (Nat.ne_zero_of_lt enough)
  cases keys with
  | nil => rfl
  | cons key keys =>
    have size : (writeArray ((key :: keys).map written)).length =
        ([','].intercalate ((key :: keys).map written)).length + 2 := by
      simp [writeArray]
    have items := readItems_intercalate each fuel [] rest (by omega)
    have same : writeArray ((key :: keys).map written) ++ rest =
        '[' :: ([','].intercalate ((key :: keys).map written) ++ ']' :: rest) := by
      simp [writeArray]
    -- The first item shows that the array is not empty.
    obtain ⟨first, tail, starts, solid, opens⟩ := (each key List.mem_cons_self).starts
    obtain ⟨more, front⟩ : ∃ more,
        [','].intercalate ((key :: keys).map written) = first :: more := by
      cases keys with
      | nil =>
        rw [List.map_singleton, List.intercalate_singleton]
        exact ⟨tail, starts⟩
      | cons next keys =>
        rw [List.map_cons, List.map_cons, intercalate_cons, starts]
        exact ⟨_, rfl⟩
    rw [same]
    rw [front, List.cons_append] at items ⊢
    rw [readValue_bracket solid opens, items]
    rfl

end

/-- A field of an object, as it is written. -/
def writeField (name : String) (value : List Char) : List Char :=
  writeText name.toList ++ ':' :: value

theorem length_lt_writeField (name : String) (value : List Char) :
    value.length < (writeField name value).length := by
  simp only [writeField, List.length_append, List.length_cons]
  omega

/-- A field is read up to what stands behind its value. -/
theorem readFields_writeField (name : String) {written : List Char} {value : Value}
    (reads : Reads written value) {fuel : Nat} (enough : written.length < fuel)
    (seen : List (List Piece × Value)) (rest : List Char) :
    (readFields (fuel + 1) seen (writeField name written ++ ',' :: rest) =
        readFields fuel ((name.toList.map pieceOf, value) :: seen) rest) ∧
      readFields (fuel + 1) seen (writeField name written ++ '\x7d' :: rest) =
        some (((name.toList.map pieceOf, value) :: seen).reverse, rest) := by
  have same (behind : List Char) : writeField name written ++ behind =
      '"' :: (name.toList.flatMap writeChar ++ '"' :: (':' :: (written ++ behind))) := by
    simp [writeField, writeText]
  have solid {c : Char} {rest : List Char} (mark : c ∈ ['"', ':', ',', '\x7d']) :
      skipSpace (c :: rest) = c :: rest := by
    simp only [List.mem_cons, List.not_mem_nil, or_false] at mark
    obtain rfl | rfl | rfl | rfl := mark <;> rfl
  constructor
  · have read := reads.reads fuel (',' :: rest) enough (closing_cons (by simp) rest)
    simp [same, readFields, solid, readText_flatMap, read]
  · have read := reads.reads fuel ('\x7d' :: rest) enough (closing_cons (by simp) rest)
    simp [same, readFields, solid, readText_flatMap, read]

section

variable {ι : Type} {name : ι → String} {written : ι → List Char} {value : ι → Value}

theorem readFields_intercalate {key : ι} {keys : List ι}
    (each : ∀ item ∈ key :: keys, Reads (written item) (value item)) (fuel : Nat)
    (seen : List (List Piece × Value)) (rest : List Char)
    (enough : ([','].intercalate
      ((key :: keys).map fun item => writeField (name item) (written item))).length + 1 < fuel) :
    readFields fuel seen ([','].intercalate
        ((key :: keys).map fun item => writeField (name item) (written item)) ++ '\x7d' :: rest) =
      some (seen.reverse ++ (key :: keys).map fun item =>
        ((name item).toList.map pieceOf, value item), rest) := by
  obtain ⟨first, others⟩ := List.forall_mem_cons.1 each
  induction keys generalizing key fuel seen with
  | nil =>
    have longer := length_lt_writeField (name key) (written key)
    rw [List.map_singleton, List.intercalate_singleton] at enough ⊢
    obtain ⟨fuel, rfl⟩ := Nat.exists_eq_succ_of_ne_zero (Nat.ne_zero_of_lt enough)
    rw [(readFields_writeField (name key) first (by omega) seen rest).2]
    simp
  | cons next keys ih =>
    have longer := length_lt_writeField (name key) (written key)
    rw [List.map_cons, List.map_cons, intercalate_cons] at enough ⊢
    obtain ⟨fuel, rfl⟩ := Nat.exists_eq_succ_of_ne_zero (Nat.ne_zero_of_lt enough)
    rw [List.length_append, List.length_cons] at enough
    rw [List.append_assoc, List.cons_append,
      (readFields_writeField (name key) first (by omega) seen _).1]
    have fields := ih others fuel (((name key).toList.map pieceOf, value key) :: seen)
      (by rw [List.map_cons]; omega) (others next List.mem_cons_self)
      fun item listed => others item (List.mem_cons_of_mem next listed)
    rw [List.map_cons] at fields
    rw [fields]
    simp

/-- An object of values that are read back is read back. -/
theorem reads_writeObject {keys : List ι}
    (each : ∀ item ∈ keys, Reads (written item) (value item)) :
    Reads (writeObject (keys.map fun item => (name item, written item)))
      (.object (keys.map fun item => ((name item).toList.map pieceOf, value item))) := by
  refine ⟨⟨'\x7b', _, rfl, rfl, by decide⟩, fun fuel rest enough _ => ?_⟩
  obtain ⟨fuel, rfl⟩ := Nat.exists_eq_succ_of_ne_zero (Nat.ne_zero_of_lt enough)
  cases keys with
  | nil => rfl
  | cons key keys =>
    have body : writeObject ((key :: keys).map fun item => (name item, written item)) =
        '\x7b' :: [','].intercalate
          ((key :: keys).map fun item => writeField (name item) (written item)) ++ ['\x7d'] := by
      rw [writeObject, List.map_map]
      rfl
    rw [body, List.length_append, List.length_cons, List.length_singleton] at enough
    have fields :=
      @readFields_intercalate ι name written value key keys each fuel [] rest (by omega)
    obtain ⟨more, front⟩ : ∃ more, [','].intercalate
        ((key :: keys).map fun item => writeField (name item) (written item)) = '"' :: more := by
      cases keys with
      | nil =>
        rw [List.map_singleton, List.intercalate_singleton]
        exact ⟨_, rfl⟩
      | cons next keys =>
        rw [List.map_cons, List.map_cons, intercalate_cons]
        exact ⟨_, rfl⟩
    have same : writeObject ((key :: keys).map fun item => (name item, written item)) ++ rest =
        '\x7b' :: '"' :: (more ++ '\x7d' :: rest) := by
      rw [body, front]
      simp
    rw [front, List.cons_append] at fields
    rw [same, readValue_brace, fields]
    rfl

end

end ClusterProxy.Json
