import ClusterProxy.Proofs.Text.Words
import ClusterProxy.Proofs.Topology.History

/-!
# The line of a node

A `Node.Entry` is what a cluster writes into the line of one node. `Node.Entry.line` writes it, with
any number of spaces between the fields and any line breaks at the end, and `Node.Entry.Describes`
says which node it stands for. That node is the one that is read from the line, and whatever line a
node is read from, its slots are slots of the table (`Node.read_back`).

The fields are found again since none of them holds a space or a line break (`Text.words_spaced`).
After that each of them is read on its own.
-/

namespace ClusterProxy

/-! ## Words of a line -/

namespace Text

/-- Words with spaces between them. The number of words that are still to come says how many spaces
there are, beside the one that must be there. -/
def spaced (gap : Nat → Nat) : List (List Char) → List Char
  | [] => []
  | [word] => word
  | word :: next :: words =>
    word ++ (List.replicate (gap words.length + 1) ' ' ++ spaced gap (next :: words))

/-- A text that can stand inside a field. -/
structure Unbroken (text : List Char) : Prop where
  no_space : ' ' ∉ text
  no_return : '\r' ∉ text
  no_feed : '\n' ∉ text

theorem Unbroken.append {front back : List Char} (left : Unbroken front) (right : Unbroken back) :
    Unbroken (front ++ back) where
  no_space member := (List.mem_append.1 member).elim left.no_space right.no_space
  no_return member := (List.mem_append.1 member).elim left.no_return right.no_return
  no_feed member := (List.mem_append.1 member).elim left.no_feed right.no_feed

theorem Unbroken.cons {c : Char} {text : List Char} (first : c ∉ [' ', '\r', '\n'])
    (unbroken : Unbroken text) : Unbroken (c :: text) := by
  simp only [List.mem_cons, List.not_mem_nil, or_false, not_or] at first
  have single : Unbroken [c] := by
    constructor <;> simp [first, eq_comm]
  exact single.append unbroken

theorem unbroken_nil : Unbroken [] := by
  constructor <;> exact List.not_mem_nil

theorem IsWord.unbroken {text : String} (word : IsWord text) : Unbroken text.toList :=
  ⟨word.no_space, word.no_return, word.no_feed⟩

theorem IsWord.toList_ne_nil {text : String} (word : IsWord text) : text.toList ≠ [] := by
  simpa using word.some_char

/-- The words of a text are those in front of a space and those behind it. -/
theorem words_append_space (front back : List Char) :
    words (front ++ ' ' :: back) = words front ++ words back := by
  unfold words
  rw [List.splitOn_append_cons_of_beq _ _ (beq_self_eq_true _), List.filter_append]

theorem words_append_spaces (front back : List Char) (count : Nat) :
    words (front ++ (List.replicate (count + 1) ' ' ++ back)) = words front ++ words back := by
  induction count with
  | zero => exact words_append_space front back
  | succ count ih =>
    rw [List.replicate_succ, List.cons_append, words_append_space, ← ih, List.replicate_succ,
      List.cons_append, words_append_space, ← List.nil_append (' ' :: _), words_append_space]
    rfl

theorem words_of_not_mem {word : List Char} (some_char : word ≠ []) (no_space : ' ' ∉ word) :
    words word = [word] := by
  rw [words, List.splitOn_eq_singleton no_space]
  simp [some_char]

/-- Words are found again in a text that has spaces between them. -/
theorem words_spaced {texts : List (List Char)} (gap : Nat → Nat)
    (some_char : ∀ text ∈ texts, text ≠ []) (unbroken : ∀ text ∈ texts, Unbroken text) :
    words (spaced gap texts) = texts := by
  fun_induction spaced with
  | case1 => rfl
  | case2 word =>
    exact words_of_not_mem (some_char word List.mem_cons_self)
      (unbroken word List.mem_cons_self).no_space
  | case3 word next texts ih =>
    obtain ⟨first, others⟩ := List.forall_mem_cons.1 some_char
    obtain ⟨whole, later⟩ := List.forall_mem_cons.1 unbroken
    rw [words_append_spaces, words_of_not_mem first whole.no_space, ih others later,
      List.singleton_append]

theorem not_mem_spaced {texts : List (List Char)} (gap : Nat → Nat) {c : Char} (other : c ≠ ' ')
    (absent : ∀ text ∈ texts, c ∉ text) : c ∉ spaced gap texts := by
  fun_induction spaced with
  | case1 => exact List.not_mem_nil
  | case2 word => exact absent word List.mem_cons_self
  | case3 word next texts ih =>
    obtain ⟨first, others⟩ := List.forall_mem_cons.1 absent
    simp only [List.mem_append, List.mem_replicate, not_or]
    exact ⟨first, fun gap => other gap.2, ih others⟩

theorem bounds_of_isLower {letter : Char} (lower : letter.isLower) :
    97 ≤ letter.toNat ∧ letter.toNat ≤ 122 := by
  have both : (decide (97 ≤ letter.toNat) && decide (letter.toNat ≤ 122)) = true := lower
  rwa [Bool.and_eq_true, decide_eq_true_eq, decide_eq_true_eq] at both

theorem toNat_toUpper {letter : Char} (lower : letter.isLower) :
    letter.toUpper.toNat + 32 = letter.toNat := by
  have small := bounds_of_isLower lower
  have range : 'a'.val ≤ letter.val ∧ letter.val ≤ 'z'.val := small
  obtain ⟨_, capital⟩ : ∃ valid, letter.toUpper = ⟨letter.val + ('A'.val - 'a'.val), valid⟩ :=
    ⟨_, dif_pos range⟩
  -- The sum wraps around: what is added is 2 ^ 32 - 32.
  have sum : letter.toUpper.toNat = (letter.toNat + 4294967264) % 4294967296 := by
    rw [capital]
    exact UInt32.toNat_add _ _
  omega

theorem toNat_toLower (c : Char) :
    c.toLower.toNat = if 65 ≤ c.toNat ∧ c.toNat ≤ 90 then c.toNat + 32 else c.toNat := by
  by_cases capital : 65 ≤ c.toNat ∧ c.toNat ≤ 90
  · have range : 'A'.val ≤ c.val ∧ c.val ≤ 'Z'.val := capital
    obtain ⟨_, small⟩ : ∃ valid, c.toLower = ⟨c.val + ('a'.val - 'A'.val), valid⟩ :=
      ⟨_, dif_pos range⟩
    have sum : c.toLower.toNat = (c.toNat + 32) % 4294967296 := by
      rw [small]
      exact UInt32.toNat_add _ _
    rw [sum, if_pos capital]
    omega
  · have other : ¬('A'.val ≤ c.val ∧ c.val ≤ 'Z'.val) := capital
    rw [if_neg capital]
    exact congrArg Char.toNat (dif_neg other)

/-- A character comes to a small letter if it is that letter or its capital. -/
theorem toLower_eq_iff {c letter : Char} (lower : letter.isLower) :
    c.toLower = letter ↔ c = letter ∨ c = letter.toUpper := by
  have capital := toNat_toUpper lower
  have small := bounds_of_isLower lower
  rw [← Char.toNat_inj, ← Char.toNat_inj, ← Char.toNat_inj, toNat_toLower]
  split <;> omega

/-- A text that is a word of small letters, each of them in either case. -/
def Spells (text word : List Char) : Prop :=
  List.Forall₂ (fun c letter => c = letter ∨ c = letter.toUpper) text word

theorem lower_eq_iff {text word : List Char} (small : ∀ letter ∈ word, letter.isLower) :
    lower text = word ↔ Spells text word := by
  induction word generalizing text with
  | nil => simp [lower, Spells]
  | cons letter word ih =>
    obtain ⟨first, others⟩ := List.forall_mem_cons.1 small
    cases text with
    | nil => simp [lower, Spells]
    | cons c text =>
      rw [lower, List.map_cons, List.cons.injEq, toLower_eq_iff first]
      rw [Spells, List.forall₂_cons]
      exact and_congr_right' (ih others)

end Text

namespace Node

/-! ## Entries -/

/-- What is written of the slots of a node.

* `single`: one slot.
* `range`: the slots between two, which may stand the wrong way round.
* `moving`: a note in brackets, that a slot is moving. -/
inductive Portion where
  | single (slot : Fin Slot.count)
  | range (first last : Fin Slot.count)
  | moving (note : List Char) (unbroken : Text.Unbroken note)

namespace Portion

/-- How it is written. -/
def text : Portion → List Char
  | single slot => (toString slot.val).toList
  | range first last => (toString first.val).toList ++ '-' :: (toString last.val).toList
  | moving note _ => '[' :: note

/-- The first and the last slot that it gives. If they stand the wrong way round, the first slot is
all there is. -/
def bounds? : Portion → Option (Nat × Nat)
  | single slot => some (slot, slot)
  | range first last => some (first, if last < first then first else last)
  | moving _ _ => none

end Portion

/-- A flag that names a role. A node that is still being greeted counts as a master. -/
inductive NamesRole : String → Role → Prop
  | master : NamesRole "master" .master
  | handshake : NamesRole "handshake" .master
  | slave : NamesRole "slave" .replica
  | replica : NamesRole "replica" .replica

/-- What is written in the line of a node.

* `bus` and `name` may be there behind the address, as a port behind `@` and a name behind a comma.
* `flags` name a role at least once.
* `master` is the identifier of the master that the node replicates, or `-`.
* `sent`, `received` and `epoch` are not read. -/
structure Entry where
  id : String
  address : String
  bus : Option String
  name : Option String
  flags : List String
  master : String
  sent : String
  received : String
  epoch : String
  link : String
  portions : List Portion
  words : ∀ text ∈ [id, address, master, sent, received, epoch, link] ++ flags, Text.IsWord text
  address_ends : '@' ∉ address.toList ∧ ',' ∉ address.toList
  added : ∀ text ∈ bus.toList ++ name.toList, Text.Unbroken text.toList
  flags_end : ∀ flag ∈ flags, ',' ∉ flag.toList
  some_role : ∃ flag ∈ flags, ∃ role, NamesRole flag role

namespace Entry

/-- What stands behind an address. -/
def suffix (entry : Entry) : List Char :=
  (entry.bus.elim [] fun port => '@' :: port.toList) ++
    entry.name.elim [] fun name => ',' :: name.toList

/-- The fields of the line. -/
def fields (entry : Entry) : List (List Char) :=
  entry.id.toList :: (entry.address.toList ++ entry.suffix) ::
    [','].intercalate (entry.flags.map String.toList) :: entry.master.toList ::
    entry.sent.toList :: entry.received.toList :: entry.epoch.toList :: entry.link.toList ::
    entry.portions.map Portion.text

/-- The line: the fields with spaces between them, and an end. -/
def line (entry : Entry) (gap : Nat → Nat) (ending : List Char) : String :=
  String.ofList (Text.spaced gap entry.fields ++ ending)

/-- The node is the one that the entry tells of. -/
structure Describes (entry : Entry) (node : Node) : Prop where
  id : node.id = entry.id
  address : node.address = entry.address
  /-- The last flag that names a role decides. -/
  role : ∃ front flag back, entry.flags = front ++ flag :: back ∧ NamesRole flag node.role ∧
    ∀ later ∈ back, ∀ role, ¬ NamesRole later role
  myself : node.myself ↔ "myself" ∈ entry.flags
  connected : node.connected ↔ Text.Spells entry.link.toList "connected".toList
  master : node.master = if entry.master = "-" then none else some entry.master
  ranges : node.role = .master →
    node.ranges.map (fun range => (range.first, range.last)) =
      entry.portions.filterMap Portion.bounds?
  no_ranges : node.role = .replica → node.ranges = []

end Entry

/-! ## The slots of an entry -/

theorem slotOfWord_toString (slot : Fin Slot.count) :
    slotOfWord (toString slot.val).toList = .ok slot.val := by
  unfold slotOfWord
  rw [Text.decimal?_toString slot.isLt]

theorem head?_toString_ne (n : Nat) (rest : List Char) :
    ((toString n).toList ++ rest).head? ≠ some '[' := by
  obtain ⟨c, digits, same⟩ := List.exists_cons_of_ne_nil (Text.toList_toString_ne_nil n)
  have digit : c.isDigit := Text.isDigit_of_mem_toString c (same ▸ List.mem_cons_self)
  rw [same, List.cons_append, List.head?_cons, ne_eq, Option.some.injEq]
  rintro rfl
  exact absurd digit (by decide)

theorem rangeOfWord_single (slot : Fin Slot.count) :
    rangeOfWord (toString slot.val).toList = .ok (some (.ofBounds slot slot)) := by
  have no_hyphen : (toString slot.val).toList.dropWhile (fun c => c != '-') = [] :=
    List.dropWhile_eq_nil_iff.2 (Text.bne_of_mem_toString (by decide))
  have plain := head?_toString_ne slot []
  rw [List.append_nil] at plain
  rw [rangeOfWord, if_neg plain, no_hyphen, slotOfWord_toString]
  rfl

theorem rangeOfWord_pair (first last : Fin Slot.count) :
    rangeOfWord ((toString first.val).toList ++ '-' :: (toString last.val).toList) =
      .ok (some (.ofBounds first last)) := by
  have no_hyphen : ∀ c ∈ (toString first.val).toList, (c != '-') = true :=
    Text.bne_of_mem_toString (by decide)
  rw [rangeOfWord, if_neg (head?_toString_ne first _), List.dropWhile_append_of_pos no_hyphen,
    List.takeWhile_append_of_pos no_hyphen,
    List.takeWhile_cons_of_neg (by decide), List.dropWhile_cons_of_neg (by decide)]
  rw [List.append_nil]
  dsimp only
  rw [slotOfWord_toString, slotOfWord_toString]
  rfl

namespace Portion

/-- The range that is read of a portion. -/
def range? : Portion → Option SlotRange
  | single slot => some (.ofBounds slot slot)
  | range first last => some (.ofBounds first last)
  | moving _ _ => none

theorem bounds_range? (portion : Portion) :
    portion.range?.map (fun range => (range.first, range.last)) = portion.bounds? := by
  cases portion with
  | single slot => simp [range?, bounds?, SlotRange.ofBounds]
  | range first last =>
    have larger : max last.val first.val = if last < first then first.val else last.val := by
      split <;> omega
    simp [range?, bounds?, SlotRange.ofBounds, larger]
  | moving note unbroken => rfl

theorem rangeOfWord_text (portion : Portion) :
    rangeOfWord portion.text = .ok portion.range? := by
  cases portion with
  | single slot => exact rangeOfWord_single slot
  | range first last => exact rangeOfWord_pair first last
  | moving note unbroken => rfl

theorem rangesOfWords_text (portions : List Portion) :
    rangesOfWords (portions.map text) = .ok (portions.filterMap range?) := by
  have each : rangeOfWord ∘ text = fun portion => pure portion.range? := funext rangeOfWord_text
  rw [rangesOfWords, List.mapM_map, each, List.mapM_pure]
  simp [pure, Except.pure, bind, Except.bind, List.filterMap_map]

theorem unbroken_text (portion : Portion) : Text.Unbroken portion.text := by
  have number (slot : Fin Slot.count) := (Text.IsWord.toString_nat slot.val).unbroken
  cases portion with
  | single slot => exact number slot
  | range first last => exact (number first).append (.cons (by decide) (number last))
  | moving note unbroken => exact .cons (by decide) unbroken

theorem text_ne_nil (portion : Portion) : portion.text ≠ [] := by
  cases portion with
  | single slot => exact Text.toList_toString_ne_nil slot
  | range first last => simp [text]
  | moving note unbroken => exact List.cons_ne_nil _ _

end Portion

/-! ## The role of an entry -/

theorem roleOfFlag_eq_some_iff {flag : String} {role : Role} :
    roleOfFlag flag.toList = some role ↔ NamesRole flag role := by
  simp only [roleOfFlag, String.toList_inj]
  constructor
  · intro named
    split at named
    · next word =>
      obtain rfl := Option.some.inj named
      rcases word with rfl | rfl
      · exact .master
      · exact .handshake
    · split at named
      · next word =>
        obtain rfl := Option.some.inj named
        rcases word with rfl | rfl
        · exact .slave
        · exact .replica
      · simp at named
  · rintro (_ | _ | _ | _) <;> decide

/-- Of flags that name a role there is a last one, and it decides. -/
theorem exists_roleOfFlags {flags : List String}
    (some_role : ∃ flag ∈ flags, ∃ role, NamesRole flag role) :
    ∃ role, roleOfFlags (flags.map String.toList) = some role ∧
      ∃ front flag back, flags = front ++ flag :: back ∧ NamesRole flag role ∧
        ∀ later ∈ back, ∀ role, ¬ NamesRole later role := by
  have silent {later : String} :
      (∀ role, ¬ NamesRole later role) ↔ roleOfFlag later.toList = none := by
    simp only [← roleOfFlag_eq_some_iff, Option.eq_none_iff_forall_ne_some, ne_eq]
  induction flags using List.reverseRecOn with
  | nil => simp at some_role
  | append_singleton flags flag ih =>
    rw [roleOfFlags, List.map_append, List.filterMap_append, List.map_singleton]
    cases named : roleOfFlag flag.toList with
    | some role =>
      refine ⟨role, by simp [named], flags, flag, [], rfl, roleOfFlag_eq_some_iff.1 named, ?_⟩
      simp
    | none =>
      obtain ⟨other, member, role, names⟩ := some_role
      have earlier : other ∈ flags := by
        refine (List.mem_append.1 member).resolve_right fun last => ?_
        obtain rfl := List.mem_singleton.1 last
        exact silent.2 named role names
      obtain ⟨role, decided, front, flag', back, rfl, names, later⟩ :=
        ih ⟨other, earlier, role, names⟩
      have nothing : [flag.toList].filterMap roleOfFlag = [] := by simp [named]
      refine ⟨role, ?_, front, flag', back ++ [flag], by simp, names, ?_⟩
      · rw [nothing, List.append_nil]
        exact decided
      · simpa [or_imp, forall_and] using ⟨later, silent.2 named⟩

/-! ## Reading an entry -/

namespace Entry

variable (entry : Entry)

theorem unbroken_suffix : Text.Unbroken entry.suffix := by
  refine Text.Unbroken.append ?_ ?_
  · cases port : entry.bus with
    | none => exact Text.unbroken_nil
    | some text => exact .cons (by decide) (entry.added text (by simp [port]))
  · cases name : entry.name with
    | none => exact Text.unbroken_nil
    | some text => exact .cons (by decide) (entry.added text (by simp [name]))

theorem clientAddress_suffix :
    clientAddress (entry.address.toList ++ entry.suffix) = entry.address.toList := by
  obtain ⟨no_port, no_name⟩ := entry.address_ends
  have kept : ∀ c ∈ entry.address.toList, (c != '@' && c != ',') = true := fun c member => by
    rw [Bool.and_eq_true, bne_iff_ne, bne_iff_ne]
    exact ⟨ne_of_mem_of_not_mem member no_port, ne_of_mem_of_not_mem member no_name⟩
  have none : entry.suffix.takeWhile (fun c => c != '@' && c != ',') = [] := by
    unfold suffix
    cases entry.bus with
    | some port => simp
    | none => cases entry.name <;> simp
  rw [clientAddress, List.takeWhile_append_of_pos kept, none, List.append_nil]

theorem flags_ne_nil : entry.flags.map String.toList ≠ [] := by
  obtain ⟨flag, member, _⟩ := entry.some_role
  rw [ne_eq, List.map_eq_nil_iff]
  exact List.ne_nil_of_mem member

theorem splitOn_flags :
    ([','].intercalate (entry.flags.map String.toList)).splitOn ',' =
      entry.flags.map String.toList := by
  refine List.splitOn_intercalate ',' ?_ entry.flags_ne_nil
  simpa using entry.flags_end

theorem ofFields_fields {role : Role}
    (decided : roleOfFlags (entry.flags.map String.toList) = some role) :
    ofFields entry.fields = .ok {
      id := entry.id
      address := entry.address
      role
      myself := (entry.flags.map String.toList).contains "myself".toList
      connected := Text.sameWord entry.link.toList "connected".toList
      master := if entry.master.toList = ['-'] then none else some entry.master
      ranges := if role = .master then entry.portions.filterMap Portion.range? else [] } := by
  unfold ofFields fields
  simp only [splitOn_flags, decided, clientAddress_suffix, String.ofList_toList,
    Portion.rangesOfWords_text]
  cases role <;> rfl

theorem unbroken_flags :
    Text.Unbroken ([','].intercalate (entry.flags.map String.toList)) := by
  have absent {c : Char} (other : c ≠ ',') (none : ∀ flag ∈ entry.flags, c ∉ flag.toList) :
      c ∉ [','].intercalate (entry.flags.map String.toList) := fun member => by
    obtain ⟨_, listed, within⟩ := Text.exists_mem_of_mem_intercalate other member
    obtain ⟨flag, flagged, rfl⟩ := List.mem_map.1 listed
    exact none flag flagged within
  have words : ∀ flag ∈ entry.flags, Text.Unbroken flag.toList := fun flag member =>
    (entry.words flag (List.mem_append_right _ member)).unbroken
  exact ⟨absent (by decide) fun flag member => (words flag member).no_space,
    absent (by decide) fun flag member => (words flag member).no_return,
    absent (by decide) fun flag member => (words flag member).no_feed⟩

theorem unbroken_fields : ∀ field ∈ entry.fields, field ≠ [] ∧ Text.Unbroken field := by
  have word {text : String} (member : text ∈ [entry.id, entry.address, entry.master, entry.sent,
      entry.received, entry.epoch, entry.link] ++ entry.flags) :
      text.toList ≠ [] ∧ Text.Unbroken text.toList :=
    ⟨(entry.words text member).toList_ne_nil, (entry.words text member).unbroken⟩
  have address : entry.address.toList ≠ [] ∧ Text.Unbroken entry.address.toList := word (by simp)
  have flags : [','].intercalate (entry.flags.map String.toList) ≠ [] := by
    intro empty
    -- Nothing would be split into one empty flag.
    have round := entry.splitOn_flags
    rw [empty, List.splitOn_nil] at round
    obtain ⟨flag, listed, none⟩ := List.mem_map.1 (round ▸ List.mem_singleton_self [])
    exact (entry.words flag (List.mem_append_right _ listed)).toList_ne_nil none
  simp only [fields, List.forall_mem_cons, List.forall_mem_map]
  refine ⟨word (by simp), ⟨?_, address.2.append entry.unbroken_suffix⟩,
    ⟨flags, entry.unbroken_flags⟩, word (by simp), word (by simp), word (by simp), word (by simp),
    word (by simp), fun portion _ => ⟨portion.text_ne_nil, portion.unbroken_text⟩⟩
  exact fun none => address.1 (List.append_eq_nil_iff.1 none).1

theorem fields_line (gap : Nat → Nat) {ending : List Char}
    (breaks : ∀ c ∈ ending, c = '\r' ∨ c = '\n') :
    Node.fields (entry.line gap ending) = entry.fields := by
  have unbroken : ∀ field ∈ entry.fields, Text.Unbroken field := fun field member =>
    (entry.unbroken_fields field member).2
  have no_return : '\r' ∉ Text.spaced gap entry.fields :=
    Text.not_mem_spaced gap (by decide) fun field member => (unbroken field member).no_return
  have no_feed : '\n' ∉ Text.spaced gap entry.fields :=
    Text.not_mem_spaced gap (by decide) fun field member => (unbroken field member).no_feed
  have kept : ∀ c ∈ Text.spaced gap entry.fields, (c == '\r' || c == '\n') = false := by
    intro c member
    rw [Bool.or_eq_false_iff, beq_eq_false_iff_ne, beq_eq_false_iff_ne]
    exact ⟨ne_of_mem_of_not_mem member no_return, ne_of_mem_of_not_mem member no_feed⟩
  rw [Node.fields, line, String.toList_ofList,
    Text.dropEndWhile_append kept (by simpa using breaks),
    Text.words_spaced gap (fun field member => (entry.unbroken_fields field member).1) unbroken]

theorem exists_describes (gap : Nat → Nat) {ending : List Char}
    (breaks : ∀ c ∈ ending, c = '\r' ∨ c = '\n') :
    ∃ node, ofLine (entry.line gap ending) = .ok node ∧ entry.Describes node := by
  obtain ⟨role, decided, last⟩ := exists_roleOfFlags entry.some_role
  refine ⟨_, by rw [ofLine, fields_line entry gap breaks, ofFields_fields entry decided], ?_⟩
  exact {
    id := rfl
    address := rfl
    role := last
    myself := by
      rw [List.contains_iff_mem, List.mem_map_of_injective fun _ _ => String.toList_inj.1]
    connected := by
      have small : Text.lower "connected".toList = "connected".toList := by decide
      rw [Text.sameWord, small, beq_iff_eq]
      exact Text.lower_eq_iff (by simp)
    master := by
      have none : entry.master.toList = ['-'] ↔ entry.master = "-" := @String.toList_inj _ "-"
      simp only [none]
    ranges := fun master => by
      simp only [if_pos master, List.map_filterMap, Portion.bounds_range?]
    no_ranges := fun replica => by
      have other : role ≠ .master := by
        rintro rfl
        exact Role.noConfusion replica
      exact if_neg other }

end Entry

/-- What is read can be used: every range has its slots inside the table, and a replica has none. -/
structure Usable (node : Node) : Prop where
  ordered : ∀ range ∈ node.ranges, range.first ≤ range.last
  last_lt : ∀ range ∈ node.ranges, range.last < Slot.count
  no_ranges : node.role = .replica → node.ranges = []

theorem usable_of_ofLine {line : String} {node : Node} (read : ofLine line = .ok node) :
    Usable node where
  ordered range _ := range.ordered
  last_lt := last_lt_of_ofLine read
  no_ranges replica := by
    obtain ⟨words, ranges⟩ := exists_ranges_of_ofLine read
    rw [if_neg (by simp [replica])] at ranges
    exact (Except.ok.inj ranges).symm

/-- The line of a node is read back, and whatever is read can be used.

* An entry that is written, with any number of spaces between its fields and any line breaks at the
  end, is read as the node that it describes.
* Whatever line a node is read from, its ranges lie inside the table, and a replica has none. -/
theorem read_back :
    (∀ (entry : Entry) (gap : Nat → Nat) (ending : List Char),
      (∀ c ∈ ending, c = '\r' ∨ c = '\n') →
      ∃ node, ofLine (entry.line gap ending) = .ok node ∧ entry.Describes node) ∧
    ∀ line node, ofLine line = .ok node → Usable node :=
  ⟨fun entry gap _ breaks => entry.exists_describes gap breaks,
    fun _ _ read => usable_of_ofLine read⟩

namespace Sample

/-- A master that is still being greeted, with a range the wrong way round and a slot that moves. -/
def entry : Entry where
  id := "id1"
  address := "127.0.0.1:30002"
  bus := some "31002"
  name := some "node-2.example"
  flags := ["slave", "myself", "handshake"]
  master := "-"
  sent := "0"
  received := "0"
  epoch := "2"
  link := "Connected"
  portions := [.single ⟨10, by decide⟩, .range ⟨20, by decide⟩ ⟨19, by decide⟩,
    .moving "30->-id2]".toList ⟨by decide, by decide, by decide⟩,
    .range ⟨40, by decide⟩ ⟨42, by decide⟩]
  words := by
    simp only [List.cons_append, List.nil_append, List.forall_mem_cons]
    refine ⟨?_, ?_, ?_, ?_, ?_, ?_, ?_, ?_, ?_, ?_, List.forall_mem_nil _⟩
    all_goals exact ⟨by decide, by decide, by decide, by decide⟩
  address_ends := ⟨by decide, by decide⟩
  added := by
    simp only [Option.toList_some, List.cons_append, List.nil_append, List.forall_mem_cons]
    exact ⟨⟨by decide, by decide, by decide⟩, ⟨by decide, by decide, by decide⟩,
      List.forall_mem_nil _⟩
  flags_end := by simp
  some_role := ⟨"slave", by decide, .replica, .slave⟩

end Sample

theorem read_back_reversed :
    Sample.entry.line (fun place => place % 2) ['\r', '\n'] =
      "id1 127.0.0.1:30002@31002,node-2.example  slave,myself,handshake -  0 0  2 Connected" ++
        "  10 20-19  [30->-id2] 40-42\r\n" ∧
    (∀ c ∈ ['\r', '\n'], c = '\r' ∨ c = '\n') ∧
    ∃ node, ofLine (Sample.entry.line (fun place => place % 2) ['\r', '\n']) = .ok node ∧
      Sample.entry.Describes node ∧ Usable node := by
  have breaks : ∀ c ∈ ['\r', '\n'], c = '\r' ∨ c = '\n' := by simp
  obtain ⟨written, usable⟩ := read_back
  obtain ⟨node, read, describes⟩ := written Sample.entry (fun place => place % 2) _ breaks
  exact ⟨by decide +kernel, breaks, node, read, describes, usable _ _ read⟩

end Node

end ClusterProxy
