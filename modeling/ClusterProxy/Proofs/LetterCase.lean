import ClusterProxy.Proofs.Command
import ClusterProxy.Proofs.Frame.Message
import ClusterProxy.Proofs.Splitting

/-!
# Commands in any letter case

A name is looked for among the commands of its own length only, and found to be the one command that
has the name in upper case, if there is one (`Command.Classifies`). What stands in the table at the
number of the identifier is that command. So two names that differ in the case of letters
(`Bytes.Recased`) are those of the same command.

A request in which the name of the command is spelled in another letter case is read as before
(`Request.Alike`). It is a frame with the same places, since no octet is added or taken away
(`Frame.Tree.exists_renamed`).
-/

namespace ClusterProxy

/-! ## Letter case -/

namespace Bytes

theorem isLower_iff {b : UInt8} : isLower b ↔ 97 ≤ b.toNat ∧ b.toNat ≤ 122 := by
  simp [isLower, UInt8.le_iff_toNat_le]

theorem upper_upper (b : UInt8) : upper (upper b) = upper b := by
  by_cases lower : isLower b
  · have bounds := isLower_iff.1 lower
    have upper_b : upper b = b - 32 := if_pos lower
    have folded : ¬ isLower (b - 32) := by
      simp [isLower, UInt8.le_iff_toNat_le, UInt8.toNat_sub]
      omega
    rw [upper_b]
    exact if_neg folded
  · have upper_b : upper b = b := if_neg lower
    rw [upper_b, upper_b]

/-- An octet and one that stands for a small letter of which it is the capital. -/
def Capitals (b c : UInt8) : Prop := (97 ≤ c.toNat ∧ c.toNat ≤ 122) ∧ b = c - 32

/-- The same octets but for the case of ASCII letters. -/
def Recased (one two : Bytes) : Prop :=
  List.Forall₂ (fun b c => b = c ∨ Capitals b c ∨ Capitals c b) one two

theorem upper_eq_upper_iff {b c : UInt8} :
    upper b = upper c ↔ b = c ∨ Capitals b c ∨ Capitals c b := by
  constructor
  · intro same
    unfold upper at same
    split at same <;> split at same
    · exact .inl ((UInt8.sub_left_inj _).1 same)
    · next lower _ => exact .inr (.inr ⟨isLower_iff.1 lower, same.symm⟩)
    · next lower => exact .inr (.inl ⟨isLower_iff.1 lower, same⟩)
    · exact .inl same
  · have fold {letter : UInt8} (lower : isLower letter) : upper (letter - 32) = upper letter := by
      have folded : upper letter = letter - 32 := if_pos lower
      rw [← folded, upper_upper]
    rintro (rfl | ⟨lower, rfl⟩ | ⟨lower, rfl⟩)
    · rfl
    · exact fold (isLower_iff.2 lower)
    · exact (fold (isLower_iff.2 lower)).symm

theorem recased_iff {one two : Bytes} : one.Recased two ↔ one.map upper = two.map upper := by
  simp only [Recased, ← upper_eq_upper_iff]
  rw [← List.forall₂_eq_eq_eq, List.forall₂_map_left_iff, List.forall₂_map_right_iff]

theorem Recased.length_eq {one two : Bytes} (recased : one.Recased two) :
    two.length = one.length := (List.Forall₂.length_eq recased).symm

end Bytes

/-! ## Identifiers -/

namespace Command

theorem answersTo_of_recased {one two : Bytes} (recased : one.Recased two) (command : Command) :
    command.answersTo one = command.answersTo two := by
  rw [answersTo, answersTo, Bytes.recased_iff.1 recased]

theorem classify_of_recased {one two : Bytes} (recased : one.Recased two) :
    classify one = classify two := by
  simp only [classify_eq, answersTo_of_recased recased]

theorem find?_of_recased {one two : Bytes} (recased : one.Recased two) : find? one = find? two := by
  rw [find?, find?, classify_of_recased recased]

/-- The command of a name is the one with the identifier of the name. -/
theorem find?_eq_some_iff_id {name : Bytes} {command : Command} :
    find? name = some command ↔ command ∈ all ∧ command.id = classify name := by
  rw [find?_eq, classify_eq]
  cases found : all.find? fun command => command.answersTo name with
  | none =>
    simp only [reduceCtorEq, Option.map_none, Option.getD_none, false_iff, not_and]
    intro listed unknown
    have stands := getElem?_number listed
    simp [unknown, getElem?_unknown] at stands
  | some other =>
    have given := List.mem_of_find?_eq_some found
    simp only [Option.some.injEq, Option.map_some, Option.getD_some]
    constructor
    · rintro rfl
      exact ⟨given, rfl⟩
    · rintro ⟨listed, same⟩
      have stands := getElem?_number listed
      rw [same, getElem?_number given] at stands
      exact Option.some.inj stands

/-- What a name is found to be: the identifier of the one command with the name in upper case, or
`unknown` if there is no such command. What is looked up by the identifier are the name and the
shape of that command, and nothing is found for `unknown`. -/
inductive Classifies (name : Bytes) : Id → Prop
  | known {command : Command} {place : Nat} (stands : all[place]? = some command)
      (called : Text.utf8 command.name = name.map Bytes.upper)
      (only : ∀ (other : Command) (row : Nat), all[row]? = some other →
        Text.utf8 other.name = name.map Bytes.upper → row = place)
      (name_found : command.id.name? = some command.name)
      (shape_found : command.id.shape? = some command.shape) : Classifies name command.id
  | unknown (none_called : ∀ other ∈ all, Text.utf8 other.name ≠ name.map Bytes.upper)
      (no_name : Id.unknown.name? = none) (no_shape : Id.unknown.shape? = none) :
      Classifies name .unknown

theorem classifies_classify (name : Bytes) : Classifies name (classify name) := by
  rw [classify_eq]
  cases found : all.find? fun command => command.answersTo name with
  | none =>
    refine .unknown (fun other listed called => ?_) ?_ ?_
    · exact List.find?_eq_none.1 found other listed (answersTo_iff.2 called)
    · rw [Id.name?, getElem?_unknown, Option.map_none]
    · rw [Id.shape?, getElem?_unknown, Option.map_none]
  | some command =>
    have listed := List.mem_of_find?_eq_some found
    have called : command.answersTo name := by simpa using List.find?_some found
    obtain ⟨place, stands⟩ := List.mem_iff_getElem?.1 listed
    refine .known stands (answersTo_iff.1 called) ?_ (name?_id listed) (shape?_id listed)
    intro other row given named
    obtain rfl := eq_of_answersTo (List.mem_of_getElem? given) listed (answersTo_iff.2 named) called
    exact (number_of_getElem? given).symm.trans (number_of_getElem? stands)

end Command

/-! ## Requests -/

namespace Frame.Tree

/-- In a tree whose first element is a bulk, the body of that element can be replaced by any other
one of its length. All places stay. -/
theorem exists_renamed {tree : Tree} {name : Bytes} {args : List (Option Bytes)}
    (held : tree.children.map body? = some name :: args) :
    ∃ front back, tree.bytes = front ++ (name ++ back) ∧
      ∀ other : Bytes, other.length = name.length →
        ∃ renamed : Tree, renamed.bytes = front ++ (other ++ back) ∧ renamed.frame = tree.frame ∧
          renamed.children.map body? = some other :: args ∧
          ∀ limit, tree.Fits limit → renamed.Fits limit := by
  cases tree with
  | array header count elements declares =>
    cases count with
    | zero => simp [children] at held
    | succ count =>
      rw [children, List.ofFn_succ, List.map_cons] at held
      obtain ⟨first, later⟩ := List.cons.inj held
      cases called : elements 0 with
      | bulk length body lasts =>
        obtain rfl : body = name := by simpa [called, body?] using first
        refine ⟨Kind.array.mark :: (header ++ Kind.bulk.mark :: length), Bytes.crlf ++
          ((List.ofFn fun i : Fin count => elements i.succ).map bytes).flatten, ?_, ?_⟩
        · simp [List.ofFn_succ, called, bytes, Function.comp_def]
        intro other same
        have tall : (bulk length other (same ▸ lasts)).bytes.length =
            (bulk length body lasts).bytes.length := by simp [bytes, same]
        refine ⟨.array header (count + 1) (Fin.cons (.bulk length other (same ▸ lasts)) fun i =>
          elements i.succ) declares, ?_, ?_, ?_, fun limit fits => ?_⟩
        · simp [List.ofFn_succ, bytes, Function.comp_def]
        · simp [frame, content, bytes_array, List.ofFn_succ, called, itemsFrom, kind, span?,
            isNull, tall, same]
        · simpa [children, List.ofFn_succ, body?] using later
        · refine ⟨?_, ?_, fun n member => fits.counts n ?_⟩
          · have short := fits.length
            simpa [bytes_array, List.ofFn_succ, called, tall] using short
          · have flat := depth_array_le_iff.1 fits.depth
            refine depth_array_le_iff.2 fun i => ?_
            cases i using Fin.cases with
            | zero => simp [depth]
            | succ i => simpa using flat i.succ
          · rw [mem_counts_array] at member ⊢
            refine member.imp_right ?_
            rintro ⟨i, listed⟩
            cases i using Fin.cases with
            | zero => simp [counts] at listed
            | succ i => exact ⟨i.succ, by simpa using listed⟩
      | _ => simp [called, body?] at first
  | _ => simp [children] at held

end Frame.Tree

namespace Request

/-- What two requests with these names come to is the same command with the same groups of keys, or
the same fault, up to the name that is told to be unknown. -/
inductive Alike (name other : Bytes) : Except Fault Request → Except Fault Request → Prop
  | accepted {one two : Request} (command : one.command = two.command)
      (groups : one.groups = two.groups) : Alike name other (.ok one) (.ok two)
  | refused (fault : Fault) : Alike name other (.error fault) (.error fault)
  | unknown : Alike name other (.error (.unknownCommand (Text.ofUtf8Lossy name)))
      (.error (.unknownCommand (Text.ofUtf8Lossy other)))

variable {name other : Bytes} {args : List (Option Bytes)}

theorem alike_of_recased (recased : name.Recased other) {one two : Decoded}
    (arrays : one.frame.isBulkArray = two.frame.isBulkArray)
    (first : one.elements = some name :: args) (second : two.elements = some other :: args) :
    Alike name other (ofDecoded one) (ofDecoded two) := by
  unfold ofDecoded
  rw [arrays, first, second]
  cases two.frame.isBulkArray with
  | false => exact .refused _
  | true =>
    simp only [Bool.not_true, Bool.false_eq_true, if_false, ← Command.find?_of_recased recased]
    cases Command.find? name with
    | none => exact .unknown
    | some command =>
      dsimp only
      cases itemsOf command args with
      | error fault => exact .refused fault
      | ok items => exact .accepted rfl rfl

/-- A request whose command is spelled in another letter case is decoded and read as before. -/
theorem exists_recased {decoder rest : Decoder} {decoded : Decoded}
    (given : decoder.next = (.complete decoded, rest))
    (named : decoded.elements = some name :: args) :
    ∃ front back, decoded.bytes = front ++ (name ++ back) ∧ ∀ other, name.Recased other →
      ∃ again : Decoded, again.bytes = front ++ (other ++ back) ∧ again.frame = decoded.frame ∧
        again.elements = some other :: args ∧
        Decoder.next ⟨decoder.limit, again.bytes ++ rest.buffer⟩ = (.complete again, rest) ∧
        Alike name other (ofDecoded decoded) (ofDecoded again) := by
  have left : rest = ⟨decoder.limit, rest.buffer⟩ := by
    obtain ⟨-, -, rfl⟩ := Decoder.next_eq_complete_iff.1 given
    rfl
  obtain ⟨tree, fits, rfl⟩ := Decoder.exists_tree_of_next given
  rw [tree.elements_decoded] at named
  obtain ⟨front, back, bytes, renames⟩ := Frame.Tree.exists_renamed named
  refine ⟨front, back, bytes, fun other recased => ?_⟩
  obtain ⟨renamed, octets, same, held, room⟩ := renames other recased.length_eq
  have elements : renamed.decoded.elements = some other :: args := by
    rw [renamed.elements_decoded, held]
  refine ⟨renamed.decoded, octets, same, elements, ?_, ?_⟩
  · have next := Frame.Tree.next_decoded (room _ fits) rest.buffer
    rwa [← left] at next
  · refine alike_of_recased recased ?_ (by rw [tree.elements_decoded, named]) elements
    rw [show renamed.decoded.frame = tree.decoded.frame from same]

end Request

/-- The search for a name among those of its length agrees with a plain one, and takes the name in
any letter case.

* It finds the identifier of the only command with the name in upper case, or `unknown` if there is
  no such command (`Command.Classifies`). A request has the command with that identifier.
* The table is sorted by the lengths of the names, no two commands have the same name, and each
  stands at the number of its identifier.
* Names that differ in the case of letters are those of the same command.
* Frames that differ so in their first elements come to the same command with the same groups, or to
  the same fault, up to the unknown name (`Request.Alike`). If one of them is given by a decoder,
  so is the other, with all other octets as they are. -/
theorem Command.classified :
    (∀ name, Classifies name (classify name) ∧
      ∀ command, find? name = some command ↔ command ∈ all ∧ command.id = classify name) ∧
    (all.Pairwise fun one two => one.width ≤ two.width) ∧
    (all.map fun command => Text.utf8 command.name).Nodup ∧
    (∀ (place : Nat) (command : Command), all[place]? = some command →
      command.id.number = place) ∧
    (∀ one two : Bytes, one.Recased two → classify one = classify two) ∧
    (∀ (name other : Bytes) (args : List (Option Bytes)) (one two : Decoded),
      name.Recased other → one.frame.isBulkArray = two.frame.isBulkArray →
      one.elements = some name :: args → two.elements = some other :: args →
        Request.Alike name other (Request.ofDecoded one) (Request.ofDecoded two)) ∧
    ∀ (decoder rest : Decoder) (decoded : Decoded) (name : Bytes) (args : List (Option Bytes)),
      decoder.next = (.complete decoded, rest) → decoded.elements = some name :: args →
      ∃ front back, decoded.bytes = front ++ (name ++ back) ∧ ∀ other, name.Recased other →
        ∃ again : Decoded, again.bytes = front ++ (other ++ back) ∧
          again.frame = decoded.frame ∧ again.elements = some other :: args ∧
          Decoder.next ⟨decoder.limit, again.bytes ++ rest.buffer⟩ = (.complete again, rest) ∧
          Request.Alike name other (Request.ofDecoded decoded) (Request.ofDecoded again) := by
  refine ⟨fun name => ⟨classifies_classify name, fun command => find?_eq_some_iff_id⟩, sorted_all,
    nodup_names, fun place command => number_of_getElem?, fun one two => classify_of_recased, ?_,
    ?_⟩
  · intro name other args one two recased arrays first second
    exact Request.alike_of_recased recased arrays first second
  · intro decoder rest decoded name args given named
    exact Request.exists_recased given named

namespace Request.Sample

/-- The client's request with its command in another spelling. -/
def respelled : Decoded := { decoded with
  bytes := decoded.bytes.take 10 ++ (Text.utf8 "MSet" ++ decoded.bytes.drop 14) }

/-- The arguments of the client's request. -/
def args : List (Option Bytes) :=
  [Text.utf8 "a", [], Text.utf8 "b", Bytes.crlf, Text.utf8 "a", Text.utf8 "2"].map some

end Request.Sample

open Request.Sample in
theorem Command.classified_mixed :
    (Text.utf8 "mSeT").Recased (Text.utf8 "MSet") ∧
    classify (Text.utf8 "mSeT") = classify (Text.utf8 "MSet") ∧
    classify (Text.utf8 "mSeT") = .mset ∧ Id.mset.name? = some "MSET" ∧
    Id.mset.shape? = some .pairs ∧ all[Id.mset.number]? = some ⟨.mset, "MSET", .pairs⟩ ∧
    Id.mset.number = 21 ∧
    decoded.frame.isBulkArray = respelled.frame.isBulkArray ∧
    decoded.elements = some (Text.utf8 "mSeT") :: args ∧
    respelled.elements = some (Text.utf8 "MSet") :: args ∧
    Request.Alike (Text.utf8 "mSeT") (Text.utf8 "MSet") (Request.ofDecoded decoded)
      (Request.ofDecoded respelled) ∧
    client.next = (.complete decoded, .empty 60) ∧
    ∃ front back, decoded.bytes = front ++ (Text.utf8 "mSeT" ++ back) ∧
      ∃ again : Decoded, again.bytes = front ++ (Text.utf8 "MSet" ++ back) ∧
        again.frame = decoded.frame ∧ again.elements = some (Text.utf8 "MSet") :: args ∧
        Decoder.next ⟨60, again.bytes ++ []⟩ = (.complete again, .empty 60) ∧
        Request.Alike (Text.utf8 "mSeT") (Text.utf8 "MSet") (Request.ofDecoded decoded)
          (Request.ofDecoded again) := by
  have recased : (Text.utf8 "mSeT").Recased (Text.utf8 "MSet") := Bytes.recased_iff.2 (by decide)
  have stands : all[Id.mset.number]? = some ⟨.mset, "MSET", .pairs⟩ := by decide +kernel
  have given : client.next = (.complete decoded, .empty 60) := by decide +kernel
  have first : decoded.elements = some (Text.utf8 "mSeT") :: args := by decide +kernel
  have second : respelled.elements = some (Text.utf8 "MSet") :: args := by decide +kernel
  obtain ⟨-, -, -, numbered, alike, frames, wire⟩ := Command.classified
  obtain ⟨front, back, bytes, respells⟩ := wire _ _ _ _ _ given first
  exact ⟨recased, alike _ _ recased, by decide +kernel, by decide +kernel, by decide +kernel,
    stands, numbered _ _ stands, rfl, first, second, frames _ _ _ _ _ recased rfl first second,
    given, front, back, bytes, respells _ recased⟩

end ClusterProxy
