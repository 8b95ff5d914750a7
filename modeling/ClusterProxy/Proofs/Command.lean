import ClusterProxy.Command.Basic
import Mathlib.Data.List.Find
import Mathlib.Data.List.Nodup

/-!
# A command is found by its name

The table of commands is sorted by the lengths of the names, no name stands in it twice, and each is
in upper case. So the names of one length stand together, the binary search leads to them, and what
is found among them is what a search through the whole table finds (`Command.classify_eq`).

A command stands at the place that is the number of its identifier (`Command.getElem?_number`). So
what is looked up by the identifier is the command that was found (`Command.find?_eq_some_iff`).
-/

namespace ClusterProxy

/-- In rows that are sorted by a number, those of one number are found by passing over the smaller
ones and stopping at the first larger one. -/
theorem takeWhile_dropWhile_of_sorted {α : Type} (key : α → Nat) (n : Nat) {rows : List α}
    (sorted : rows.Pairwise fun one two => key one ≤ key two) :
    (rows.dropWhile fun row => decide (key row < n)).takeWhile (fun row => decide (key row = n)) =
      rows.filter fun row => decide (key row = n) := by
  induction rows with
  | nil => rfl
  | cons row rows ih =>
    obtain ⟨first, later⟩ := List.pairwise_cons.1 sorted
    rcases Nat.lt_trichotomy (key row) n with small | same | large
    · rw [List.dropWhile_cons_of_pos (by simpa using small), ih later,
        List.filter_cons_of_neg (by simp; omega)]
    · -- No later row is passed over, since none is smaller.
      have stays : rows.dropWhile (fun row => decide (key row < n)) = rows := by
        cases rows with
        | nil => rfl
        | cons next rows =>
          have := first next List.mem_cons_self
          exact List.dropWhile_cons_of_neg (by simp; omega)
      have behind := ih later
      rw [stays] at behind
      rw [List.dropWhile_cons_of_neg (by simp; omega), List.takeWhile_cons_of_pos (by simpa),
        List.filter_cons_of_pos (by simpa), behind]
    · have others : rows.filter (fun row => decide (key row = n)) = [] := by
        refine List.filter_eq_nil_iff.2 fun other member => ?_
        have := first other member
        simp
        omega
      rw [List.dropWhile_cons_of_neg (by simp; omega), List.takeWhile_cons_of_neg (by simp; omega),
        List.filter_cons_of_neg (by simp; omega), others]

namespace Command

/-! ## The table -/

/-- What the table was written to be: sorted by the lengths of the names, with names in upper case
that differ, and with every command at the number of its identifier. -/
theorem all_in_order :
    (all.map width).IsChain (· ≤ ·) ∧
      (∀ command ∈ all, (Text.utf8 command.name).map Bytes.upper = Text.utf8 command.name) ∧
      (all.Pairwise fun one two =>
        one.width = two.width → Text.utf8 one.name ≠ Text.utf8 two.name) ∧
      all.map (fun command => command.id.number) = List.range Id.unknown.number := by
  decide +kernel

theorem sorted_all : all.Pairwise fun one two => one.width ≤ two.width :=
  List.pairwise_map.1 (List.isChain_iff_pairwise.1 all_in_order.1)

theorem upper_name {command : Command} (listed : command ∈ all) :
    (Text.utf8 command.name).map Bytes.upper = Text.utf8 command.name :=
  all_in_order.2.1 command listed

/-- No two rows have the same name. -/
theorem nodup_names : (all.map fun command => Text.utf8 command.name).Nodup := by
  refine List.pairwise_map.2 (all_in_order.2.2.1.imp fun differ same => ?_)
  exact differ (congrArg List.length same) same

/-- The number behind the table is the one of no command. -/
theorem length_all : all.length = Id.unknown.number := by
  simpa using congrArg List.length all_in_order.2.2.2

theorem number_of_getElem? {command : Command} {place : Nat}
    (stands : all[place]? = some command) : command.id.number = place := by
  have numbered := congrArg (fun numbers => numbers[place]?) all_in_order.2.2.2
  simp only [List.getElem?_map, stands, Option.map_some] at numbered
  obtain ⟨_, same⟩ := List.getElem?_eq_some_iff.1 numbered.symm
  rw [List.getElem_range] at same
  exact same.symm

/-- A command stands at the number of its identifier. -/
theorem getElem?_number {command : Command} (listed : command ∈ all) :
    all[command.id.number]? = some command := by
  obtain ⟨place, stands⟩ := List.mem_iff_getElem?.1 listed
  rwa [number_of_getElem? stands]

/-! ## The search -/

theorem answersTo_iff {command : Command} {name : Bytes} :
    command.answersTo name ↔ Text.utf8 command.name = name.map Bytes.upper := beq_iff_eq

theorem width_of_answersTo {command : Command} {name : Bytes} (called : command.answersTo name) :
    command.width = name.length := by
  rw [width, answersTo_iff.1 called, List.length_map]

theorem sameLetters_name {command : Command} (listed : command ∈ all) (name : Bytes) :
    Bytes.sameLetters (Text.utf8 command.name) name = command.answersTo name := by
  rw [Bytes.sameLetters, upper_name listed, answersTo]

/-- At most one command is called by a name. -/
theorem eq_of_answersTo {one two : Command} {name : Bytes} (first : one ∈ all) (second : two ∈ all)
    (called : one.answersTo name) (again : two.answersTo name) : one = two :=
  List.inj_on_of_nodup_map nodup_names first second
    ((answersTo_iff.1 called).trans (answersTo_iff.1 again).symm)

/-- The commands that a name is compared with are those of its length. -/
theorem candidates_eq (n : Nat) :
    (all.drop (partitionPoint (fun command => decide (command.width < n)) all)).takeWhile
        (fun command => decide (command.width = n)) =
      all.filter fun command => decide (command.width = n) := by
  have parted : all.Pairwise fun one two =>
      decide (two.width < n) → decide (one.width < n) := by
    refine sorted_all.imp fun order small => ?_
    exact decide_eq_true (Nat.lt_of_le_of_lt order (of_decide_eq_true small))
  rw [drop_partitionPoint parted, takeWhile_dropWhile_of_sorted width n sorted_all]

/-- The identifier of a name is the one of the command that a search through the whole table
finds. -/
theorem classify_eq (name : Bytes) :
    classify name = ((all.find? fun command => command.answersTo name).map Command.id).getD
      .unknown := by
  have compared : (all.filter fun command => decide (command.width = name.length)).find?
      (fun command => Bytes.sameLetters (Text.utf8 command.name) name) =
      all.find? fun command => command.answersTo name := by
    rw [List.find?_filter]
    refine List.find?_congr fun command listed => ?_
    rw [sameLetters_name listed]
    cases called : command.answersTo name with
    | false => simp
    | true => simpa using width_of_answersTo called
  unfold classify
  dsimp only
  rw [candidates_eq, compared]
  cases all.find? fun command => command.answersTo name <;> rfl

theorem name?_id {command : Command} (listed : command ∈ all) :
    command.id.name? = some command.name := by
  rw [Id.name?, getElem?_number listed, Option.map_some]

theorem shape?_id {command : Command} (listed : command ∈ all) :
    command.id.shape? = some command.shape := by
  rw [Id.shape?, getElem?_number listed, Option.map_some]

theorem getElem?_unknown : all[Id.unknown.number]? = none :=
  List.getElem?_eq_none (Nat.le_of_eq length_all)

/-- What is looked up by the identifier is the command that was found. -/
theorem find?_eq (name : Bytes) :
    find? name = all.find? fun command => command.answersTo name := by
  rw [find?, classify_eq]
  cases found : all.find? fun command => command.answersTo name with
  | none => simp [Id.shape?, getElem?_unknown]
  | some command =>
    have listed := List.mem_of_find?_eq_some found
    simp [shape?_id listed, name?_id listed]

/-- The command of a name is the one that is called by the name, in any letter case. -/
theorem find?_eq_some_iff {name : Bytes} {command : Command} :
    find? name = some command ↔ command ∈ all ∧ command.answersTo name := by
  rw [find?_eq]
  constructor
  · intro found
    exact ⟨List.mem_of_find?_eq_some found, by simpa using List.find?_some found⟩
  · rintro ⟨listed, called⟩
    have some_found : (all.find? fun command => command.answersTo name).isSome :=
      List.find?_isSome.2 ⟨command, listed, called⟩
    obtain ⟨other, found⟩ := Option.isSome_iff_exists.1 some_found
    have again : other.answersTo name := by simpa using List.find?_some found
    rw [found, eq_of_answersTo (List.mem_of_find?_eq_some found) listed again called]

/-- No command is found if none is called by the name. -/
theorem find?_eq_none_iff {name : Bytes} :
    find? name = none ↔ ∀ command ∈ all, command.answersTo name = false := by
  simp only [Option.eq_none_iff_forall_ne_some, ne_eq, find?_eq_some_iff, not_and,
    Bool.not_eq_true]

end Command

end ClusterProxy
