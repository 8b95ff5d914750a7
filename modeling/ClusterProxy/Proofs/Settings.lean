import ClusterProxy.Proofs.Json
import ClusterProxy.Proofs.Seed

/-!
# Settings survive being written

Settings that were checked are written as an object and read back as what they were, but for the
delay, of which only the whole milliseconds are written (`Settings.rounded`). If fields are missing
in what is read, they keep their standard setting, and the others do not change
(`Settings.survives`).

Each field is taken on its own: what is written for it is read as one value (`reads_writeField`),
and that value sets the field and no other (`setField_fieldValue`).
-/

namespace ClusterProxy.Settings

/-- The settings with a delay that can be written: of the whole milliseconds, as many as a number of
64 bits can hold. -/
def rounded (settings : Settings) : Settings :=
  { settings with
    retryDelay := min (settings.retryDelay / 1000000) 18446744073709551615 * 1000000 }

/-- The settings `base`, with the fields in `kept` as they are in `settings`. -/
def overlay (base settings : Settings) (kept : List Field) : Settings where
  maxRedirects := if .maxRedirects ∈ kept then settings.maxRedirects else base.maxRedirects
  retryDelay := if .retryDelay ∈ kept then settings.retryDelay else base.retryDelay
  seeds := if .seeds ∈ kept then settings.seeds else base.seeds
  maxFrameSize := if .maxFrameSize ∈ kept then settings.maxFrameSize else base.maxFrameSize
  crossSlot := if .crossSlot ∈ kept then settings.crossSlot else base.crossSlot

/-- Writes settings without the fields that are not kept. -/
def write (settings : Settings) (kept : List Field) : String :=
  String.ofList (Json.writeObject (kept.map fun field => (field.name, settings.writeField field)))

/-! ## One field -/

/-- What the written value of a field is read as. -/
def fieldValue (settings : Settings) : Field → Json.Value
  | .maxRedirects => .number (Json.writeNatural settings.maxRedirects.toNat)
  | .retryDelay => .number (Json.writeNatural settings.delayMillis)
  | .seeds => .array (settings.seeds.map fun seed => .text (seed.toList.map Json.pieceOf))
  | .maxFrameSize => .number (Json.writeNatural settings.maxFrameSize)
  | .crossSlot => .text ((policyName settings.crossSlot).toList.map Json.pieceOf)

/-- The settings `base`, with one field as it is in `settings`. -/
def take (base settings : Settings) : Field → Settings
  | .maxRedirects => { base with maxRedirects := settings.maxRedirects }
  | .retryDelay => { base with retryDelay := settings.retryDelay }
  | .seeds => { base with seeds := settings.seeds }
  | .maxFrameSize => { base with maxFrameSize := settings.maxFrameSize }
  | .crossSlot => { base with crossSlot := settings.crossSlot }

variable {base settings checked : Settings}

theorem reads_writeField (settings : Settings) (field : Field) :
    Json.Reads (settings.writeField field) (settings.fieldValue field) := by
  cases field with
  | maxRedirects => exact Json.reads_writeNatural _
  | retryDelay => exact Json.reads_writeNatural _
  | seeds => exact Json.reads_writeArray fun seed _ => Json.reads_writeText seed.toList
  | maxFrameSize => exact Json.reads_writeNatural _
  | crossSlot => exact Json.reads_writeText _

theorem naturalOf_writeNatural {bound n : Nat} (small : n < bound) :
    naturalOf bound (.number (Json.writeNatural n)) = some n := by
  rw [naturalOf, Json.writeNatural_eq, Text.digitsBelow?_toString small]

theorem textOf_map_pieceOf (text : String) :
    textOf (.text (text.toList.map Json.pieceOf)) = some text := by
  rw [textOf, Json.text?_map_pieceOf, Option.map_some, String.ofList_toList]

theorem delayMillis_lt (settings : Settings) : settings.delayMillis < bound64 := by
  unfold delayMillis bound64
  omega

theorem textsOf_seeds (seeds : List String) :
    textsOf (.array (seeds.map fun seed => .text (seed.toList.map Json.pieceOf))) = some seeds := by
  rw [textsOf]
  induction seeds with
  | nil => rfl
  | cons seed seeds ih =>
    rw [List.map_cons, List.mapM_cons, textOf_map_pieceOf, ih]
    rfl

/-- What was written for a field sets this field, and no other. -/
theorem setField_fieldValue (sized : settings.maxFrameSize < bound64) (base : Settings)
    (field : Field) :
    setField base field (settings.fieldValue field) = some (base.take settings.rounded field) := by
  cases field with
  | maxRedirects =>
    have small : settings.maxRedirects.toNat < bound32 := settings.maxRedirects.toNat_lt
    rw [fieldValue, setField, naturalOf_writeNatural small, Option.map_some]
    simp [take, rounded]
  | retryDelay =>
    rw [fieldValue, setField, naturalOf_writeNatural settings.delayMillis_lt, Option.map_some]
    rfl
  | seeds =>
    rw [fieldValue, setField, textsOf_seeds, Option.map_some]
    rfl
  | maxFrameSize =>
    rw [fieldValue, setField, naturalOf_writeNatural sized, Option.map_some]
    rfl
  | crossSlot =>
    have policy : policyOf (.text ((policyName settings.crossSlot).toList.map Json.pieceOf)) =
        some settings.crossSlot := by
      rw [policyOf, Json.text?_map_pieceOf]
      cases settings.crossSlot
      rfl
    rw [fieldValue, setField, policy, Option.map_some]
    rfl

/-! ## All fields -/

theorem Field.ofName?_name (field : Field) : Field.ofName? field.name.toList = some field := by
  cases field <;> decide

/-- A field that is read first is one more that is kept. -/
theorem overlay_take (base settings : Settings) (field : Field) (kept : List Field) :
    (base.take settings field).overlay settings kept = base.overlay settings (field :: kept) := by
  cases field <;> simp [overlay, take]

/-- If all fields are kept, nothing is left of the other settings. -/
theorem overlay_all (base settings : Settings) : base.overlay settings Field.all = settings := rfl

/-- Fields that stand there once each are read one after the other. -/
theorem ofFields?_map (sized : settings.maxFrameSize < bound64) {kept seen : List Field}
    (distinct : kept.Nodup) (fresh : ∀ field ∈ kept, field ∉ seen) (base : Settings) :
    ofFields? base seen
        (kept.map fun field => (field.name.toList.map Json.pieceOf, settings.fieldValue field)) =
      some (base.overlay settings.rounded kept) := by
  induction kept generalizing seen base with
  | nil => rfl
  | cons field kept ih =>
    obtain ⟨first, others⟩ := List.forall_mem_cons.1 fresh
    obtain ⟨once, distinct⟩ := List.nodup_cons.1 distinct
    have unseen : ∀ other ∈ kept, other ∉ field :: seen := fun other member =>
      List.not_mem_cons_of_ne_of_not_mem (fun same => once (same ▸ member)) (others other member)
    have rest := ih distinct unseen (base.take settings.rounded field)
    rw [List.map_cons, ofFields?, Json.text?_map_pieceOf]
    simp only [Option.bind_eq_bind, Option.bind_some, Field.ofName?_name, List.contains_eq_mem,
      first, decide_false, Bool.false_eq_true, if_false, setField_fieldValue sized]
    rw [rest, overlay_take]

/-- Standard settings and settings that were checked can be mixed. -/
theorem validate_overlay (valid : settings.validate = .ok checked) (kept : List Field) :
    (standard.overlay checked.rounded kept).validate =
      .ok (standard.overlay checked.rounded kept) := by
  obtain ⟨positive, _⟩ := validate_eq_ok_iff.1 (validate_of_validate valid)
  have normal := mapM_normalize_of_validate valid
  refine validate_eq_ok_iff.2 ⟨?_, _, ?_, rfl⟩
  · dsimp only [overlay]
    split
    · exact positive
    · decide
  · dsimp only [overlay]
    split
    · exact normal
    · rfl

/-- What is written with some of the fields is read with these, and checked again. -/
theorem ofJson_write (valid : settings.validate = .ok checked)
    (sized : checked.maxFrameSize < bound64) {kept : List Field} (distinct : kept.Nodup) :
    ofJson (checked.write kept) = .ok (standard.overlay checked.rounded kept) := by
  have object := @Json.reads_writeObject Field Field.name checked.writeField checked.fieldValue kept
    fun field _ => checked.reads_writeField field
  have fields := @ofFields?_map checked sized kept [] distinct (by simp) standard
  rw [ofJson, write, String.toList_ofList, object.read?, Option.bind_some, ofValue?, fields]
  exact validate_overlay valid kept

/-- A delay that was rounded is written as it was before. -/
theorem delayMillis_rounded (settings : Settings) :
    settings.rounded.delayMillis = settings.delayMillis := by
  unfold delayMillis rounded millisecond bound64
  dsimp only
  rw [Nat.mul_div_cancel _ (by decide)]
  omega

theorem toJson_rounded (settings : Settings) : settings.rounded.toJson = settings.toJson := by
  have same (field : Field) : settings.rounded.writeField field = settings.writeField field := by
    cases field with
    | retryDelay => rw [writeField, delayMillis_rounded, writeField]
    | _ => rfl
  unfold toJson
  simp only [same]

/-- How settings survive being written.

* `read`: they are read back with the delay rounded, and all else as it was.
* `again`: what was read is written as before.
* `missing`: if only some fields stand there, in whatever order, these are read as they were, and
  the others have their standard setting. -/
structure Survives (settings : Settings) : Prop where
  read : ofJson settings.toJson = .ok settings.rounded
  again : settings.rounded.toJson = settings.toJson
  missing : ∀ kept : List Field, kept.Nodup →
    ofJson (settings.write kept) = .ok (standard.overlay settings.rounded kept)

/-- Settings that were checked survive being written, if the frame size is a number of 64 bits. -/
theorem survives (valid : settings.validate = .ok checked)
    (sized : checked.maxFrameSize < 18446744073709551616) : checked.Survives where
  read := by
    have whole := @ofJson_write settings checked valid sized Field.all (by decide)
    rw [overlay_all] at whole
    exact whole
  again := checked.toJson_rounded
  missing _ distinct := ofJson_write valid sized distinct

namespace Sample

/-- Settings with the largest numbers there are, and a seed whose host has to be escaped. -/
def extreme : Settings :=
  ⟨4294967295, 18446744073709551615999999999, ["redis://a\"b"], 18446744073709551615, .reject⟩

/-- The settings when they are checked. -/
def settled : Settings := { extreme with seeds := ["a\"b:6379"] }

end Sample

/-- The longest delay is cut, and the seed is read back. -/
theorem survives_extreme :
    Sample.extreme.validate = .ok Sample.settled ∧
      Sample.settled.maxFrameSize < 18446744073709551616 ∧ Sample.settled.Survives ∧
      ofJson Sample.settled.toJson =
        .ok { Sample.settled with retryDelay := 18446744073709551615000000 } ∧
      ofJson (Sample.settled.write [.seeds]) = .ok { standard with seeds := ["a\"b:6379"] } := by
  have valid : Sample.extreme.validate = .ok Sample.settled := by decide +kernel
  have sized : Sample.settled.maxFrameSize < 18446744073709551616 := by decide
  have survives := Settings.survives valid sized
  exact ⟨valid, sized, survives, survives.read, survives.missing [.seeds] (by decide)⟩

end ClusterProxy.Settings
