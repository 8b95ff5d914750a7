import ClusterProxy.Proofs.Address
import ClusterProxy.Proofs.Ipv6
import ClusterProxy.Settings.Text

/-!
# Seeds in their normal form

The normal form of a seed is a host, a colon and a port (`Seed.Normal`). It is a seed itself, and
its own normal form. So settings that were checked are not changed when they are checked once more
(`Settings.checked_again`), as they are on the way from a text to a router.

The host is in a form of its own (`Host.Normal`): either all of its characters stand for themselves,
or it is the normal text of an IPv6 address in brackets. In both forms no character ends the host
early, so host and port are found again (`Url.ofChars?_normal`).
-/

namespace ClusterProxy

namespace Url

/-! ## Host and port -/

/-- A character that ends neither an address nor the host in it. -/
def isInner (c : Char) : Bool :=
  0x20 < c.toNat && c != '/' && c != '?' && c != '#' && c != '@'

theorem isInner_iff {c : Char} :
    isInner c ↔ 0x20 < c.toNat ∧ c ≠ '/' ∧ c ≠ '?' ∧ c ≠ '#' ∧ c ≠ '@' := by
  simp only [isInner, Bool.and_eq_true, decide_eq_true_eq, bne_iff_ne, and_assoc]

theorem splitPort_append {host : List Char} (plain : ∀ c ∈ host, c ≠ ':' ∧ c ≠ '[')
    (port : List Char) : splitPort false (host ++ ':' :: port) = (host, ':' :: port) := by
  induction host with
  | nil => rfl
  | cons c host ih =>
    obtain ⟨⟨no_colon, no_bracket⟩, others⟩ := List.forall_mem_cons.1 plain
    have stays : (c == '[' || (false && c != ']')) = false := by simp [no_bracket]
    rw [List.cons_append, splitPort, if_neg (by simp [no_colon]), stays, ih others]

/-- Colons in brackets belong to the host. -/
theorem splitPort_bracketed {host : List Char} (unclosed : ']' ∉ host) (port : List Char) :
    splitPort true (host ++ ']' :: ':' :: port) = (host ++ [']'], ':' :: port) := by
  induction host with
  | nil => rfl
  | cons c host ih =>
    rw [List.mem_cons, not_or] at unclosed
    have stays : (c == '[' || (true && c != ']')) = true := by simp [Ne.symm unclosed.1]
    rw [List.cons_append, splitPort, if_neg (by simp), stays, ih unclosed.2]
    rfl

end Url

namespace Host

/-! ## Hosts -/

/-- Hosts in their normal form: texts of characters that stand for themselves, and IPv6 addresses in
brackets. -/
inductive Normal : List Char → Prop
  | name {host : List Char} (some_char : host ≠ [])
      (plain : ∀ c ∈ host, isPrintable c ∧ c ∉ forbidden) : Normal host
  | address {address : Ipv6} (valid : address.Valid) : Normal ('[' :: address.toChars ++ [']'])

theorem plain_hexUpper {n : Nat} (small : n < 16) :
    isPrintable (hexUpper n) ∧ hexUpper n ∉ forbidden := by
  have all : ∀ n ∈ List.range 16, isPrintable (hexUpper n) ∧ hexUpper n ∉ forbidden := by decide
  exact all n (List.mem_range.2 small)

theorem plain_of_mem_percent {b : UInt8} {c : Char} (member : c ∈ percent b) :
    isPrintable c ∧ c ∉ forbidden := by
  have bound := b.toNat_lt
  simp only [percent, List.mem_cons, List.not_mem_nil, or_false] at member
  rcases member with rfl | rfl | rfl
  · decide
  · exact plain_hexUpper (by omega)
  · exact plain_hexUpper (by omega)

theorem plain_of_mem_escape {text : List Char} (allowed : ∀ c ∈ text, c ∉ forbidden) {c : Char}
    (member : c ∈ escape text) : isPrintable c ∧ c ∉ forbidden := by
  obtain ⟨source, listed, within⟩ := List.mem_flatMap.1 member
  split at within
  · next printable =>
    obtain rfl := List.mem_singleton.1 within
    exact ⟨printable, allowed c listed⟩
  · obtain ⟨b, _, octet⟩ := List.mem_flatMap.1 within
    exact plain_of_mem_percent octet

/-- Characters that stand for themselves are left alone. -/
theorem escape_of_printable {text : List Char} (printable : ∀ c ∈ text, isPrintable c) :
    escape text = text := by
  induction text with
  | nil => rfl
  | cons c text ih =>
    obtain ⟨first, others⟩ := List.forall_mem_cons.1 printable
    rw [escape, List.flatMap_cons, if_pos first]
    exact congrArg (c :: ·) (ih others)

/-- What is read as a host is in its normal form. -/
theorem normal_of_opaque? {name host : List Char} (some_char : name ≠ [])
    (read : opaque? name = some host) : Normal host := by
  have some_host := ne_nil_of_opaque? some_char read
  unfold opaque? bracketed? at read
  split at read
  · split at read
    · obtain ⟨address, valid, rfl⟩ := Option.map_eq_some_iff.1 read
      exact .address (Ipv6.valid_of_ofChars? valid)
    · simp at read
  · split at read
    · simp at read
    · next allowed =>
      obtain rfl := Option.some.inj read
      refine .name some_host fun c => plain_of_mem_escape fun c member forbid => allowed ?_
      exact List.any_eq_true.2 ⟨c, member, List.contains_iff_mem.2 forbid⟩

namespace Normal

variable {host : List Char} (normal : Normal host)
include normal

theorem ne_nil : host ≠ [] := by
  cases normal with
  | name some_char => exact some_char
  | address valid => exact List.cons_ne_nil _ _

/-- A host in its normal form is read as it stands. -/
theorem opaque?_eq : opaque? host = some host := by
  cases normal with
  | name some_char plain =>
    have allowed : ¬ host.any forbidden.contains := by
      rw [List.any_eq_true]
      rintro ⟨c, member, forbid⟩
      exact (plain c member).2 (List.contains_iff_mem.1 forbid)
    unfold opaque?
    split
    · next rest => exact absurd (plain '[' List.mem_cons_self).2 (by decide)
    · rw [if_neg allowed, escape_of_printable fun c member => (plain c member).1]
  | @address address valid =>
    have closed : (address.toChars ++ [']']).getLast? = some ']' := List.getLast?_concat
    rw [List.cons_append, opaque?, bracketed?, if_pos closed, List.dropLast_concat,
      Ipv6.ofChars?_toChars valid]
    rfl

/-- No character of a host in its normal form ends it or the address that it is part of. -/
theorem inner : ∀ c ∈ host, Url.isInner c := by
  cases normal with
  | name some_char plain =>
    intro c member
    obtain ⟨printable, allowed⟩ := plain c member
    have visible : c.toNat ≠ 0x20 := fun blank => by
      obtain rfl : c = ' ' := Char.toNat_inj.1 blank
      exact allowed (by decide)
    have unlike {mark : Char} (forbid : mark ∈ forbidden) : c ≠ mark := fun same =>
      allowed (same ▸ forbid)
    simp only [isPrintable, Bool.and_eq_true, decide_eq_true_eq] at printable
    exact Url.isInner_iff.2 ⟨by omega, unlike (by decide), unlike (by decide), unlike (by decide),
      unlike (by decide)⟩
  | @address address valid =>
    have digits : ∀ digit < 16, Url.isInner digit.digitChar := by decide
    simp only [List.mem_append, List.mem_cons, List.not_mem_nil, or_false]
    rintro c ((rfl | member) | rfl)
    · decide
    · by_cases colon : c = ':'
      · subst colon
        decide
      · obtain ⟨digit, small, rfl⟩ := Ipv6.exists_digitChar_of_mem_toChars colon member
        exact digits digit small
    · decide

/-- Behind a host in its normal form the port is found. -/
theorem splitPort_append (port : List Char) :
    Url.splitPort false (host ++ ':' :: port) = (host, ':' :: port) := by
  cases normal with
  | name some_char plain =>
    refine Url.splitPort_append (fun c member => ⟨?_, ?_⟩) port
    · rintro rfl
      exact (plain _ member).2 (by decide)
    · rintro rfl
      exact (plain _ member).2 (by decide)
  | @address address valid =>
    have unclosed : ']' ∉ address.toChars := fun member => by
      obtain ⟨digit, small, same⟩ := Ipv6.exists_digitChar_of_mem_toChars (by decide) member
      have other : ∀ digit < 16, ']' ≠ digit.digitChar := by decide
      exact other digit small same
    simp [Url.splitPort, Url.splitPort_bracketed unclosed]

end Normal

end Host

namespace Url

/-! ## Addresses -/

theorem strip_of_visible {text : List Char} (visible : ∀ c ∈ text, 0x20 < c.toNat) :
    strip text = text := by
  have no_edge : ∀ c ∈ text, isEdge c = false := fun c member => by
    have := visible c member
    simp [isEdge, this]
  have no_filler : ∀ c ∈ text, !isFiller c := fun c member => by
    have unlike {filler : Char} (blank : filler.toNat ≤ 0x20) : c ≠ filler := by
      rintro rfl
      exact absurd (visible c member) (Nat.not_lt.2 blank)
    have tab : c ≠ '\t' := unlike (by decide)
    have feed : c ≠ '\n' := unlike (by decide)
    have carriage : c ≠ '\r' := unlike (by decide)
    simp [isFiller, tab, feed, carriage]
  have front : text.dropWhile isEdge = text := Text.dropWhile_of_kept no_edge
  have back := Text.dropEndWhile_append no_edge (List.forall_mem_nil _)
  rw [List.append_nil] at back
  rw [strip, front, back, List.filter_eq_self]
  exact no_filler

theorem port?_toString {port : Nat} (small : port < portBound) :
    port? (':' :: (toString port).toList) = some (some port) := by
  have digits : (toString port).toList.takeWhile (fun c => c != '\\') = (toString port).toList :=
    List.takeWhile_eq_self_iff.2 (Text.bne_of_mem_toString (by decide))
  have some_digit : ¬ (toString port).toList.isEmpty := by
    rw [List.isEmpty_iff]
    exact Text.toList_toString_ne_nil port
  rw [port?, List.drop_one, List.tail_cons, digits, if_neg some_digit,
    Text.digitsBelow?_toString small]
  rfl

theorem isInner_of_isDigit {c : Char} (digit : c.isDigit) : isInner c := by
  have bounds : 48 ≤ c.toNat ∧ c.toNat ≤ 57 := Char.isDigit_iff_toNat.1 digit
  refine isInner_iff.2 ⟨by omega, ?_⟩
  refine ⟨?_, ?_, ?_, ?_⟩ <;> (rintro rfl; exact absurd digit (by decide))

theorem isInner_append {host : List Char} (normal : Host.Normal host) (port : Nat) :
    ∀ c ∈ host ++ ':' :: (toString port).toList, isInner c := by
  intro c member
  rcases List.mem_append.1 member with inside | behind
  · exact normal.inner c inside
  · rcases List.mem_cons.1 behind with rfl | digit
    · decide
    · exact isInner_of_isDigit (Text.isDigit_of_mem_toString c digit)

theorem ofAuthority?_normal {host : List Char} {port : Nat} (normal : Host.Normal host)
    (small : port < portBound) (scheme : List Char) :
    ofAuthority? scheme false (host ++ ':' :: (toString port).toList) =
      some ⟨String.ofList scheme, some (String.ofList host), some port⟩ := by
  have inner := isInner_append normal port
  have cut := normal.splitPort_append (toString port).toList
  generalize host ++ ':' :: (toString port).toList = text at inner cut
  have whole : (text.takeWhile fun c => !endsAuthority false c) = text := by
    refine List.takeWhile_eq_self_iff.2 fun c member => ?_
    obtain ⟨_, slash, query, hash, _⟩ := isInner_iff.1 (inner c member)
    simp [endsAuthority, slash, query, hash]
  have no_user : '@' ∉ text := fun member => absurd (inner _ member) (by decide)
  have userless : splitUser text = ([], text) := by
    have none : text.reverse.dropWhile (fun c => c != '@') = [] := by
      rw [List.dropWhile_eq_nil_iff]
      intro c member
      exact bne_iff_ne.2 (ne_of_mem_of_not_mem (List.mem_reverse.1 member) no_user)
    rw [splitUser, none]
  have other : text ≠ ['@'] := by
    rintro rfl
    exact no_user List.mem_cons_self
  have some_host : host.isEmpty = false := by simp [normal.ne_nil]
  unfold ofAuthority?
  simp only [whole, userless, cut, other, some_host, normal.opaque?_eq, port?_toString small]
  rfl

theorem ofChars?_normal {host : List Char} {port : Nat} (normal : Host.Normal host)
    (small : port < portBound) :
    ofChars? ("redis://".toList ++ (host ++ ':' :: (toString port).toList)) =
      some ⟨Seed.scheme, some (String.ofList host), some port⟩ := by
  have visible : ∀ c ∈ "redis://".toList ++ (host ++ ':' :: (toString port).toList),
      0x20 < c.toNat := by
    intro c member
    rcases List.mem_append.1 member with front | back
    · have all : ∀ c ∈ "redis://".toList, 0x20 < c.toNat := by simp
      exact all c front
    · exact (isInner_iff.1 (isInner_append normal port c back)).1
  have scheme : scheme? ("redis://".toList ++ (host ++ ':' :: (toString port).toList)) =
      some ("redis".toList, "//".toList ++ (host ++ ':' :: (toString port).toList)) := rfl
  rw [ofChars?, strip_of_visible visible, scheme]
  dsimp only
  rw [String.ofList_toList, if_neg (by decide), if_neg (by decide)]
  exact ofAuthority?_normal normal small "redis".toList

end Url

namespace Seed

/-! ## Seeds -/

/-- The normal form of a seed: a host, a colon and a port, which is a decimal number below the bound
without leading zeros. There is no mark of a scheme in it, and it is its own normal form. -/
structure Normal (address : String) : Prop where
  parts : ∃ host port : List Char, address.toList = host ++ ':' :: port ∧ host ≠ [] ∧
    port ≠ [] ∧ (∀ c ∈ port, c.isDigit) ∧ (port.head? = some '0' → port = ['0']) ∧
    Nat.ofDigitChars 10 port 0 < 65536
  no_scheme : ¬ "://".toList <:+: address.toList
  again : normalize address = .ok address

theorem slash_mem_of_hasScheme {text : List Char} (marked : hasScheme text) : '/' ∈ text := by
  fun_induction hasScheme with
  | case1 => simp
  | case2 c rest _ ih => exact List.mem_cons_of_mem _ (ih marked)
  | case3 => exact absurd marked Bool.false_ne_true

theorem normalize_normal {address : String} {host : List Char} {port : Nat}
    (normal : Host.Normal host) (small : port < Url.portBound)
    (split : address.toList = host ++ ':' :: (toString port).toList) :
    normalize address = .ok address := by
  have no_slash : '/' ∉ address.toList := fun member => by
    rw [split] at member
    exact absurd (Url.isInner_append normal port _ member) (by decide)
  have bare : withScheme address =
      "redis://".toList ++ (host ++ ':' :: (toString port).toList) := by
    rw [withScheme, if_neg fun marked => no_slash (slash_mem_of_hasScheme marked), split]
    rfl
  have whole : String.ofList host ++ ":" ++ toString port = address := by
    rw [← String.toList_inj, split]
    simp
  rw [normalize, bare, Url.ofChars?_normal normal small]
  dsimp only
  rw [if_neg (by simp), Option.getD_some, whole]

theorem normal_of_normalize {seed address : String} (read : normalize seed = .ok address) :
    Normal address := by
  obtain ⟨name, host, port, some_char, named, small, split⟩ := parts_of_normalize read
  have normal := Host.normal_of_opaque? some_char named
  have again := normalize_normal normal small split
  refine ⟨⟨host, _, split, normal.ne_nil, Text.toList_toString_ne_nil port,
    Text.isDigit_of_mem_toString, Text.toString_of_head?_eq_zero, ?_⟩, fun marked => ?_, again⟩
  · rw [Text.ofDigitChars_toString]
    exact small
  · have slash : '/' ∈ address.toList := marked.subset (by decide)
    rw [split] at slash
    exact absurd (Url.isInner_append normal port _ slash) (by decide)

end Seed

namespace Settings

/-! ## Settings -/

variable {settings checked : Settings}

theorem validate_eq_ok_iff :
    settings.validate = .ok checked ↔ settings.maxFrameSize ≠ 0 ∧
      ∃ seeds, settings.seeds.mapM Seed.normalize = .ok seeds ∧
        checked = { settings with seeds } := by
  unfold validate
  split
  · next zero => simp [zero]
  · next positive =>
    cases settings.seeds.mapM Seed.normalize with
    | error fault => simp
    | ok seeds => simp [positive, eq_comm]

/-- The seeds of settings that were checked are left alone. -/
theorem mapM_normalize_of_validate (valid : settings.validate = .ok checked) :
    checked.seeds.mapM Seed.normalize = .ok checked.seeds := by
  obtain ⟨_, seeds, normal, rfl⟩ := validate_eq_ok_iff.1 valid
  refine mapM_eq_ok_iff.2 (List.forall₂_same.2 fun address member => ?_)
  obtain ⟨seed, _, read⟩ := mem_of_mapM_eq_ok normal address member
  exact (Seed.normal_of_normalize read).again

theorem validate_of_validate (valid : settings.validate = .ok checked) :
    checked.validate = .ok checked := by
  obtain ⟨positive, seeds, _, rfl⟩ := validate_eq_ok_iff.1 valid
  exact validate_eq_ok_iff.2 ⟨positive, _, mapM_normalize_of_validate valid, rfl⟩

theorem exists_validate_of_ofJson {text : String} (read : ofJson text = .ok checked) :
    ∃ settings : Settings, settings.validate = .ok checked := by
  unfold ofJson at read
  split at read
  · simp at read
  · next settings _ => exact ⟨settings, read⟩

/-- Seeds that are added to settings that were checked are the only ones that can change. -/
theorem validate_addSeeds (valid : settings.validate = .ok checked) {more normal : List String}
    (acceptable :
      List.Forall₂ (fun seed address => Seed.normalize seed = .ok address) more normal) :
    (checked.addSeeds more).validate = .ok (checked.addSeeds normal) := by
  obtain ⟨positive, _⟩ := validate_eq_ok_iff.1 (validate_of_validate valid)
  have held := mapM_eq_ok_iff.1 (mapM_normalize_of_validate valid)
  exact validate_eq_ok_iff.2
    ⟨positive, _, mapM_eq_ok_iff.2 (List.rel_append held acceptable), rfl⟩

/-- Checking settings once more changes nothing.

* The normal form of a seed is a host and a port, and its own normal form.
* Settings that were checked are checked again without a change.
* A router is built from settings that were read as they are. If seeds are added that are accepted,
  only these are brought into their normal form, behind those that were there. -/
theorem checked_again :
    (∀ seed address, Seed.normalize seed = .ok address → Seed.Normal address) ∧
    (∀ settings checked : Settings, settings.validate = .ok checked →
      checked.validate = .ok checked) ∧
    ∀ (text : String) (settings : Settings), ofJson text = .ok settings →
      Router.ofSettings settings = .ok ⟨settings⟩ ∧
      ∀ more normal : List String,
        List.Forall₂ (fun seed address => Seed.normalize seed = .ok address) more normal →
          Router.ofSettings (settings.addSeeds more) = .ok ⟨settings.addSeeds normal⟩ := by
  refine ⟨fun _ _ read => Seed.normal_of_normalize read,
    fun _ _ valid => validate_of_validate valid, fun text settings read => ?_⟩
  obtain ⟨given, valid⟩ := exists_validate_of_ofJson read
  refine ⟨?_, fun more normal acceptable => ?_⟩
  · rw [Router.ofSettings, validate_of_validate valid]
    rfl
  · rw [Router.ofSettings, validate_addSeeds valid acceptable]
    rfl

namespace Sample

/-- Settings as text, with a seed that is spelled in a roundabout way. -/
def text : String := "\x7b\"seed_nodes\":[\"redis://u@[0:0::1]:07000/x\"]\x7d"

/-- The settings that are read from it. -/
def read : Settings := { standard with seeds := ["[::1]:7000"] }

end Sample

open Sample in
theorem checked_again_roundabout :
    Seed.normalize "redis://u@[0:0::1]:07000/x" = .ok "[::1]:7000" ∧ Seed.Normal "[::1]:7000" ∧
    validate { standard with seeds := ["redis://u@[0:0::1]:07000/x"] } = .ok read ∧
    read.validate = .ok read ∧ ofJson text = .ok read ∧ Router.ofSettings read = .ok ⟨read⟩ ∧
    List.Forall₂ (fun seed address => Seed.normalize seed = .ok address) ["Caf\u00e9\t"]
      ["Caf%C3%A9:6379"] ∧
    Router.ofSettings (read.addSeeds ["Caf\u00e9\t"]) =
      .ok ⟨read.addSeeds ["Caf%C3%A9:6379"]⟩ := by
  have seed : Seed.normalize "redis://u@[0:0::1]:07000/x" = .ok "[::1]:7000" := by decide +kernel
  have valid : validate { standard with seeds := ["redis://u@[0:0::1]:07000/x"] } = .ok read := by
    decide +kernel
  have json : ofJson text = .ok read := by decide +kernel
  have acceptable : List.Forall₂ (fun seed address => Seed.normalize seed = .ok address)
      ["Caf\u00e9\t"] ["Caf%C3%A9:6379"] := .cons (by decide +kernel) .nil
  obtain ⟨seeds, settings, routers⟩ := checked_again
  obtain ⟨router, added⟩ := routers text read json
  exact ⟨seed, seeds _ _ seed, valid, settings _ _ valid, json, router, acceptable,
    added _ _ acceptable⟩

end Settings

end ClusterProxy
