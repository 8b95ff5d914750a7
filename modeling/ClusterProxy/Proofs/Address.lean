import ClusterProxy.Proofs.Topology.Reading
import ClusterProxy.Proofs.Topology.Table
import ClusterProxy.Router.Basic
import Mathlib.Data.List.Forall2

/-!
# Addresses with a host

An address has a host if something stands in front of its last colon (`Address.HasHost`). A seed in
its normal form has one, and so has every address that is learned from a dump: one that is a port
alone stands for that port of the node that gave the dump (`Dump.hasHost_addressOf`).
-/

namespace ClusterProxy

namespace Address

/-- Something stands in front of the last colon. -/
def HasHost (address : String) : Prop :=
  ∃ host port, address.toList = host ++ ':' :: port ∧ host ≠ [] ∧ ':' ∉ port

/-- The address is a port alone, behind its colon. -/
def IsPort (address : String) : Prop := ∃ port, address.toList = ':' :: port ∧ ':' ∉ port

/-- A text with a colon falls apart at its last one. -/
theorem exists_append_of_mem {text : List Char} (marked : ':' ∈ text) :
    ∃ host port, text = host ++ ':' :: port ∧ ':' ∉ port := by
  obtain ⟨port, host, split, last⟩ := List.eq_append_cons_of_mem (List.mem_reverse.2 marked)
  refine ⟨host.reverse, port.reverse, ?_, by simpa using last⟩
  rw [← List.reverse_reverse text, split]
  simp

theorem hostOf_append {host port : List Char} (last : ':' ∉ port) :
    Dump.hostOf (host ++ ':' :: port) = host := by
  have passed : ∀ c ∈ port.reverse, (c != ':') = true := by
    intro c member
    rw [bne_iff_ne]
    rintro rfl
    exact last (List.mem_reverse.1 member)
  unfold Dump.hostOf
  rw [List.reverse_append, List.reverse_cons, List.append_assoc,
    List.dropWhile_append_of_pos passed]
  simp

theorem hasHost_iff {address : String} :
    HasHost address ↔ ':' ∈ address.toList ∧ Dump.hostOf address.toList ≠ [] := by
  constructor
  · rintro ⟨host, port, split, some_host, last⟩
    rw [split, hostOf_append last]
    exact ⟨by simp, some_host⟩
  · rintro ⟨marked, some_host⟩
    obtain ⟨host, port, split, last⟩ := exists_append_of_mem marked
    rw [split, hostOf_append last] at some_host
    exact ⟨host, port, split, some_host, last⟩

theorem isPort_iff {address : String} :
    IsPort address ↔ address.toList.head? = some ':' ∧ ':' ∉ address.toList.tail := by
  unfold IsPort
  cases address.toList with
  | nil => simp
  | cons c rest => simp

instance (address : String) : Decidable (HasHost address) := decidable_of_iff _ hasHost_iff.symm

instance (address : String) : Decidable (IsPort address) := decidable_of_iff _ isPort_iff.symm

/-- A host stays one with more in front of it. -/
theorem hasHost_ofList {front host port : List Char} (some_front : front ≠ []) (last : ':' ∉ port) :
    HasHost (String.ofList (front ++ (host ++ ':' :: port))) :=
  ⟨front ++ host, port, by simp, by simp [some_front], last⟩

end Address

open Address (HasHost IsPort)

/-! ## Dumps -/

/-- The address of a node has a host if it names one, and else that of the node that gave the
dump. -/
theorem Dump.hasHost_addressOf {origin : String} {node : Node} (hosted : HasHost origin)
    (formed : HasHost node.address ∨ IsPort node.address) :
    HasHost (addressOf (some origin) node) := by
  have some_host := (Address.hasHost_iff.1 hosted).2
  unfold addressOf
  dsimp only
  split
  · rcases formed with ⟨host, port, split, _, last⟩ | ⟨port, split, last⟩
    · rw [split]
      exact Address.hasHost_ofList some_host last
    · rw [split]
      exact @Address.hasHost_ofList _ [] _ some_host last
  · next named =>
    rcases formed with hosted | ⟨port, split, _⟩
    · exact hosted
    · simp [Node.hasNoHost, split] at named

/-- A port alone stands for that port of the node that gave the dump. -/
theorem Dump.addressOf_of_isPort {origin : String} {node : Node} (port : IsPort node.address) :
    addressOf (some origin) node = String.ofList (hostOf origin.toList ++ node.address.toList) :=
  if_pos (decide_eq_true (Address.isPort_iff.1 port).1)

/-! ## Seeds -/

namespace Host

theorem escape_ne_nil {text : List Char} (some_text : text ≠ []) : escape text ≠ [] := by
  obtain ⟨c, rest, rfl⟩ := List.exists_cons_of_ne_nil some_text
  intro blank
  have first := List.flatMap_eq_nil_iff.1 blank c List.mem_cons_self
  split at first
  · simp at first
  · have octets := List.flatMap_eq_nil_iff.1 first
    have some_octet : String.utf8EncodeChar c ≠ [] := by
      rw [← List.length_pos_iff, String.length_utf8EncodeChar]
      exact Char.utf8Size_pos c
    obtain ⟨b, more, same⟩ := List.exists_cons_of_ne_nil some_octet
    have none_left := octets b (same ▸ List.mem_cons_self)
    simp [percent] at none_left

theorem ne_nil_of_opaque? {text host : List Char} (some_text : text ≠ [])
    (read : opaque? text = some host) : host ≠ [] := by
  unfold opaque? bracketed? at read
  split at read
  · split at read
    · obtain ⟨_, _, rfl⟩ := Option.map_eq_some_iff.1 read
      simp
    · simp at read
  · split at read
    · simp at read
    · exact Option.some.inj read ▸ escape_ne_nil some_text

end Host

namespace Url

theorem lt_of_port? {text : List Char} {port : Nat} (read : port? text = some (some port)) :
    port < portBound := by
  unfold port? at read
  dsimp only at read
  split at read
  · simp at read
  · obtain ⟨_, digits, made⟩ := Option.map_eq_some_iff.1 read
    obtain rfl := Option.some.inj made
    exact (Text.digitsBelow?_eq_some_iff.1 digits).2.2.2

/-- The host is read from a text that is not empty, and the port is below the bound. -/
theorem parts_of_ofAuthority? {scheme text : List Char} {url : Url} {host : String}
    (read : ofAuthority? scheme false text = some url) (has : url.host = some host) :
    (∃ name, name ≠ [] ∧ Host.opaque? name = some host.toList) ∧
      ∀ port, url.port = some port → port < portBound := by
  unfold ofAuthority? at read
  dsimp only at read
  split at read
  · simp at read
  · split at read
    · -- Without a host there is none to be read.
      split at read
      · simp at read
      · obtain rfl := Option.some.inj read
        simp at has
    · next some_host =>
      obtain ⟨name, named, rest⟩ := Option.bind_eq_some_iff.1 read
      obtain ⟨port, numbered, made⟩ := Option.bind_eq_some_iff.1 rest
      obtain rfl := Option.some.inj made
      obtain rfl := Option.some.inj has
      refine ⟨⟨_, by simpa using some_host, by rw [String.toList_ofList]; exact named⟩, ?_⟩
      rintro number rfl
      exact lt_of_port? numbered

theorem scheme_of_ofAuthority? {scheme text : List Char} {web : Bool} {url : Url}
    (read : ofAuthority? scheme web text = some url) : url.scheme = String.ofList scheme := by
  unfold ofAuthority? at read
  dsimp only at read
  split at read
  · simp at read
  · split at read
    · split at read
      · simp at read
      · rw [← Option.some.inj read]
    · split at read
      all_goals
        obtain ⟨name, _, rest⟩ := Option.bind_eq_some_iff.1 read
        obtain ⟨port, _, made⟩ := Option.bind_eq_some_iff.1 rest
        rw [← Option.some.inj made]

theorem scheme_of_ofFile? {text : List Char} {url : Url} (read : ofFile? text = some url) :
    url.scheme = "file" := by
  unfold ofFile? at read
  split at read
  · dsimp only at read
    split at read
    · rw [← Option.some.inj read]
    · obtain ⟨_, _, rfl⟩ := Option.map_eq_some_iff.1 read
      rfl
  · rw [← Option.some.inj read]

/-- The parts of an address with the scheme of seeds. -/
theorem parts_of_ofChars? {text : List Char} {url : Url} {host : String}
    (read : ofChars? text = some url) (own : url.scheme = Seed.scheme)
    (has : url.host = some host) :
    (∃ name, name ≠ [] ∧ Host.opaque? name = some host.toList) ∧
      ∀ port, url.port = some port → port < portBound := by
  unfold ofChars? at read
  split at read
  · simp at read
  · next scheme rest _ =>
    split at read
    · rw [scheme_of_ofFile? read] at own
      exact absurd own (by decide)
    · split at read
      · next web =>
        rw [← scheme_of_ofAuthority? read, own] at web
        exact absurd web (by decide)
      · split at read
        · exact parts_of_ofAuthority? read has
        · obtain rfl := Option.some.inj read
          simp at has

end Url

/-- The normal form of a seed is a host and a port. -/
theorem Seed.parts_of_normalize {seed address : String}
    (normal : Seed.normalize seed = .ok address) :
    ∃ (name host : List Char) (port : Nat), name ≠ [] ∧ Host.opaque? name = some host ∧
      port < Url.portBound ∧ address.toList = host ++ ':' :: (toString port).toList := by
  unfold normalize at normal
  split at normal
  · simp at normal
  · next url read =>
    split at normal
    · simp at normal
    · next own =>
      split at normal
      · simp at normal
      · next host has =>
        obtain rfl := Except.ok.inj normal
        obtain ⟨⟨name, some_char, named⟩, small⟩ := Url.parts_of_ofChars? read (not_not.1 own) has
        refine ⟨name, _, _, some_char, named, ?_, by simp; rfl⟩
        cases numbered : url.port with
        | none => decide
        | some port => exact small port numbered

theorem Seed.hasHost_of_normalize {seed address : String}
    (normal : Seed.normalize seed = .ok address) : HasHost address := by
  obtain ⟨name, host, port, some_char, named, _, split⟩ := parts_of_normalize normal
  refine ⟨host, _, split, Host.ne_nil_of_opaque? some_char named, fun member => ?_⟩
  exact absurd (Text.isDigit_of_mem_toString _ member) (by decide)

/-- Texts are read one by one. -/
theorem mapM_eq_ok_iff {α β ε : Type} {read : α → Except ε β} {texts : List α} {values : List β} :
    texts.mapM read = .ok values ↔
      List.Forall₂ (fun text value => read text = .ok value) texts values := by
  induction texts generalizing values with
  | nil =>
    rw [List.forall₂_nil_left_iff]
    exact ⟨fun made => (Except.ok.inj made).symm, fun none => none ▸ rfl⟩
  | cons text texts ih =>
    rw [List.mapM_cons, List.forall₂_cons_left_iff]
    simp only [← ih]
    cases read text with
    | error fault => simp [bind, Except.bind]
    | ok value =>
      cases texts.mapM read with
      | error fault => simp [bind, Except.bind]
      | ok rest => simp [bind, Except.bind, pure, Except.pure, eq_comm]

/-- What a list of texts is turned into comes from one of them each. -/
theorem mem_of_mapM_eq_ok {α β ε : Type} {read : α → Except ε β} {texts : List α} {values : List β}
    (accepted : texts.mapM read = .ok values) :
    ∀ value ∈ values, ∃ text ∈ texts, read text = .ok value := by
  have each := mapM_eq_ok_iff.1 accepted
  clear accepted
  induction each with
  | nil => exact List.forall_mem_nil _
  | cons first _ ih =>
    refine List.forall_mem_cons.2 ⟨⟨_, List.mem_cons_self, first⟩, fun value member => ?_⟩
    obtain ⟨text, listed, made⟩ := ih value member
    exact ⟨text, List.mem_cons_of_mem _ listed, made⟩

/-- All seeds of a router have a host. -/
theorem Router.hasHost_of_ofSettings {settings : Settings} {router : Router}
    (built : ofSettings settings = .ok router) : ∀ seed ∈ router.settings.seeds, HasHost seed := by
  unfold ofSettings Settings.validate at built
  split at built
  · simp [Except.map] at built
  · split at built
    · simp [Except.map] at built
    · next seeds normal =>
      obtain rfl := Except.ok.inj built
      intro seed member
      obtain ⟨given, _, made⟩ := mem_of_mapM_eq_ok normal seed member
      exact Seed.hasHost_of_normalize made

end ClusterProxy
