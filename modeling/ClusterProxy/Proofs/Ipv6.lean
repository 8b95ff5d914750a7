import ClusterProxy.Proofs.Text.Words
import ClusterProxy.Url.Ipv6
import Mathlib.Algebra.Ring.Nat
import Mathlib.Data.List.TakeWhile

/-!
# The normal text of an IPv6 address

What is read as an IPv6 address is eight groups of sixteen bits (`Ipv6.valid_of_ofChars?`), and the
normal text of such an address is read as that address again (`Ipv6.ofChars?_toChars`).

A group is read as it is written, digit by digit. Between groups there is one colon, so the first
two colons that stand together are those in place of the groups that are left out
(`Ipv6.cut?_joined_append`), and these are all zero (`Ipv6.eq_append_of_le_zerosFrom`).
-/

namespace ClusterProxy

namespace Text

/-! ## Hexadecimal digits -/

theorem hexDigit?_digitChar {n : Nat} (small : n < 16) : hexDigit? n.digitChar = some n := by
  have all : ∀ n ∈ List.range 16, hexDigit? n.digitChar = some n := by decide
  exact all n (List.mem_range.2 small)

theorem lt_of_hexDigit? {c : Char} {n : Nat} (read : hexDigit? c = some n) : n < 16 := by
  unfold hexDigit? at read
  simp only [Bool.and_eq_true, decide_eq_true_eq, Char.le_def, UInt32.le_iff_toNat_le] at read
  have code : c.val.toNat = c.toNat := rfl
  split at read
  · next digit =>
    obtain rfl := Option.some.inj read
    simp at digit
    omega
  · split at read
    · next letter =>
      obtain rfl := Option.some.inj read
      simp at letter
      omega
    · split at read
      · next letter =>
        obtain rfl := Option.some.inj read
        simp at letter
        omega
      · simp at read

theorem exists_digitChar_of_mem_toDigits {n : Nat} {c : Char} (member : c ∈ Nat.toDigits 16 n) :
    ∃ digit < 16, c = digit.digitChar := by
  induction n using Nat.strongRecOn with
  | ind n ih =>
    rw [Nat.toDigits_eq_if (by decide)] at member
    split at member
    · next small => exact ⟨n, small, List.mem_singleton.1 member⟩
    · rcases List.mem_append.1 member with front | last
      · exact ih (n / 16) (by omega) front
      · exact ⟨n % 16, by omega, List.mem_singleton.1 last⟩

end Text

namespace Ipv6

/-! ## Groups -/

/-- The number that a hexadecimal digit makes behind a number. -/
def growHex? (n : Nat) (c : Char) : Option Nat :=
  (Text.hexDigit? c).map fun digit => 16 * n + digit

theorem foldlM_growHex?_toDigits (n : Nat) : (Nat.toDigits 16 n).foldlM growHex? 0 = some n := by
  induction n using Nat.strongRecOn with
  | ind n ih =>
    rw [Nat.toDigits_eq_if (by decide)]
    split
    · next small => simp [growHex?, Text.hexDigit?_digitChar small]
    · rw [List.foldlM_append, ih (n / 16) (by omega)]
      simp [growHex?, Text.hexDigit?_digitChar (Nat.mod_lt n (by decide : 16 > 0)), Nat.div_add_mod]

/-- A group is read as it is written. -/
theorem group?_toDigits {n : Nat} (small : n < 65536) : group? (Nat.toDigits 16 n) = some n := by
  have short : (Nat.toDigits 16 n).length ≤ 4 :=
    (Nat.length_toDigits_le_iff (by decide) (by decide)).2 small
  have some_digit : (Nat.toDigits 16 n).isEmpty = false := by simp [Nat.toDigits_ne_nil]
  rw [group?, some_digit, if_neg (by simpa using short)]
  exact foldlM_growHex?_toDigits n

theorem lt_of_foldlM_growHex? {text : List Char} {n m : Nat}
    (read : text.foldlM growHex? n = some m) : m < (n + 1) * 16 ^ text.length := by
  induction text generalizing n with
  | nil =>
    obtain rfl := Option.some.inj read
    simp
  | cons c text ih =>
    rw [List.foldlM_cons] at read
    obtain ⟨grown, first, later⟩ := Option.bind_eq_some_iff.1 read
    obtain ⟨digit, value, rfl⟩ := Option.map_eq_some_iff.1 first
    have small := Text.lt_of_hexDigit? value
    calc m < (16 * n + digit + 1) * 16 ^ text.length := ih later
      _ ≤ ((n + 1) * 16) * 16 ^ text.length := Nat.mul_le_mul_right _ (by omega)
      _ = (n + 1) * 16 ^ (text.length + 1) := by rw [Nat.mul_assoc, ← Nat.pow_succ']

theorem lt_of_group? {text : List Char} {n : Nat} (read : group? text = some n) : n < 65536 := by
  unfold group? at read
  split at read
  · simp at read
  · next short =>
    have few : text.length ≤ 4 := by
      simp only [Bool.or_eq_true, not_or, decide_eq_true_eq] at short
      omega
    calc n < 1 * 16 ^ text.length := by simpa using lt_of_foldlM_growHex? read
      _ ≤ 1 * 16 ^ 4 := Nat.mul_le_mul_left _ (Nat.pow_le_pow_right (by decide) few)

theorem lt_of_octet? {text : List Char} {n : Nat} (read : octet? text = some n) : n < 256 := by
  unfold octet? at read
  split at read
  · simp at read
  · exact (Text.digitsBelow?_eq_some_iff.1 read).2.2.2

theorem lt_of_octets {texts : List (List Char)} {octets : List Nat}
    (read : texts.mapM octet? = some octets) : ∀ octet ∈ octets, octet < 256 := by
  induction texts generalizing octets with
  | nil =>
    obtain rfl : [] = octets := Option.some.inj read
    exact List.forall_mem_nil _
  | cons text texts ih =>
    rw [List.mapM_cons] at read
    obtain ⟨first, here, rest⟩ := Option.bind_eq_some_iff.1 read
    obtain ⟨others, later, made⟩ := Option.bind_eq_some_iff.1 rest
    obtain rfl := Option.some.inj made
    exact List.forall_mem_cons.2 ⟨lt_of_octet? here, ih later⟩

theorem lt_of_dotted? {text : List Char} {groups : List Nat} (read : dotted? text = some groups) :
    ∀ group ∈ groups, group < 65536 := by
  unfold dotted? at read
  split at read
  · next a b c d octets =>
    obtain rfl := Option.some.inj read
    have small := lt_of_octets octets
    simp only [List.forall_mem_cons] at small ⊢
    obtain ⟨_, _, _, _, _⟩ := small
    exact ⟨by omega, by omega, List.forall_mem_nil _⟩
  · simp at read

theorem lt_of_groups? {dotted : Bool} {texts : List (List Char)} {groups : List Nat}
    (read : groups? dotted texts = some groups) : ∀ group ∈ groups, group < 65536 := by
  fun_induction groups? generalizing groups with
  | case1 =>
    obtain rfl := Option.some.inj read
    exact List.forall_mem_nil _
  | case2 last => exact lt_of_dotted? read
  | case3 last =>
    obtain ⟨group, value, rfl⟩ := Option.map_eq_some_iff.1 read
    exact List.forall_mem_singleton.2 (lt_of_group? value)
  | case4 text texts _ ih =>
    obtain ⟨first, here, rest⟩ := Option.bind_eq_some_iff.1 read
    obtain ⟨others, later, made⟩ := Option.bind_eq_some_iff.1 rest
    obtain rfl := Option.some.inj made
    exact List.forall_mem_cons.2 ⟨lt_of_group? here, ih later⟩

theorem lt_of_side? {dotted : Bool} {text : List Char} {groups : List Nat}
    (read : side? dotted text = some groups) : ∀ group ∈ groups, group < 65536 := by
  unfold side? at read
  split at read
  · obtain rfl := Option.some.inj read
    exact List.forall_mem_nil _
  · exact lt_of_groups? read

/-! ## Addresses -/

/-- Eight groups of sixteen bits. -/
structure Valid (address : Ipv6) : Prop where
  length : address.groups.length = 8
  small : ∀ group ∈ address.groups, group < 65536

/-- What is read is an address. -/
theorem valid_of_ofChars? {text : List Char} {address : Ipv6}
    (read : ofChars? text = some address) : address.Valid := by
  unfold ofChars? at read
  split at read
  · obtain ⟨groups, all, rest⟩ := Option.bind_eq_some_iff.1 read
    split at rest
    · next eight =>
      obtain rfl := Option.some.inj rest
      exact ⟨eight, lt_of_groups? all⟩
    · simp at rest
  · obtain ⟨before, left, rest⟩ := Option.bind_eq_some_iff.1 read
    obtain ⟨after, right, rest⟩ := Option.bind_eq_some_iff.1 rest
    split at rest
    · next few =>
      obtain rfl := Option.some.inj rest
      refine ⟨?_, fun group member => ?_⟩
      · simp only [List.length_append, List.length_replicate]
        omega
      · simp only [List.mem_append, List.mem_replicate] at member
        rcases member with (member | ⟨_, rfl⟩) | member
        · exact lt_of_side? left group member
        · decide
        · exact lt_of_side? right group member
    · simp at rest

/-! ## Groups with colons between them -/

theorem ne_of_mem_toDigits {n : Nat} {c other : Char} (member : c ∈ Nat.toDigits 16 n)
    (unlike : ∀ digit < 16, digit.digitChar ≠ other) : c ≠ other := by
  obtain ⟨digit, small, rfl⟩ := Text.exists_digitChar_of_mem_toDigits member
  exact unlike digit small

theorem colon_not_mem_toDigits (n : Nat) : ':' ∉ Nat.toDigits 16 n := fun member =>
  ne_of_mem_toDigits member (by decide) rfl

theorem splitOn_joined {groups : List Nat} (some_group : groups ≠ []) :
    (joined groups).splitOn ':' = groups.map (Nat.toDigits 16) := by
  refine List.splitOn_intercalate ':' ?_ (by simpa using some_group)
  simpa using fun n _ => colon_not_mem_toDigits n

/-- Groups are read as they are written, whether the last one may be an IPv4 address or not. -/
theorem groups?_map_toDigits (dotted : Bool) {groups : List Nat}
    (small : ∀ group ∈ groups, group < 65536) :
    groups? dotted (groups.map (Nat.toDigits 16)) = some groups := by
  induction groups with
  | nil => rfl
  | cons group groups ih =>
    obtain ⟨first, others⟩ := List.forall_mem_cons.1 small
    cases groups with
    | nil =>
      have no_dot : '.' ∉ Nat.toDigits 16 group := fun member =>
        ne_of_mem_toDigits member (by decide) rfl
      simp [groups?, group?_toDigits first, no_dot]
    | cons next groups =>
      have later := ih others
      rw [List.map_cons] at later
      simp [groups?, group?_toDigits first, later]

theorem joined_ne_nil {groups : List Nat} (some_group : groups ≠ []) : joined groups ≠ [] := by
  intro empty
  have split := splitOn_joined some_group
  rw [empty, List.splitOn_nil] at split
  obtain ⟨group, _, none⟩ := List.mem_map.1 (split ▸ List.mem_singleton_self [])
  exact Nat.toDigits_ne_nil none

theorem side?_joined (dotted : Bool) {groups : List Nat}
    (small : ∀ group ∈ groups, group < 65536) : side? dotted (joined groups) = some groups := by
  cases groups with
  | nil => rfl
  | cons group groups =>
    have some_char : (joined (group :: groups)).isEmpty = false := by
      simp [joined_ne_nil (List.cons_ne_nil group groups)]
    rw [side?, some_char, splitOn_joined (List.cons_ne_nil _ _), groups?_map_toDigits dotted small]
    rfl

theorem cut?_cons {c : Char} {text : List Char} (apart : c ≠ ':' ∨ text.head? ≠ some ':') :
    cut? (c :: text) = (cut? text).map fun (left, right) => (c :: left, right) := by
  rw [cut?]
  rintro rest rfl rfl
  simp at apart

theorem cut?_append_of_not_mem {word : List Char} (absent : ':' ∉ word) (text : List Char) :
    cut? (word ++ text) = (cut? text).map fun (left, right) => (word ++ left, right) := by
  induction word with
  | nil => simp
  | cons c word ih =>
    rw [List.mem_cons, not_or] at absent
    rw [List.cons_append, cut?_cons (.inl (Ne.symm absent.1)), ih absent.2, Option.map_map]
    rfl

theorem joined_cons_cons (group next : Nat) (groups : List Nat) :
    joined (group :: next :: groups) =
      Nat.toDigits 16 group ++ ':' :: joined (next :: groups) := by
  simp [joined, List.intercalate_cons_cons]

theorem head?_joined_append (group : Nat) (groups : List Nat) (text : List Char) :
    (joined (group :: groups) ++ text).head? ≠ some ':' := by
  obtain ⟨c, digits, same⟩ := List.exists_cons_of_ne_nil (@Nat.toDigits_ne_nil group 16)
  have other : c ≠ ':' :=
    ne_of_mem_of_not_mem (same ▸ List.mem_cons_self) (colon_not_mem_toDigits group)
  cases groups with
  | nil => simpa [joined, same] using other
  | cons next groups => simpa [joined_cons_cons, same] using other

/-- The first two colons that stand together are not between groups. -/
theorem cut?_joined_append (groups : List Nat) (text : List Char) :
    cut? (joined groups ++ text) =
      (cut? text).map fun (left, right) => (joined groups ++ left, right) := by
  induction groups with
  | nil => simp [joined]
  | cons group groups ih =>
    have plain := cut?_append_of_not_mem (colon_not_mem_toDigits group)
    cases groups with
    | nil => simpa [joined] using plain text
    | cons next groups =>
      rw [joined_cons_cons, List.append_assoc, List.cons_append, plain,
        cut?_cons (.inr (head?_joined_append next groups text)), ih, Option.map_map, Option.map_map]
      simp [Function.comp_def]

/-! ## Zero groups -/

theorem zerosFrom_le (groups : List Nat) (start : Nat) :
    zerosFrom groups start ≤ groups.length - start := by
  rw [← List.length_drop]
  exact List.Sublist.length_le (List.takeWhile_sublist _)

/-- Groups fall apart at a run of zero groups. -/
theorem eq_append_of_le_zerosFrom {groups : List Nat} {start length : Nat}
    (zeros : length ≤ zerosFrom groups start) :
    groups = groups.take start ++ List.replicate length 0 ++ groups.drop (start + length) := by
  have leading := List.prefix_iff_eq_take.1
    (List.takeWhile_prefix (fun n => n == 0) (l := groups.drop start))
  have run : (groups.drop start).take length = List.replicate length 0 := by
    have fits := zerosFrom_le groups start
    refine List.eq_replicate_iff.2 ⟨?_, fun group member => ?_⟩
    · rw [List.length_take, List.length_drop]
      omega
    · have within : group ∈ (groups.drop start).takeWhile fun n => n == 0 := by
        rw [leading]
        exact (List.take_sublist_take_left zeros).subset member
      simpa using List.mem_takeWhile_imp within
  rw [← run, List.append_assoc, ← List.drop_drop, List.take_append_drop, List.take_append_drop]

theorem longestZeros_le (groups : List Nat) :
    (longestZeros groups).2 ≤ zerosFrom groups (longestZeros groups).1 := by
  unfold longestZeros
  refine List.foldlRecOn (motive := fun best : Nat × Nat => best.2 ≤ zerosFrom groups best.1) _ _
    (Nat.zero_le _) fun best known start _ => ?_
  split
  · exact Nat.le_refl _
  · exact known

/-! ## The normal text -/

theorem exists_digitChar_of_mem_joined {groups : List Nat} {c : Char} (other : c ≠ ':')
    (member : c ∈ joined groups) : ∃ digit < 16, c = digit.digitChar := by
  obtain ⟨_, listed, within⟩ := Text.exists_mem_of_mem_intercalate other member
  obtain ⟨group, _, rfl⟩ := List.mem_map.1 listed
  exact Text.exists_digitChar_of_mem_toDigits within

theorem exists_digitChar_of_mem_toChars {address : Ipv6} {c : Char} (other : c ≠ ':')
    (member : c ∈ address.toChars) : ∃ digit < 16, c = digit.digitChar := by
  unfold toChars at member
  dsimp only at member
  split at member
  · exact exists_digitChar_of_mem_joined other member
  · simp only [List.mem_append, List.mem_cons, List.not_mem_nil, or_false, or_self] at member
    rcases member with (before | colon) | after
    · exact exists_digitChar_of_mem_joined other before
    · exact absurd colon other
    · exact exists_digitChar_of_mem_joined other after

/-- The normal text of an address is read as that address. -/
theorem ofChars?_toChars {address : Ipv6} (valid : address.Valid) :
    ofChars? address.toChars = some address := by
  obtain ⟨groups⟩ := address
  obtain ⟨eight, small⟩ := valid
  have zeros := longestZeros_le groups
  unfold toChars
  dsimp only at eight small ⊢
  generalize longestZeros groups = run at zeros ⊢
  obtain ⟨start, length⟩ := run
  dsimp only at zeros
  split
  · have whole : cut? (joined groups) = none := by
      simpa [cut?] using cut?_joined_append groups []
    have some_group : groups ≠ [] := by
      rintro rfl
      simp at eight
    rw [ofChars?, whole]
    simp [splitOn_joined some_group, groups?_map_toDigits true small, eight]
  · next several =>
    have fits := zerosFrom_le groups start
    have halves : cut? (joined (groups.take start) ++ [':', ':'] ++
        joined (groups.drop (start + length))) =
        some (joined (groups.take start), joined (groups.drop (start + length))) := by
      rw [List.append_assoc, cut?_joined_append]
      simp [cut?]
    have before : side? false (joined (groups.take start)) = some (groups.take start) :=
      side?_joined false fun group member => small group (List.mem_of_mem_take member)
    have after : side? true (joined (groups.drop (start + length))) =
        some (groups.drop (start + length)) :=
      side?_joined true fun group member => small group (List.mem_of_mem_drop member)
    have left_out : 8 - (groups.take start).length - (groups.drop (start + length)).length =
        length := by
      rw [List.length_take, List.length_drop]
      omega
    have few : (groups.take start).length + (groups.drop (start + length)).length < 8 := by
      omega
    rw [ofChars?, halves]
    dsimp only
    simp only [before, after, Option.bind_eq_bind, Option.bind_some, if_pos few, left_out]
    rw [← eq_append_of_le_zerosFrom zeros]

end Ipv6

end ClusterProxy
