import ClusterProxy.Text.Digits

/-!
# IPv6 addresses

An address is eight groups of sixteen bits. `Ipv6.ofChars?` reads its text: groups of one to four
hexadecimal digits between colons, one `::` in place of one or more zero groups, and the last two
groups possibly as an IPv4 address. `Ipv6.toChars` writes its one normal text, in lower case and
with the first of the longest runs of two or more zero groups left out.
-/

namespace ClusterProxy

/-- The eight groups of an address. -/
structure Ipv6 where
  groups : List Nat
deriving DecidableEq, Repr

namespace Ipv6

/-- Reads one group. -/
def group? (text : List Char) : Option Nat :=
  if text.isEmpty || 4 < text.length then none
  else text.foldlM (fun n c => (Text.hexDigit? c).map fun digit => 16 * n + digit) 0

/-- Reads one number of an IPv4 address: at most 255, without leading zeros. -/
def octet? (text : List Char) : Option Nat :=
  if text.head? = some '0' && 1 < text.length then none
  else Text.digitsBelow? 256 text

/-- Reads an IPv4 address as two groups. -/
def dotted? (text : List Char) : Option (List Nat) :=
  match (text.splitOn '.').mapM octet? with
  | some [a, b, c, d] => some [256 * a + b, 256 * c + d]
  | _ => none

/-- Reads groups; the last one may be an IPv4 address if `dotted` says so. -/
def groups? (dotted : Bool) : List (List Char) → Option (List Nat)
  | [] => some []
  | [last] =>
    if dotted && last.contains '.' then dotted? last else (group? last).map fun n => [n]
  | piece :: more => do
    let first ← group? piece
    let rest ← groups? dotted more
    return first :: rest

/-- Reads the groups of one side of `::`, which may have none. -/
def side? (dotted : Bool) (text : List Char) : Option (List Nat) :=
  if text.isEmpty then some [] else groups? dotted (text.splitOn ':')

/-- The parts on the two sides of the first `::`. -/
def cut? : List Char → Option (List Char × List Char)
  | ':' :: ':' :: rest => some ([], rest)
  | c :: rest => (cut? rest).map fun (left, right) => (c :: left, right)
  | [] => none

/-- Reads an address. -/
def ofChars? (text : List Char) : Option Ipv6 :=
  match cut? text with
  | none => do
    let groups ← groups? true (text.splitOn ':')
    if groups.length = 8 then some ⟨groups⟩ else none
  | some (left, right) => do
    let before ← side? false left
    let after ← side? true right
    if before.length + after.length < 8 then
      some ⟨before ++ List.replicate (8 - before.length - after.length) 0 ++ after⟩
    else none

/-- How many zero groups stand together from a place on. -/
def zerosFrom (groups : List Nat) (start : Nat) : Nat :=
  ((groups.drop start).takeWhile fun n => n == 0).length

/-- The start and length of the first of the longest runs of zero groups. -/
def longestZeros (groups : List Nat) : Nat × Nat :=
  (List.range groups.length).foldl (fun best start =>
    if best.2 < zerosFrom groups start then (start, zerosFrom groups start) else best) (0, 0)

/-- Groups with colons between them. -/
def joined (groups : List Nat) : List Char :=
  [':'].intercalate (groups.map (Nat.toDigits 16))

/-- The normal text of an address. -/
def toChars (address : Ipv6) : List Char :=
  let (start, length) := longestZeros address.groups
  if length < 2 then joined address.groups
  else
    joined (address.groups.take start) ++ [':', ':'] ++
      joined (address.groups.drop (start + length))

end Ipv6

end ClusterProxy
