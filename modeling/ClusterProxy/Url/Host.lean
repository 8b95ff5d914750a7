import ClusterProxy.Domain.Basic
import ClusterProxy.Text.Utf8
import ClusterProxy.Url.Ipv6

/-!
# Hosts of addresses

The host of an address has two forms. In the general form (`Host.opaque?`) it is any text without
the characters that mean something in an address; control characters and characters past ASCII are
written as octets with a percent sign. In the form for the web's own schemes (`Host.domain?`) it is
a name, given with its labels in readable characters, or an IPv4 address in any of its spellings.
Both forms take an IPv6 address in brackets.
-/

namespace ClusterProxy.Host

/-- The characters that no host holds. -/
def forbidden : List Char :=
  ['\x00', '\t', '\n', '\r', ' ', '#', '/', ':', '<', '>', '?', '@', '[', '\\', ']', '^', '|']

/-- A hexadecimal digit in upper case. -/
def hexUpper (n : Nat) : Char := (Nat.digitChar n).toUpper

/-- An octet with a percent sign. -/
def percent (b : UInt8) : List Char := ['%', hexUpper (b.toNat / 16), hexUpper (b.toNat % 16)]

/-- Printable ASCII characters. -/
def isPrintable (c : Char) : Bool := 0x20 ≤ c.toNat && c.toNat < 0x7F

/-- Writes the characters that are not printable as octets with a percent sign. -/
def escape (text : List Char) : List Char :=
  text.flatMap fun c => if isPrintable c then [c] else (String.utf8EncodeChar c).flatMap percent

/-- Reads an IPv6 address behind its opening bracket, and writes it in its normal text. -/
def bracketed? (text : List Char) : Option (List Char) :=
  if text.getLast? = some ']' then
    (Ipv6.ofChars? text.dropLast).map fun address => '[' :: address.toChars ++ [']']
  else none

/-- Reads a host in the general form. -/
def opaque? (text : List Char) : Option (List Char) :=
  match text with
  | '[' :: rest => bracketed? rest
  | _ => if text.any forbidden.contains then none else some (escape text)

/-- Replaces each octet that is written with a percent sign. -/
def percentDecode : Bytes → Bytes
  | [] => []
  | [b] => [b]
  | [b, c] => [b, c]
  | mark :: high :: low :: rest =>
    let digit? (b : UInt8) := Text.hexDigit? (Char.ofNat b.toNat)
    match if mark = 37 then digit? high else none, digit? low with
    | some h, some l => (16 * h + l).toUInt8 :: percentDecode rest
    | _, _ => mark :: percentDecode (high :: low :: rest)

/-- The first number past those of IPv4 addresses. -/
def ipv4Bound : Nat := 4294967296

/-- Reads a number of an IPv4 address: decimal, hexadecimal after `0x`, octal after `0`. A number
past those of addresses reads as `ipv4Bound`. -/
def ipv4Number? (text : List Char) : Option Nat :=
  let read (base : Nat) (digits : List Char) : Option Nat :=
    digits.foldlM (fun n c =>
      (Text.hexDigit? c).bind fun digit =>
        if digit < base then some (min (base * n + digit) ipv4Bound) else none) 0
  match text with
  | [] => none
  | ['0'] => some 0
  | '0' :: 'x' :: digits => read 16 digits
  | '0' :: digits => read 8 digits
  | digits => read 10 digits

/-- The parts of a name that count; an empty one at the end does not. -/
def parts (labels : List (List Char)) : List (List Char) :=
  if 1 < labels.length && labels.getLast? = some [] then labels.dropLast else labels

/-- Whether a name has to be an IPv4 address. -/
def endsInNumber (labels : List (List Char)) : Bool :=
  match (parts labels).getLast? with
  | none => false
  | some last => !last.isEmpty && (last.all Char.isDigit || (ipv4Number? last).isSome)

/-- The lowest `count` octets of a number, most significant first. -/
def octets : (count : Nat) → Nat → List Nat
  | 0, _ => []
  | count + 1, n => octets count (n / 256) ++ [n % 256]

/-- The four octets of an IPv4 address. Each number stands for one octet, and the last one for the
octets that are left. -/
def ipv4Octets? (numbers : List Nat) : Option (List Nat) :=
  match numbers.reverse with
  | [] => none
  | last :: leading =>
    let left := 4 - leading.length
    let tail := octets left last
    if 3 < leading.length || leading.any (255 < ·) || tail.foldl (fun n b => 256 * n + b) 0 ≠ last
    then none
    else some (leading.reverse ++ tail)

/-- The octets of an IPv4 address with dots between them. -/
def ipv4Text (octets : List Nat) : List Char := ['.'].intercalate (octets.map (Nat.toDigits 10))

/-- Reads a host in the form for the web's own schemes. -/
def domain? (text : List Char) : Option (List Char) :=
  match text with
  | '[' :: rest => bracketed? rest
  | _ => do
    let decoded ← Text.ofUtf8? (percentDecode (Text.utf8 (String.ofList text)))
    let labels ← Domain.ofChars? decoded.toList
    if labels = [[]] then none
    else if endsInNumber labels then do
      let numbers ← (parts labels).mapM ipv4Number?
      let octets ← ipv4Octets? numbers
      return ipv4Text octets
    else return ['.'].intercalate labels

end ClusterProxy.Host
