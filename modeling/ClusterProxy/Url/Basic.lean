import ClusterProxy.Text.Words
import ClusterProxy.Url.Host

/-!
# Addresses with a scheme

`Url.ofChars?` reads the parts of an address that the proxy uses: scheme, host and port. User
names, paths, queries and fragments are allowed and passed over.

Addresses of the web's own schemes follow looser rules: any number of slashes, backslashes among
them, stands in front of the host, and there must be one. The scheme for local files has a host
and no port.
-/

namespace ClusterProxy

/-- An address taken apart: scheme, host and port. -/
structure Url where
  scheme : String
  host : Option String
  port : Option Nat
deriving DecidableEq, Repr

namespace Url

/-- White space and control characters, which do not count at the ends of an address. -/
def isEdge (c : Char) : Bool := c.toNat ≤ 0x20

/-- Characters that do not count anywhere in an address. -/
def isFiller (c : Char) : Bool := c == '\t' || c == '\n' || c == '\r'

/-- The characters of an address that count. -/
def strip (text : List Char) : List Char :=
  (Text.dropEndWhile isEdge (text.dropWhile isEdge)).filter fun c => !isFiller c

/-- Characters of a scheme after its first letter. -/
def isSchemeChar (c : Char) : Bool := c.isAlphanum || c == '+' || c == '-' || c == '.'

/-- The scheme in lower case, and what follows its colon. -/
def scheme? (text : List Char) : Option (List Char × List Char) :=
  match text.takeWhile fun c => c != ':', text.dropWhile fun c => c != ':' with
  | letter :: more, _ :: rest =>
    if letter.isAlpha && more.all isSchemeChar then some (Text.lower (letter :: more), rest)
    else none
  | _, _ => none

/-- The web's own schemes. -/
def webSchemes : List String := ["http", "https", "ws", "wss", "ftp"]

/-- Characters that end the part with host and port. -/
def endsAuthority (web : Bool) (c : Char) : Bool :=
  c == '/' || c == '?' || c == '#' || (web && c == '\\')

/-- What stands in front of the last `@`, and what follows it. -/
def splitUser (authority : List Char) : List Char × List Char :=
  match authority.reverse.dropWhile fun c => c != '@' with
  | [] => ([], authority)
  | _ :: user => (user.reverse, (authority.reverse.takeWhile fun c => c != '@').reverse)

/-- The host, and the port with its colon. Colons in brackets belong to the host. -/
def splitPort (inBrackets : Bool) : List Char → List Char × List Char
  | [] => ([], [])
  | c :: rest =>
    if c == ':' && !inBrackets then ([], c :: rest)
    else
      let (host, port) := splitPort (c == '[' || (inBrackets && c != ']')) rest
      (c :: host, port)

/-- Ports are below this bound. -/
def portBound : Nat := 65536

/-- Reads a port with its colon. No digits stand for no port, and a backslash ends them. -/
def port? (text : List Char) : Option (Option Nat) :=
  let digits := (text.drop 1).takeWhile fun c => c != '\\'
  if digits.isEmpty then some none
  else (Text.digitsBelow? portBound digits).map some

/-- Reads user, host and port, in front of the rest of the address. -/
def ofAuthority? (scheme : List Char) (web : Bool) (text : List Char) : Option Url :=
  let authority := text.takeWhile fun c => !endsAuthority web c
  let (user, place) := splitUser authority
  let (host, port) := splitPort false place
  let hasUser := user ≠ [] && user ≠ [':']
  if authority = ['@'] ∧ authority.length < text.length then none
  else if host.isEmpty then
    if web || hasUser || !port.isEmpty then none else some ⟨String.ofList scheme, none, none⟩
  else do
    let host ← if web then Host.domain? host else Host.opaque? host
    let port ← port? port
    return ⟨String.ofList scheme, some (String.ofList host), port⟩

/-- Slashes of either kind. -/
def isSlash (c : Char) : Bool := c == '/' || c == '\\'

/-- The name of a drive, which is no host. -/
def isDrive (text : List Char) : Bool :=
  match text with
  | [letter, mark] => letter.isAlpha && (mark == ':' || mark == '|')
  | _ => false

/-- Reads what follows the scheme of a local file. -/
def ofFile? (text : List Char) : Option Url :=
  let file (host : Option String) : Url := ⟨"file", host, none⟩
  match text with
  | first :: second :: rest =>
    let host := rest.takeWhile fun c => !endsAuthority true c
    if !isSlash first || !isSlash second || host.isEmpty || isDrive host then some (file none)
    else (Host.domain? host).map fun name =>
      file (if name = "localhost".toList then none else some (String.ofList name))
  | _ => some (file none)

/-- Reads an address. -/
def ofChars? (text : List Char) : Option Url :=
  match scheme? (strip text) with
  | none => none
  | some (scheme, rest) =>
    if String.ofList scheme = "file" then ofFile? rest
    else if webSchemes.contains (String.ofList scheme) then
      ofAuthority? scheme true (rest.dropWhile isSlash)
    else match rest with
      | '/' :: '/' :: rest => ofAuthority? scheme false rest
      | _ => some ⟨String.ofList scheme, none, none⟩

end Url

end ClusterProxy
