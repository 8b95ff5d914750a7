/-!
# JSON values

A `Json.Value` keeps what the text says and decides nothing: a number is its characters, a text
its pieces. `Json.text?` puts the pieces of a text together.
-/

namespace ClusterProxy.Json

/-- A piece of a text: a character, or a unit of sixteen bits written as `\u` and four digits. -/
inductive Piece where
  | char (c : Char)
  | unit (n : Nat)
deriving DecidableEq, Repr

/-- A JSON value. -/
inductive Value where
  | null
  | bool (b : Bool)
  | number (digits : List Char)
  | text (pieces : List Piece)
  | array (items : List Value)
  | object (fields : List (List Piece × Value))
deriving Inhabited, Repr

/-- The first unit of a pair. -/
def isHighSurrogate (n : Nat) : Bool := 0xD800 ≤ n && n < 0xDC00

/-- The second unit of a pair. -/
def isLowSurrogate (n : Nat) : Bool := 0xDC00 ≤ n && n < 0xE000

/-- The characters of a text; none if half of a pair of units stands alone. -/
def text? : List Piece → Option (List Char)
  | [] => some []
  | .char c :: rest => (text? rest).map (c :: ·)
  | .unit high :: .unit low :: rest =>
    if isHighSurrogate high then
      if isLowSurrogate low then
        let n := 0x10000 + (high - 0xD800) * 0x400 + (low - 0xDC00)
        (text? rest).map (Char.ofNat n :: ·)
      else none
    else if isLowSurrogate high then none
    else (text? (.unit low :: rest)).map (Char.ofNat high :: ·)
  | .unit n :: rest =>
    if isHighSurrogate n || isLowSurrogate n then none
    else (text? rest).map (Char.ofNat n :: ·)

end ClusterProxy.Json
