/-!
# Writing JSON

Values are written without white space. A text stands in quotes; quotes, backslashes and control
characters in it are escaped, and every other character stands for itself.
-/

namespace ClusterProxy.Json

/-- The letter that stands for a character behind a backslash. -/
def escapeLetter? (c : Char) : Option Char :=
  match c with
  | '"' => some '"'
  | '\\' => some '\\'
  | '\x08' => some 'b'
  | '\x0c' => some 'f'
  | '\n' => some 'n'
  | '\r' => some 'r'
  | '\t' => some 't'
  | _ => none

/-- Writes a character of a text. -/
def writeChar (c : Char) : List Char :=
  match escapeLetter? c with
  | some letter => ['\\', letter]
  | none =>
    if c.toNat < 0x20 then
      ['\\', 'u', '0', '0', Nat.digitChar (c.toNat / 16), Nat.digitChar (c.toNat % 16)]
    else [c]

/-- Writes a text. -/
def writeText (text : List Char) : List Char := '"' :: text.flatMap writeChar ++ ['"']

/-- Writes a number. -/
def writeNatural (n : Nat) : List Char := Nat.toDigits 10 n

/-- Writes an array of written values. -/
def writeArray (items : List (List Char)) : List Char := '[' :: [','].intercalate items ++ [']']

/-- Writes an object of written values. -/
def writeObject (fields : List (String × List Char)) : List Char :=
  let field (name : String) (value : List Char) := writeText name.toList ++ ':' :: value
  '\x7b' :: [','].intercalate (fields.map fun (name, value) => field name value) ++ ['\x7d']

end ClusterProxy.Json
