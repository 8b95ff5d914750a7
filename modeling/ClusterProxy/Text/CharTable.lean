import ClusterProxy.Text.Digits
import Std.Data.TreeMap

/-!
# Tables of characters

The properties that a character has by itself are tables with hundreds of rows. They are written as
text, in hexadecimal numbers of characters, and read into trees once.

A `CharMap` gives ranges of characters one value each, and a `CharSet` is a set of characters. Their
rows are single characters and ranges, as `41-5A 5F`.

A `CharTable` gives characters a list of characters. Its rows have one of three forms:

* `DF>73+73` gives one character a list, with a `+` between its members;
* `FF21>61,62,63` gives consecutive characters one list after the other;
* `41-5A>61` gives the characters of a range one character each, in order from `61` on, and
  `100-12E/2>101` does the same for every other character of a range, in steps of two.
-/

namespace ClusterProxy

namespace CharTable

/-- The pieces of a text between spaces and line ends. -/
def words (text : String) : List (List Char) :=
  (text.toList.splitOnP fun c => c == ' ' || c == '\n').filter fun word => !word.isEmpty

/-- The number that hexadecimal digits write. -/
def number (digits : List Char) : Nat :=
  digits.foldl (fun n c => 16 * n + (Text.hexDigit? c).getD 0) 0

end CharTable

/-- Values given to ranges of characters: by the first character of a range, its last one and the
value. -/
structure CharMap (α : Type) where
  ranges : Std.TreeMap Nat (Nat × α)

namespace CharMap

variable {α : Type}

/-- No character has a value. -/
def empty : CharMap α := ⟨∅⟩

/-- Gives a value to a range. -/
def insert (map : CharMap α) (value : α) (first last : Nat) : CharMap α :=
  ⟨map.ranges.insert first (last, value)⟩

/-- Gives a value to the characters that a row writes. -/
def insertRow (value : α) (map : CharMap α) (row : List Char) : CharMap α :=
  match (row.splitOn '-').map CharTable.number with
  | [first, last] => map.insert value first last
  | numbers => numbers.foldl (fun map n => map.insert value n n) map

/-- Gives each value to the characters that stand beside it. -/
def ofText (rows : List (α × String)) : CharMap α :=
  rows.foldl (fun map (value, text) => (CharTable.words text).foldl (insertRow value) map) empty

/-- The value of a character: that of the last range that begins at or below it, if it is in it. -/
def find? (map : CharMap α) (c : Char) : Option α :=
  match map.ranges.getEntryLE? c.toNat with
  | some (_, last, value) => if c.toNat ≤ last then some value else none
  | none => none

end CharMap

/-- A set of characters. -/
structure CharSet where
  members : CharMap Unit

namespace CharSet

/-- Reads a set. -/
def ofText (text : String) : CharSet := ⟨.ofText [((), text)]⟩

/-- Whether a character is in the set. -/
def contains (set : CharSet) (c : Char) : Bool := (set.members.find? c).isSome

end CharSet

/-- Lists of characters by the character they are given to. -/
structure CharTable where
  rows : Std.TreeMap Nat (List Char)

namespace CharTable

/-- Nothing is given. -/
def empty : CharTable := ⟨∅⟩

/-- Gives a character a list. -/
def insert (table : CharTable) (source : Nat) (target : List Char) : CharTable :=
  ⟨table.rows.insert source target⟩

/-- Gives the characters from `first` to `last` one character each, in steps from `target` on. -/
def insertRun (table : CharTable) (first last step target : Nat) : CharTable :=
  (List.range ((last - first) / step + 1)).foldl (fun table place =>
    table.insert (first + step * place) [Char.ofNat (target + step * place)]) table

/-- Gives consecutive characters one list after the other. -/
def insertEach (table : CharTable) (source : Nat) (targets : List (List Char)) : CharTable :=
  (targets.foldl (fun (table, source) target => (table.insert source target, source + 1))
    (table, source)).1

/-- The list of characters that numbers with `+` between them write. -/
def target (text : List Char) : List Char :=
  (text.splitOn '+').map fun digits => Char.ofNat (number digits)

/-- Gives what a row writes. -/
def insertRow (table : CharTable) (row : List Char) : CharTable :=
  let source := row.takeWhile fun c => c != '>'
  let targets := (row.dropWhile fun c => c != '>').drop 1
  match (source.splitOnP fun c => c == '-' || c == '/').map number with
  | [first, last] => table.insertRun first last 1 (number targets)
  | [first, last, step] => table.insertRun first last step (number targets)
  | _ => table.insertEach (number source) ((targets.splitOn ',').map target)

/-- Reads a table. -/
def ofText (text : String) : CharTable := (words text).foldl insertRow empty

/-- The list given to a character. -/
def find? (table : CharTable) (c : Char) : Option (List Char) := table.rows[c.toNat]?

end CharTable

end ClusterProxy
