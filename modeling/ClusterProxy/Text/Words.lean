/-!
# Words and lines

The small text rules that dumps, redirects and settings are read by, on lists of characters:

* `Text.lines` cuts a text into lines, `Text.isBlank` says which characters are white space;
* `Text.words` keeps the non-empty pieces between single spaces;
* `Text.lower` folds ASCII letters to lower case.
-/

namespace ClusterProxy.Text

/-- White space: the characters with the Unicode property of that name. -/
def isBlank (c : Char) : Bool :=
  let n := c.toNat
  (0x09 ≤ n && n ≤ 0x0D) || n == 0x20 || n == 0x85 || n == 0xA0 || n == 0x1680 ||
  (0x2000 ≤ n && n ≤ 0x200A) || n == 0x2028 || n == 0x2029 || n == 0x202F || n == 0x205F ||
  n == 0x3000

/-- Drops the characters that satisfy `drops` from the end. -/
def dropEndWhile (drops : Char → Bool) (text : List Char) : List Char :=
  (text.reverse.dropWhile drops).reverse

/-- Drops one carriage return from the end. -/
def dropReturn (line : List Char) : List Char :=
  if line.getLast? = some '\r' then line.dropLast else line

/-- The lines of a text. A line ends with a line feed or a carriage return and a line feed; what
follows the last line feed is a line if it is not empty, and keeps a carriage return at its end. -/
def lines (text : List Char) : List (List Char) :=
  let pieces := text.splitOn '\n'
  pieces.dropLast.map dropReturn ++ (pieces.getLast?.filter fun last => !last.isEmpty).toList

/-- The non-empty pieces between spaces. -/
def words (text : List Char) : List (List Char) :=
  (text.splitOn ' ').filter fun piece => !piece.isEmpty

/-- Folds ASCII letters to lower case. -/
def lower (text : List Char) : List Char := text.map Char.toLower

/-- Equality up to the case of ASCII letters. -/
def sameWord (a b : List Char) : Bool := lower a == lower b

end ClusterProxy.Text
