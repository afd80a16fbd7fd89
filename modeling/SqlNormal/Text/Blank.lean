/-!
# Blank characters

A character is blank if it has the Unicode property White_Space. Blanks separate words and are cut
from the ends of texts; lines end at a line feed, before which one carriage return is dropped.

* `isBlank`, `trimStart`, `trimEnd`, `trim`;
* `words`: the maximal runs without a blank;
* `lines`: the lines of a text, the last one also without a line feed.
-/

namespace SqlNormal.Text

/-- The Unicode property White_Space. -/
def isBlank (c : Char) : Bool :=
  let n := c.toNat
  (9 ≤ n && n ≤ 13) || n == 0x20 || n == 0x85 || n == 0xA0 || n == 0x1680 ||
    (0x2000 ≤ n && n ≤ 0x200A) || n == 0x2028 || n == 0x2029 || n == 0x202F || n == 0x205F ||
    n == 0x3000

/-- The characters from the first that is not blank. -/
def trimStart (cs : List Char) : List Char :=
  cs.dropWhile isBlank

/-- The characters up to the last that is not blank. -/
def trimEnd (cs : List Char) : List Char :=
  (cs.reverse.dropWhile isBlank).reverse

/-- The characters without the blanks at either end. -/
def trim (cs : List Char) : List Char :=
  trimEnd (trimStart cs)

/-- Trimming a string at both ends. -/
def trimmed (s : String) : String :=
  String.ofList (trim s.toList)

/-- A line is blank if all its characters are. -/
def isBlankLine (s : String) : Bool :=
  s.toList.all isBlank

/-- Collects the words of a text; `word` holds the word under way, reversed. -/
def wordsFrom (word : List Char) : List Char → List (List Char)
  | [] => if word.isEmpty then [] else [word.reverse]
  | c :: cs =>
    if isBlank c then
      if word.isEmpty then wordsFrom [] cs else word.reverse :: wordsFrom [] cs
    else wordsFrom (c :: word) cs

/-- The maximal runs of characters that are not blank, in order. -/
def words (s : String) : List String :=
  (wordsFrom [] s.toList).map String.ofList

/-- Drops one carriage return from the end of a line that a line feed ended. -/
def dropReturn (line : List Char) : List Char :=
  match line.reverse with
  | '\r' :: rest => rest.reverse
  | _ => line

/-- The lines of a text, without the line feed and a carriage return before it. -/
def lines (s : String) : List String :=
  go [] s.toList
where
  go (line : List Char) : List Char → List String
    | [] => if line.isEmpty then [] else [String.ofList line.reverse]
    | '\n' :: cs => String.ofList (dropReturn line.reverse) :: go [] cs
    | c :: cs => go (c :: line) cs

end SqlNormal.Text
