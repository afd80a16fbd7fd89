import SqlNormal.Text.Ascii

/-!
# Quoted text

A quoted text stands between two marks; a mark inside it is written twice. String literals use the
apostrophe. Names use the double quote, unless they are plain lower-case words.

* `double`, `quoteWith`: the written form between marks;
* `unquote?`: the reader of that form, which also gives what follows;
* `quoteString`, `quoteIdent`, `isPlain`: literals and names;
* `dotted`: the path of quoted names.
-/

namespace SqlNormal.Text

/-- The apostrophe. -/
def apostrophe : Char := Char.ofNat 39

/-- The double quote. -/
def doubleQuote : Char := Char.ofNat 34

/-- The text with every mark written twice. -/
def double (mark : Char) : List Char → List Char
  | [] => []
  | c :: cs => if c = mark then c :: c :: double mark cs else c :: double mark cs

/-- The text between marks. -/
def quoteWith (mark : Char) (cs : List Char) : List Char :=
  mark :: double mark cs ++ [mark]

/-- Reads the rest of a quoted text: up to the first mark that is not written twice. -/
def undouble? (mark : Char) : List Char → Option (List Char × List Char)
  | [] => none
  | [c] => if c = mark then some ([], []) else none
  | c :: d :: cs =>
    if c = mark then
      if d = mark then (undouble? mark cs).map fun r => (mark :: r.1, r.2) else some ([], d :: cs)
    else (undouble? mark (d :: cs)).map fun r => (c :: r.1, r.2)

/-- Reads a quoted text and gives what follows it. -/
def unquote? (mark : Char) : List Char → Option (List Char × List Char)
  | [] => none
  | c :: cs => if c = mark then undouble? mark cs else none

/-- A string as a character literal. -/
def quoteString (s : String) : String :=
  String.ofList (quoteWith apostrophe s.toList)

/-- A character that may start a plain name. -/
def isPlainStart (c : Char) : Bool :=
  c.isLower || c == '_'

/-- A character that may go on a plain name. -/
def isPlainPart (c : Char) : Bool :=
  c.isLower || c.isDigit || c == '_' || c == '$'

/-- A plain name is a lower-case ASCII word. -/
def isPlain : List Char → Bool
  | [] => false
  | c :: cs => isPlainStart c && cs.all isPlainPart

/-- A name, between double quotes unless it is plain. -/
def quoteIdent (name : String) : String :=
  if isPlain name.toList then name else String.ofList (quoteWith doubleQuote name.toList)

/-- A path of names. -/
def dotted (names : List String) : String :=
  ".".intercalate (names.map quoteIdent)

end SqlNormal.Text
