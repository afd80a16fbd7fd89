/-!
# ASCII words

SQL words are compared without regard to the case of ASCII letters; every other character must be
the same. A position in a text is a byte offset.

* `upper`, `lower`, `sameWord`: case mapping of ASCII letters and the comparison it gives;
* `indexOf?`: the byte offset of the first occurrence of another text;
* `contains`: whether a text occurs in another.
-/

namespace SqlNormal.Text

/-- The text with its ASCII letters in upper case. -/
def upper (s : String) : String :=
  String.ofList (s.toList.map Char.toUpper)

/-- The text with its ASCII letters in lower case. -/
def lower (s : String) : String :=
  String.ofList (s.toList.map Char.toLower)

/-- Two texts are the same word if they differ only in the case of ASCII letters. -/
def sameWord (a b : String) : Bool :=
  upper a == upper b

/-- The byte offset of the first occurrence of `word`. -/
def indexOf? (word : List Char) : List Char → Option Nat
  | [] => if word.isEmpty then some 0 else none
  | c :: cs => if word.isPrefixOf (c :: cs) then some 0 else (indexOf? word cs).map (· + c.utf8Size)

/-- The text `word` occurs in `s`. -/
def contains (s word : String) : Bool :=
  (indexOf? word.toList s.toList).isSome

end SqlNormal.Text
