import SqlNormal.Ident
import SqlNormal.Number.Binary64

/-!
# Tokens

What a statement is made of, and where each piece begins.

* `Location`, `Location.next`, `byteOffset?`: lines and columns, and the byte at which they lie;
* `StringMark`, `Token`: strings by the way they are marked; a mark or operator is held by its
  spelling;
* `Token.text`: the spelling of a token;
* `Lexeme`: a token and its beginning.
-/

namespace SqlNormal.Sql

/-- A line and a column, both counted from one. A column counts characters. -/
structure Location where
  line : Nat
  column : Nat
deriving DecidableEq

/-- The beginning of a text. -/
def Location.start : Location := ⟨1, 1⟩

/-- The place behind a character. -/
def Location.next (l : Location) (c : Char) : Location :=
  if c = '\n' then ⟨l.line + 1, 1⟩ else ⟨l.line, l.column + 1⟩

/-- Skips `n` lines: the bytes that they take and what is left. -/
def skipLines? : Nat → List Char → Option (Nat × List Char)
  | 0, cs => some (0, cs)
  | _ + 1, [] => none
  | n + 1, c :: cs =>
    (if c = '\n' then skipLines? n cs else skipLines? (n + 1) cs).map fun r =>
      (r.1 + c.utf8Size, r.2)

/-- Skips `n` characters in front of another one: the bytes that they take. -/
def skipColumns? : Nat → List Char → Option Nat
  | _, [] => none
  | 0, _ :: _ => some 0
  | n + 1, c :: cs => (skipColumns? n cs).map (· + c.utf8Size)

/-- The byte at which a location of a text lies. -/
def byteOffset? (source : List Char) (l : Location) : Option Nat :=
  if l.line = 0 ∨ l.column = 0 then none
  else
    match skipLines? (l.line - 1) source with
    | some (bytes, rest) => (skipColumns? (l.column - 1) rest).map (bytes + ·)
    | none => none

/-- How a string that is not a plain one is marked. -/
inductive StringMark where
  | national
  | escaped
  | unicode
  | hex
  | bytes
  | bytesDouble
  | raw
  | rawDouble
  | rawTriple
  | rawTripleDouble
  | dollar (tag : String)
deriving DecidableEq

/-- What stands before and behind the characters of a string. -/
def StringMark.marks : StringMark → String × String
  | national => ("N'", "'")
  | escaped => ("E'", "'")
  | unicode => ("U&'", "'")
  | hex => ("X'", "'")
  | bytes => ("B'", "'")
  | bytesDouble => ("B\"", "\"")
  | raw => ("R'", "'")
  | rawDouble => ("R\"", "\"")
  | rawTriple => ("R'''", "'''")
  | rawTripleDouble => ("R\"\"\"", "\"\"\"")
  | dollar tag => ("$" ++ tag ++ "$", "$" ++ tag ++ "$")

/-- A numeral: digits that can be read as a number without a sign. -/
structure Numeral where
  digits : String
  readable : (Binary64.readMagnitude? digits.toList).isSome
deriving DecidableEq

/-- A token. -/
inductive Token where
  | word (ident : Ident)
  | number (numeral : Numeral) (long : Bool)
  | string (s : String)
  | marked (mark : StringMark) (s : String)
  | placeholder (name : String)
  | symbol (spelling : String)
deriving DecidableEq

/-- A numeral as it is shown; a long one ends with a letter. -/
def Numeral.text (n : Numeral) (long : Bool) : String :=
  if long then n.digits ++ "L" else n.digits

/-- The spelling of a token. -/
def Token.text : Token → String
  | word ident => ident.written
  | number numeral long => numeral.text long
  | string s => "'" ++ s ++ "'"
  | marked mark s => mark.marks.1 ++ s ++ mark.marks.2
  | placeholder name => name
  | symbol spelling => spelling

/-- A token where it begins. -/
structure Lexeme where
  token : Token
  start : Location

end SqlNormal.Sql
