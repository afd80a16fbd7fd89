import SqlNormal.Number.Digits
import SqlNormal.Sql.Token

/-!
# Spelling names and constants

How names and constants are spelled when an expression is shown. A mark inside is doubled unless it
is doubled or escaped already, so that a text that was shown before stays as it is.

* `escapeMarks`, `Ident.text`, `pathText`: names;
* `Constant`, `Constant.text`: constants;
* `listText`, `clauseText`: lists and optional clauses.
-/

namespace SqlNormal.Sql

/-- Doubles the marks of a text that stand alone; `before` is the character in front. A mark behind
a backslash and a pair of marks stay as they are. -/
def escapeMarks (mark : Char) (before : Char) : List Char → List Char
  | [] => []
  | [c] => if c = mark ∧ before ≠ '\\' then [mark, mark] else [c]
  | c :: d :: rest =>
    if c = mark then
      if before = '\\' then c :: escapeMarks mark before (d :: rest)
      else if d = mark then c :: d :: escapeMarks mark mark rest
      else c :: c :: escapeMarks mark mark (d :: rest)
    else c :: escapeMarks mark c (d :: rest)

/-- A text between marks. -/
def between (mark : Char) (s : String) : String :=
  String.ofList (mark :: escapeMarks mark '\x00' s.toList ++ [mark])

/-- A string between apostrophes. -/
def stringText (s : String) : String :=
  between Text.apostrophe s

/-- A name as it is shown. -/
def identText (i : Ident) : String :=
  match i.quote with
  | some mark =>
    if mark = '[' then "[" ++ i.value ++ "]" else between mark i.value
  | none => i.value

/-- A path of names as it is shown. -/
def pathText (parts : List Ident) : String :=
  ".".intercalate (parts.map identText)

/-- Items with commas between. -/
def listText (items : List String) : String :=
  ", ".intercalate items

/-- A clause behind something, if it is there. -/
def clauseText (before : String) (clause : Option String) (after : String) : String :=
  match clause with
  | some text => before ++ text ++ after
  | none => ""

/-- A text in parentheses. -/
def parens (text : String) : String :=
  "(" ++ text ++ ")"

/-- A constant. -/
inductive Constant where
  | number (numeral : Numeral) (long : Bool)
  | string (s : String)
  | marked (mark : StringMark) (s : String)
  | doubleMarked (s : String)
  | boolean (b : Bool)
  | null
  | placeholder (name : String)
deriving DecidableEq

/-- A character of an escaped string. -/
def escapedChar (c : Char) : List Char :=
  if c = Text.apostrophe then ['\\', c]
  else if c = '\\' then ['\\', '\\']
  else if c = '\n' then ['\\', 'n']
  else if c = '\t' then ['\\', 't']
  else if c = '\r' then ['\\', 'r']
  else [c]

/-- Upper-case hexadecimal digits of a number, at least `width` of them. -/
def hexDigits : (width : Nat) → Nat → List Char
  | 0, _ => []
  | width + 1, n =>
    hexDigits width (n / 16) ++
      [if n % 16 < 10 then Number.digitChar (n % 16) else Char.ofNat ('A'.toNat + (n % 16 - 10))]

/-- A character of a string with code points. -/
def unicodeChar (c : Char) : List Char :=
  if c = Text.apostrophe then [c, c]
  else if c = '\\' then ['\\', '\\']
  else if c.toNat < 0x80 then [c]
  else if c.toNat ≤ 0xFFFF then '\\' :: hexDigits 4 c.toNat
  else '\\' :: '+' :: hexDigits 6 c.toNat

/-- The characters of a marked string as they are shown. -/
def StringMark.body (mark : StringMark) (s : String) : String :=
  match mark with
  | .escaped => String.ofList (s.toList.flatMap escapedChar)
  | .unicode => String.ofList (s.toList.flatMap unicodeChar)
  | _ => s

/-- A constant as it is shown. -/
def Constant.text : Constant → String
  | number numeral long => numeral.text long
  | string s => stringText s
  | marked mark s => mark.marks.1 ++ mark.body s ++ mark.marks.2
  | doubleMarked s => between Text.doubleQuote s
  | boolean true => "true"
  | boolean false => "false"
  | null => "NULL"
  | placeholder name => name

end SqlNormal.Sql
