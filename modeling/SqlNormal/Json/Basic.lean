import SqlNormal.Number.Digits

/-!
# JSON values

Values of JSON with their fields in order, and their text over several lines.

* `Json`: a number is held by its numeral;
* `Json.ofNat`, `Json.ofOption`, `Json.tagged`: numbers, absent values, alternatives by name;
* `Json.pretty`: every item on a line of its own, two blanks deeper than what holds it.
-/

namespace SqlNormal

/-- A value of JSON. -/
inductive Json where
  | null
  | bool (b : Bool)
  | number (numeral : String)
  | string (s : String)
  | array (items : List Json)
  | object (fields : List (String × Json))

namespace Json

/-- A number. -/
def ofNat (n : Nat) : Json :=
  number (String.ofList (Number.digits n))

/-- An integer. -/
def ofInt (i : Int) : Json :=
  number (String.ofList (Number.signedDigits i))

/-- A value that may be absent. -/
def ofOption (f : α → Json) : Option α → Json
  | some x => f x
  | none => null

/-- An alternative with what it holds. -/
def tagged (name : String) (content : Json) : Json :=
  object [(name, content)]

/-- A hexadecimal digit. -/
def hexDigit (n : Nat) : Char :=
  if n < 10 then Number.digitChar n else Char.ofNat ('a'.toNat + (n - 10))

/-- A character inside a string. -/
def escapeChar (c : Char) : List Char :=
  if c = '"' then ['\\', '"']
  else if c = '\\' then ['\\', '\\']
  else if c = '\x08' then ['\\', 'b']
  else if c = '\x0c' then ['\\', 'f']
  else if c = '\n' then ['\\', 'n']
  else if c = '\r' then ['\\', 'r']
  else if c = '\t' then ['\\', 't']
  else if c.toNat < 0x20 then
    ['\\', 'u', '0', '0', hexDigit (c.toNat / 16), hexDigit (c.toNat % 16)]
  else [c]

/-- A string between its marks. -/
def quoted (s : String) : String :=
  String.ofList ('"' :: s.toList.flatMap escapeChar ++ ['"'])

/-- A line break and the blanks of a level. -/
def newLine (level : Nat) : String :=
  "\n" ++ String.ofList (List.replicate (2 * level) ' ')

/-- Lines between two brackets. -/
def block (level : Nat) (opening closing : String) (lines : List String) : String :=
  if lines.isEmpty then opening ++ closing
  else
    opening ++ newLine (level + 1) ++ ("," ++ newLine (level + 1)).intercalate lines ++
      newLine level ++ closing

/-- The text of a value at a level. -/
def prettyAt (level : Nat) : Json → String
  | null => "null"
  | bool true => "true"
  | bool false => "false"
  | number numeral => numeral
  | string s => quoted s
  | array items => block level "[" "]" (prettyItems (level + 1) items)
  | object fields => block level "\x7b" "\x7d" (prettyFields (level + 1) fields)
termination_by structural j => j
where
  /-- The texts of the items of an array. -/
  prettyItems (level : Nat) : List Json → List String
    | [] => []
    | item :: items => prettyAt level item :: prettyItems level items
  termination_by structural items => items
  /-- The texts of the fields of an object. -/
  prettyFields (level : Nat) : List (String × Json) → List String
    | [] => []
    | (name, value) :: fields =>
      (quoted name ++ ": " ++ prettyAt level value) :: prettyFields level fields
  termination_by structural fields => fields

/-- The text of a value over several lines. -/
def pretty (j : Json) : String :=
  prettyAt 0 j

end Json

end SqlNormal
