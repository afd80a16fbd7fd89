import SqlNormal.Calendar.Basic
import SqlNormal.Number.Binary64
import SqlNormal.Number.Decimal
import SqlNormal.Text.Quoted

/-!
# Constants

The payload of a constant: a literal of the source, a value taken from the session, or a keyword
that stands among the arguments of a call.

* `Value`;
* `Value.ofNumeral?`: the most exact reading of a numeral;
* `Value.toSql`: the literal that denotes the value; `Value.display`: the bare value.
-/

namespace SqlNormal

/-- A constant. -/
inductive Value where
  | null
  | boolean (b : Bool)
  | integer (i : Int)
  | decimal (d : Decimal)
  | double (x : Binary64)
  | varchar (s : String)
  | date (d : Date)
  | time (t : Time)
  | timestamp (t : Timestamp)
  | interval (text : String)
  | keyword (word : String)
deriving DecidableEq

namespace Value

/-- The integers that are kept as such. -/
def isInt64 (i : Int) : Bool :=
  -Int.pow 2 63 ≤ i && i < Int.pow 2 63

/-- Reads a numeral: as a 64-bit integer, else without an exponent as an exact decimal, else as a
finite floating-point number. -/
def ofNumeral? (s : String) : Option Value :=
  match (Number.integer? s).filter isInt64 with
  | some i => some (integer i)
  | none =>
    let exact :=
      if s.toList.contains 'e' || s.toList.contains 'E' then none else Decimal.read? s.toList
    match exact with
    | some d => some (decimal d)
    | none => ((Binary64.read? s.toList).filter Binary64.isFinite).map double

/-- The null value. -/
def isNull : Value → Bool
  | null => true
  | _ => false

/-- A keyword. -/
def isKeyword : Value → Bool
  | keyword _ => true
  | _ => false

/-- The integer of an integer constant. -/
def int? : Value → Option Int
  | integer i => some i
  | _ => none

/-- The text of a string or keyword. -/
def str? : Value → Option String
  | varchar s | keyword s => some s
  | _ => none

/-- A word and a quoted text. -/
def typed (word : String) (text : List Char) : String :=
  word ++ " " ++ Text.quoteString (String.ofList text)

/-- The value as a SQL literal. -/
def toSql : Value → String
  | null => "NULL"
  | boolean true => "TRUE"
  | boolean false => "FALSE"
  | integer i => String.ofList (Number.signedDigits i)
  | decimal d => String.ofList d.text
  | double x => String.ofList x.scientificText
  | varchar s => Text.quoteString s
  | date d => typed "DATE" d.text
  | time t => typed "TIME" t.text
  | timestamp t => typed "TIMESTAMP" (t.text ' ')
  | interval text => typed "INTERVAL" text.toList
  | keyword word => word

/-- The value as bare text. -/
def display : Value → String
  | null => "NULL"
  | boolean true => "true"
  | boolean false => "false"
  | integer i => String.ofList (Number.signedDigits i)
  | decimal d => String.ofList d.text
  | double x => String.ofList x.positionalText
  | varchar s => s
  | date d => String.ofList d.text
  | time t => String.ofList t.text
  | timestamp t => String.ofList (t.text ' ')
  | interval text => text
  | keyword word => word

end Value

end SqlNormal
