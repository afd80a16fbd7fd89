import SqlNormal.Number.Digits

/-!
# SQL types

The types that a cast can name, and their written form.

* `SqlType`;
* `SqlType.text`: the canonical spelling;
* `isNull`, `isNumeric`, `isCharacter`, `isTemporal`, `isSpatial`: classes of types.
-/

namespace SqlNormal

/-- A type that a cast can name. -/
inductive SqlType where
  | null
  | boolean
  | smallInt
  | integer
  | bigInt
  | real
  | doublePrecision
  | numeric (precision scale : Option Nat)
  | char (length : Option Nat)
  | varchar (length : Option Nat)
  | text
  | bytea
  | date
  | time (withTimeZone : Bool)
  | timestamp (withTimeZone : Bool)
  | interval
  | inet
  | cidr
  | macAddr
  | geometry
  | box2D
  | box3D
  | custom (name : String)
deriving DecidableEq

namespace SqlType

/-- A number in parentheses behind a type's name. -/
def withLength (name : String) (length : Option Nat) : String :=
  match length with
  | some n => name ++ "(" ++ String.ofList (Number.digits n) ++ ")"
  | none => name

/-- The written form of a type. -/
def toSql : SqlType → String
  | null => "NULL"
  | boolean => "BOOLEAN"
  | smallInt => "SMALLINT"
  | integer => "INTEGER"
  | bigInt => "BIGINT"
  | real => "REAL"
  | doublePrecision => "DOUBLE PRECISION"
  | numeric (some p) (some s) =>
    "NUMERIC(" ++ String.ofList (Number.digits p) ++ "," ++ String.ofList (Number.digits s) ++ ")"
  | numeric precision none => withLength "NUMERIC" precision
  | numeric none (some _) => "NUMERIC"
  | char length => withLength "CHAR" length
  | varchar length => withLength "VARCHAR" length
  | text => "TEXT"
  | bytea => "BYTEA"
  | date => "DATE"
  | time false => "TIME"
  | time true => "TIME WITH TIME ZONE"
  | timestamp false => "TIMESTAMP"
  | timestamp true => "TIMESTAMP WITH TIME ZONE"
  | interval => "INTERVAL"
  | inet => "INET"
  | cidr => "CIDR"
  | macAddr => "MACADDR"
  | geometry => "GEOMETRY"
  | box2D => "BOX2D"
  | box3D => "BOX3D"
  | custom name => name

/-- The type of a bare null. -/
def isNull : SqlType → Bool
  | null => true
  | _ => false

/-- Numbers, exact or approximate. -/
def isNumeric : SqlType → Bool
  | smallInt | integer | bigInt | real | doublePrecision | numeric _ _ => true
  | _ => false

/-- Character strings. -/
def isCharacter : SqlType → Bool
  | char _ | varchar _ | text => true
  | _ => false

/-- Dates, times and intervals. -/
def isTemporal : SqlType → Bool
  | date | time _ | timestamp _ | interval => true
  | _ => false

/-- Geometries and their boxes. -/
def isSpatial : SqlType → Bool
  | geometry | box2D | box3D => true
  | _ => false

end SqlType

end SqlNormal
