import SqlNormal.SqlType.Basic
import SqlNormal.Text.Ascii
import SqlNormal.Text.Blank

/-!
# Reading type names

A type name is a base name with modifiers in parentheses, which may stand in its middle:
`TIMESTAMP(3) WITH TIME ZONE`. Case and spacing of the base do not matter. A base that is not in the
table is passed through as it was written.

* `TypeFault`: why a name is no type;
* `namedTypes`: the table of base names, each with what it makes of the modifiers;
* `SqlType.read`: the reader.
-/

namespace SqlNormal

/-- Why a type name cannot be read. -/
inductive TypeFault where
  | unbalanced (name : String)
  | modifier (part name : String)
deriving DecidableEq

/-- The wording of a fault. -/
def TypeFault.message : TypeFault → String
  | unbalanced name => "unbalanced type modifier in '" ++ name ++ "'"
  | modifier part name => "invalid type modifier '" ++ part ++ "' in '" ++ name ++ "'"

namespace SqlType

/-- The base names in upper case; a type keeps as many of the modifiers as it has places for. -/
def namedTypes : List (String × (List Nat → SqlType)) :=
  [("BOOLEAN", fun _ => boolean), ("BOOL", fun _ => boolean),
   ("SMALLINT", fun _ => smallInt), ("INT2", fun _ => smallInt),
   ("INT", fun _ => integer), ("INTEGER", fun _ => integer), ("INT4", fun _ => integer),
   ("BIGINT", fun _ => bigInt), ("INT8", fun _ => bigInt),
   ("REAL", fun _ => real), ("FLOAT4", fun _ => real),
   ("DOUBLE", fun _ => doublePrecision), ("DOUBLE PRECISION", fun _ => doublePrecision),
   ("FLOAT", fun _ => doublePrecision), ("FLOAT8", fun _ => doublePrecision),
   ("NUMERIC", fun ms => numeric ms[0]? ms[1]?), ("DECIMAL", fun ms => numeric ms[0]? ms[1]?),
   ("DEC", fun ms => numeric ms[0]? ms[1]?),
   ("CHAR", fun ms => char ms[0]?), ("CHARACTER", fun ms => char ms[0]?),
   ("VARCHAR", fun ms => varchar ms[0]?), ("CHARACTER VARYING", fun ms => varchar ms[0]?),
   ("CHAR VARYING", fun ms => varchar ms[0]?),
   ("TEXT", fun _ => text), ("STRING", fun _ => text),
   ("BYTEA", fun _ => bytea), ("BLOB", fun _ => bytea), ("VARBINARY", fun _ => bytea),
   ("DATE", fun _ => date),
   ("TIME", fun _ => time false), ("TIME WITHOUT TIME ZONE", fun _ => time false),
   ("TIME WITH TIME ZONE", fun _ => time true), ("TIMETZ", fun _ => time true),
   ("TIMESTAMP", fun _ => timestamp false),
   ("TIMESTAMP WITHOUT TIME ZONE", fun _ => timestamp false),
   ("DATETIME", fun _ => timestamp false),
   ("TIMESTAMP WITH TIME ZONE", fun _ => timestamp true), ("TIMESTAMPTZ", fun _ => timestamp true),
   ("INTERVAL", fun _ => interval), ("INET", fun _ => inet), ("CIDR", fun _ => cidr),
   ("MACADDR", fun _ => macAddr), ("GEOMETRY", fun _ => geometry),
   ("BOX2D", fun _ => box2D), ("BOX3D", fun _ => box3D)]

/-- A name cut at its parentheses: the base before them, what they hold, the rest behind them. -/
structure NameParts where
  base : List Char
  inner : Option (List Char)
  rest : List Char

/-- Cuts a name at the first opening and the last closing parenthesis; `none` if there is an opening
one and no closing one behind it. -/
def cutName (name : List Char) : Option NameParts :=
  match name.dropWhile (· ≠ '(') with
  | [] => some ⟨name, none, []⟩
  | _ :: behind =>
    match behind.reverse.dropWhile (· ≠ ')') with
    | [] => none
    | _ :: inner =>
      some ⟨name.takeWhile (· ≠ '('), some inner.reverse,
        (behind.reverse.takeWhile (· ≠ ')')).reverse⟩

/-- The canonical spelling of a base name: one space between words, ASCII letters in upper case. -/
def canonicalBase (base : List Char) : String :=
  Text.upper (" ".intercalate (Text.words (String.ofList base)))

/-- Cuts a text at its commas. -/
def splitCommas : List Char → List (List Char)
  | [] => [[]]
  | c :: cs =>
    if c = ',' then [] :: splitCommas cs
    else match splitCommas cs with
      | [] => [[c]]
      | part :: parts => (c :: part) :: parts

/-- Reads one modifier of a type. -/
def readModifier (name : String) (part : List Char) : Except TypeFault Nat :=
  let part := String.ofList (Text.trim part)
  match Number.naturalBelow? (Nat.pow 2 32) part with
  | some n => .ok n
  | none => .error (.modifier part name)

/-- Reads the modifiers of a type, which commas part. -/
def readModifiers (name : String) (inner : List Char) : Except TypeFault (List Nat) :=
  (splitCommas inner).mapM (readModifier name)

/-- Reads a type name. -/
def read (name : String) : Except TypeFault SqlType := do
  let whole := Text.trim name.toList
  match cutName whole with
  | none => .error (.unbalanced name)
  | some parts =>
    let modifiers ← match parts.inner with
      | none => .ok []
      | some inner => readModifiers name inner
    match namedTypes.lookup (canonicalBase (parts.base ++ ' ' :: parts.rest)) with
    | some make => .ok (make modifiers)
    | none => .ok (custom (String.ofList whole))

end SqlType

end SqlNormal
