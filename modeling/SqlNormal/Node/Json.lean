import SqlNormal.Json.Basic
import SqlNormal.Node.Basic

/-!
# Nodes as JSON

The form in which nodes are handed on: alternatives by name, fields in a fixed order. How a
floating-point number is written is left open.

* `Operator.name`, `SqlType.toJson`, `Value.toJson`, `Node.toJson`;
* `Json.ofDouble`: the shortest numeral of a number, positional in a middle range.
-/

namespace SqlNormal

/-- The name of an operator. -/
def Operator.name : Operator → String
  | plus => "Plus"
  | minus => "Minus"
  | multiply => "Multiply"
  | divide => "Divide"
  | modulo => "Modulo"
  | concat => "Concat"
  | eq => "Eq"
  | notEq => "NotEq"
  | lt => "Lt"
  | ltEq => "LtEq"
  | gt => "Gt"
  | gtEq => "GtEq"
  | like => "Like"
  | notLike => "NotLike"
  | and => "And"
  | or => "Or"
  | not => "Not"
  | negate => "Negate"
  | identity => "Identity"
  | isNull => "IsNull"
  | isNotNull => "IsNotNull"

/-- A type. -/
def SqlType.toJson : SqlType → Json
  | null => .string "Null"
  | boolean => .string "Boolean"
  | smallInt => .string "SmallInt"
  | integer => .string "Integer"
  | bigInt => .string "BigInt"
  | real => .string "Real"
  | doublePrecision => .string "DoublePrecision"
  | numeric precision scale =>
    .tagged "Numeric"
      (.object [("precision", .ofOption .ofNat precision), ("scale", .ofOption .ofNat scale)])
  | char length => .tagged "Char" (.ofOption .ofNat length)
  | varchar length => .tagged "Varchar" (.ofOption .ofNat length)
  | text => .string "Text"
  | bytea => .string "Bytea"
  | date => .string "Date"
  | time zone => .tagged "Time" (.object [("with_time_zone", .bool zone)])
  | timestamp zone => .tagged "Timestamp" (.object [("with_time_zone", .bool zone)])
  | interval => .string "Interval"
  | inet => .string "Inet"
  | cidr => .string "Cidr"
  | macAddr => .string "MacAddr"
  | geometry => .string "Geometry"
  | box2D => .string "Box2D"
  | box3D => .string "Box3D"
  | custom name => .tagged "Custom" (.string name)

/-- A constant's value. -/
def Value.toJson (double : Binary64 → Json) : Value → Json
  | null => .string "Null"
  | boolean b => .tagged "Boolean" (.bool b)
  | integer i => .tagged "Integer" (.ofInt i)
  | decimal d => .tagged "Decimal" (.string (String.ofList d.text))
  | .double x => .tagged "Double" (double x)
  | varchar s => .tagged "Varchar" (.string s)
  | date d => .tagged "Date" (.string (String.ofList d.text))
  | time t => .tagged "Time" (.string (String.ofList t.text))
  | timestamp t => .tagged "Timestamp" (.string (String.ofList (t.text 'T')))
  | interval text => .tagged "Interval" (.string text)
  | keyword word => .tagged "Keyword" (.string word)

/-- A positional numeral with a point, also in an integer. -/
def Binary64.Digits.pointed (d : Binary64.Digits) : List Char :=
  if (d.digits.length : Int) ≤ d.point then d.positional ++ ['.', '0'] else d.positional

/-- A number of JSON: positional from five zeros behind the point to sixteen digits before it. What
is not finite has no number. -/
def Json.ofDouble (x : Binary64) : Json :=
  if !x.isFinite then null
  else
    number (String.ofList (x.textWith "0.0".toList fun d =>
      if -5 < d.point ∧ d.point ≤ 16 then d.pointed else d.scientific))

namespace Node

/-- A node with the notes on it around its kind. -/
def labelled (l : Labels) (kind : Json) : Json :=
  .object [("kind", kind), ("alias", .ofOption .string l.name),
    ("outer_alias", .ofOption .string l.outerName), ("parenthesized", .bool l.parenthesized),
    ("raw_text", .string l.rawText)]

/-- The fields of a call. -/
def callFields (double : Binary64 → Json) (h : CallHead) (params : List Json) : Json :=
  .object [("function_id", .ofNat h.id.val), ("function_name", .string h.name),
    ("params", .array params), ("arg_separator", .string h.separator),
    ("distinct", .bool h.distinct), ("all", .bool h.all), ("parenthesized", .bool h.parenthesized),
    ("session_value", .ofOption (Value.toJson double) h.sessionValue)]

/-- A path of names. -/
def namesJson (names : List String) : Json :=
  .array (names.map Json.string)

/-- The fields of a CASE. -/
def caseFields (branches : List Json) (otherwise : Json) : Json :=
  .object [("branches", .array branches), ("default", otherwise)]

/-- A node, with a way to write floating-point numbers. -/
def toJson (double : Binary64 → Json) : Node → Json
  | constant l value => labelled l (.tagged "Constant" (value.toJson double))
  | column l qualifier name =>
    labelled l (.tagged "ColumnRef"
      (.object [("qualifier", namesJson qualifier), ("column", .string name)]))
  | columns l qualifier =>
    labelled l (.tagged "ColumnList" (.object [("qualifier", namesJson qualifier)]))
  | call l head params =>
    labelled l (.tagged "FunctionCall" (callFields double head (jsonList params)))
  | case l branches (some otherwise) =>
    labelled l (.tagged "Case" (caseFields (jsonBranches branches) (toJson double otherwise)))
  | case l branches none => labelled l (.tagged "Case" (caseFields (jsonBranches branches) .null))
  | cast l operand target =>
    labelled l (.tagged "Cast"
      (.object [("expr", toJson double operand), ("target_type", target.toJson)]))
  | operation l op operands =>
    labelled l (.tagged "Operator"
      (.object [("op", .string op.name), ("operands", .array (jsonList operands))]))
termination_by structural n => n
where
  /-- Nodes in a row. -/
  jsonList : List Node → List Json
    | [] => []
    | n :: ns => toJson double n :: jsonList ns
  termination_by structural ns => ns
  /-- The branches of a CASE. -/
  jsonBranches : List (Node × Node) → List Json
    | [] => []
    | (predicate, result) :: rest =>
      .object [("predicate", toJson double predicate), ("result", toJson double result)] ::
        jsonBranches rest
  termination_by structural bs => bs

end Node

end SqlNormal
