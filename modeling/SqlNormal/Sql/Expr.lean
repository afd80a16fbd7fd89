import SqlNormal.Sql.Spelling
import SqlNormal.Tree.Basic

/-!
# Expressions of the language

What can be read. The forms that may have a normal form keep their parts and clauses; of every other
form the text is enough.

* `DataType`, `TypeClass`: a type as it is shown, and what kind of type it is;
* `CastKind`, `CallClauses`, `Argument`, `IntervalQualifier`, `RoundingScale`: parts;
* `Expr`, `Expr.text`: expressions and the way they are shown;
* `SelectItem`, `QueryBody`, `Query`, `Statement`.
-/

namespace SqlNormal.Sql

/-- The kinds of types that are told apart. -/
inductive TypeClass where
  | temporal
  | interval
  | custom
  | other
deriving DecidableEq

/-- A type as it is shown. -/
structure DataType where
  text : String
  typeClass : TypeClass
deriving DecidableEq

/-- The ways to write a cast. -/
inductive CastKind where
  | cast
  | tryCast
  | safeCast
  | colons
deriving DecidableEq

/-- The word of a cast. -/
def CastKind.keyword : CastKind → String
  | cast | colons => "CAST"
  | tryCast => "TRY_CAST"
  | safeCast => "SAFE_CAST"

/-- What a call is written with beside its arguments. A parameter list stands in front of the
arguments; the braces of a call escape stand around all of it. -/
structure CallClauses where
  name : List Ident
  start : Location
  braces : Bool := false
  parameters : Option String := none
  withinGroup : List String := []
  filter : Option String := none
  nullTreatment : Option String := none
  window : Option String := none

/-- A call as it is shown, with its arguments and their parentheses. -/
def CallClauses.text (c : CallClauses) (arguments : String) : String :=
  let call := pathText c.name ++ c.parameters.getD "" ++ arguments ++
    (if c.withinGroup.isEmpty then ""
      else " WITHIN GROUP (ORDER BY " ++ listText c.withinGroup ++ ")") ++
    clauseText " FILTER (WHERE " c.filter ")" ++ clauseText " " c.nullTreatment "" ++
    clauseText " OVER " c.window ""
  if c.braces then "\x7bfn " ++ call ++ "\x7d" else call

/-- An argument of a call. Of one that is named, or stands for the columns of a table, the text is
kept. -/
inductive Argument (ε : Type) where
  | expr (e : ε)
  | star
  | other (text : String)

/-- The scale of a rounding: a field, a numeral, or none. -/
inductive RoundingScale where
  | none
  | field (name : String)
  | digits (c : Constant)

/-- What stands behind the value of an interval: fields and their precisions. -/
structure IntervalQualifier where
  leading : Option String
  leadingPrecision : Option Nat
  last : Option String
  fraction : Option Nat

/-- A number as it is shown. -/
def natText (n : Nat) : String :=
  String.ofList (Number.digits n)

/-- A qualifier as it is shown. -/
def IntervalQualifier.text (q : IntervalQualifier) : String :=
  match q.leading, q.leadingPrecision, q.fraction with
  | some "SECOND", some p, some s => " SECOND (" ++ natText p ++ ", " ++ natText s ++ ")"
  | _, _, _ =>
    clauseText " " q.leading "" ++ clauseText " (" (q.leadingPrecision.map natText) ")" ++
      clauseText " TO " q.last "" ++ clauseText " (" (q.fraction.map natText) ")"

/-- An expression. -/
inductive Expr where
  | constant (c : Constant)
  | name (ident : Ident)
  | path (parts : List Ident)
  | nested (inner : Expr)
  | binary (left : Expr) (op : String) (right : Expr)
  | unary (op : String) (operand : Expr)
  | isNull (operand : Expr) (negated : Bool)
  | like (operand : Expr) (negated any : Bool) (pattern : Expr) (escape : Option String)
  | bareCall (clauses : CallClauses)
  | queryCall (clauses : CallClauses) (query : String)
  | call (clauses : CallClauses) (quantifier : Option SetQuantifier)
      (args : List (Argument Expr)) (inner : List String)
  | case (operand : Option Expr) (branches : List (Expr × Expr)) (otherwise : Option Expr)
  | cast (kind : CastKind) (operand : Expr) (type : DataType) (format : Option String)
  | trim (spec : Option TrimSpec) (source : Expr) (what : Option Expr)
      (characters : Option (List Expr))
  | extract (field : String) (source : Expr) (comma : Bool)
  | substring (source : Expr) (start length : Option Expr) (comma : Bool)
  | position (needle haystack : Expr)
  | overlay (source what start : Expr) (length : Option Expr)
  | convert (isTry : Bool) (operand : Expr) (type : Option DataType) (charset : Option String)
  | rounding (keyword : String) (operand : Expr) (scale : RoundingScale)
  | typed (type : DataType) (s : String)
  | interval (value : Expr) (qualifier : IntervalQualifier)
  | other (text : String)

namespace Expr

/-- The word of a negation and the blank behind it. -/
def notText (negated : Bool) : String :=
  if negated then "NOT " else ""

/-- A pattern match as it is shown, with its word. -/
def matchText (word left pattern : String) (negated any : Bool) (escape : Option String) : String :=
  left ++ " " ++ notText negated ++ word ++ " " ++ (if any then "ANY " else "") ++ pattern ++
    clauseText " ESCAPE '" escape "'"

/-- The arguments of a call as they are shown. -/
def argumentsText (quantifier : Option SetQuantifier) (args inner : List String) : String :=
  parens (clauseText "" (quantifier.map SetQuantifier.text) " " ++ listText args ++
    (if inner.isEmpty then "" else (if args.isEmpty then "" else " ") ++ " ".intercalate inner))

/-- A CASE as it is shown. -/
def caseText (operand : Option String) (branches : List (String × String))
    (otherwise : Option String) : String :=
  "CASE" ++ clauseText " " operand "" ++
    String.join (branches.map fun b => " WHEN " ++ b.1 ++ " THEN " ++ b.2) ++
    clauseText " ELSE " otherwise "" ++ " END"

/-- A cast as it is shown. -/
def castText (kind : CastKind) (operand type : String) (format : Option String) : String :=
  match kind with
  | .colons => operand ++ "::" ++ type
  | _ => kind.keyword ++ "(" ++ operand ++ " AS " ++ type ++ clauseText " FORMAT " format "" ++ ")"

/-- A conversion as it is shown. -/
def convertText (isTry : Bool) (operand : String) (type charset : Option String) : String :=
  (if isTry then "TRY_CONVERT(" else "CONVERT(") ++ operand ++
    (match type with
      | some type => ", " ++ type ++ clauseText " CHARACTER SET " charset ""
      | none => clauseText " USING " charset "") ++ ")"

/-- The scale of a rounding as it is shown. -/
def scaleText : RoundingScale → String
  | .none => ""
  | .field word => " TO " ++ word
  | .digits c => ", " ++ c.text

/-- An operator in front of its operand, as it is shown. -/
def unaryText (op operand : String) : String :=
  if op = "NOT" then op ++ " " ++ operand else op ++ operand

/-- A TRIM as it is shown. -/
def trimText (spec : Option TrimSpec) (source : String) (what : Option String)
    (characters : Option String) : String :=
  "TRIM(" ++ clauseText "" (spec.map TrimSpec.text) " " ++ clauseText "" what " FROM " ++ source ++
    clauseText ", " characters "" ++ ")"

/-- An expression as it is shown. -/
def text : Expr → String
  | constant c => c.text
  | name ident => identText ident
  | path parts => pathText parts
  | nested inner => parens (text inner)
  | binary left op right => text left ++ " " ++ op ++ " " ++ text right
  | unary op operand => unaryText op (text operand)
  | isNull operand negated => text operand ++ (if negated then " IS NOT NULL" else " IS NULL")
  | like operand negated any pattern escape =>
    matchText "LIKE" (text operand) (text pattern) negated any escape
  | bareCall clauses => clauses.text ""
  | queryCall clauses query => clauses.text (parens query)
  | call clauses quantifier args inner =>
    clauses.text (argumentsText quantifier (textArguments args) inner)
  | case operand branches otherwise =>
    caseText (textOption operand) (textBranches branches) (textOption otherwise)
  | cast kind operand type format => castText kind (text operand) type.text format
  | trim spec source what none => trimText spec (text source) (textOption what) none
  | trim spec source what (some characters) =>
    trimText spec (text source) (textOption what) (some (listText (textList characters)))
  | extract field source comma =>
    "EXTRACT(" ++ field ++ (if comma then ", " else " FROM ") ++ text source ++ ")"
  | substring source start length comma =>
    "SUBSTRING(" ++ text source ++
      clauseText (if comma then ", " else " FROM ") (textOption start) "" ++
      clauseText (if comma then ", " else " FOR ") (textOption length) "" ++ ")"
  | position needle haystack => "POSITION(" ++ text needle ++ " IN " ++ text haystack ++ ")"
  | overlay source what start length =>
    "OVERLAY(" ++ text source ++ " PLACING " ++ text what ++ " FROM " ++ text start ++
      clauseText " FOR " (textOption length) "" ++ ")"
  | convert isTry operand type charset =>
    convertText isTry (text operand) (type.map DataType.text) charset
  | rounding keyword operand scale => keyword ++ "(" ++ text operand ++ scaleText scale ++ ")"
  | typed type s => type.text ++ " " ++ stringText s
  | interval value qualifier => "INTERVAL " ++ text value ++ qualifier.text
  | other shown => shown
termination_by structural e => e
where
  /-- Expressions in a row, as they are shown. -/
  textList : List Expr → List String
    | [] => []
    | e :: es => text e :: textList es
  termination_by structural es => es
  /-- Arguments as they are shown. -/
  textArguments : List (Argument Expr) → List String
    | [] => []
    | .expr e :: args => text e :: textArguments args
    | .star :: args => "*" :: textArguments args
    | .other shown :: args => shown :: textArguments args
  termination_by structural args => args
  /-- The branches of a CASE as they are shown. -/
  textBranches : List (Expr × Expr) → List (String × String)
    | [] => []
    | (condition, result) :: rest => (text condition, text result) :: textBranches rest
  termination_by structural bs => bs
  /-- An expression that may be absent, as it is shown. -/
  textOption : Option Expr → Option String
    | none => none
    | some e => some (text e)
  termination_by structural e => e

end Expr

/-- An item of a projection. Options of a star are kept as text. -/
inductive SelectItem where
  | star (options : String)
  | tableStar (table : List Ident) (options : String)
  | expr (e : Expr) (name : Option Ident)

/-- An item as it is shown. -/
def SelectItem.text : SelectItem → String
  | star options => "*" ++ options
  | tableStar table options => pathText table ++ ".*" ++ options
  | expr e name => e.text ++ clauseText " AS " (name.map identText) ""

/-- The body of a query: a projection, or something that has none of its own. -/
inductive QueryBody where
  | select (items : List SelectItem)
  | other

/-- A query and the way it is shown. -/
structure Query where
  body : QueryBody
  text : String

/-- A statement: a query, an explanation of another statement, or anything else as it is shown. -/
inductive Statement where
  | query (q : Query)
  | explanation (text : String)
  | other (text : String)

/-- A statement as it is shown. -/
def Statement.text : Statement → String
  | query q => q.text
  | explanation shown => shown
  | other shown => shown

end SqlNormal.Sql
