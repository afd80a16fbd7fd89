import SqlNormal.Sql.Reader.DataType

/-!
# The rules that call each other

Expressions, queries and statements occur inside each other. A reader of one of them is given the
readers for what lies inside.

* `Rules`: those readers; an expression is read as far as operators bind tighter than a level;
* `Strength`: the levels;
* `Star`, `Rules.starOrExpr`: an expression, or a star for columns;
* `dateTimeField`: the name of a part of a date.
-/

namespace SqlNormal.Sql

/-- The readers of what lies inside. -/
structure Rules where
  expr : (level : Nat) → Reader Expr
  query : Reader Query
  statement : Reader Statement

/-! ## Levels -/

namespace Strength

/-- Casts by colons and subscripts. -/
def colons : Nat := 50

/-- `AT TIME ZONE`. -/
def timeZone : Nat := 41

/-- Products, and signs in front of an operand. -/
def product : Nat := 40

/-- Sums. -/
def sum : Nat := 30

/-- `XOR`. -/
def xor : Nat := 24

/-- Bitwise conjunction. -/
def ampersand : Nat := 23

/-- Bitwise exclusion and shifts. -/
def caret : Nat := 22

/-- Bitwise disjunction. -/
def bar : Nat := 21

/-- Comparisons, `BETWEEN` and `IN`. -/
def comparison : Nat := 20

/-- Patterns. -/
def like : Nat := 19

/-- `IS`. -/
def is : Nat := 17

/-- Arrows and their kin. -/
def arrow : Nat := 16

/-- `NOT` in front of an operand. -/
def not : Nat := 15

/-- `AND`. -/
def and : Nat := 10

/-- `OR`. -/
def or : Nat := 5

end Strength

namespace Rules

variable (r : Rules)

/-- A whole expression. -/
def whole : Reader Expr := r.expr 0

/-- A whole expression as it is shown. -/
def wholeText : Reader String := do
  return (← r.whole).text

/-- Expressions with commas between, as they are shown. -/
def wholeTexts : Reader String := do
  return listText (← Reader.separated r.wholeText)

/-- A query as it is shown. -/
def queryText : Reader String := do
  return (← r.query).text

end Rules

/-- A star for all columns or for those of a table, or an expression. -/
inductive Star where
  | all
  | table (parts : List Ident)
  | expr (e : Expr)

/-- A star or an expression as it is shown. -/
def Star.text : Star → String
  | all => "*"
  | table parts => pathText parts ++ ".*"
  | expr e => e.text

namespace Reader

/-- The rest of a path in front of a star; if no star ends it, it is none. A point has to be
followed by a name or a star. -/
def tableStarFrom : Nat → Reader (Option (List Ident))
  | 0 => refuse
  | fuel + 1 => do
    if ← symbol? "." then
      if ← symbol? "*" then return some []
      let i ← ident
      return (← tableStarFrom fuel).map (i :: ·)
    else return none

/-- A star, or an expression; a path that no star ends is read as an expression. -/
def starOrExpr (whole : Reader Expr) : Reader Star := do
  let tokens ← get
  if ← symbol? "*" then return .all
  match tokens with
  | l :: rest =>
    match identOf? l.token with
    | some i =>
      set rest
      match ← tableStarFrom (rest.length + 1) with
      | some parts => return .table (i :: parts)
      | none =>
        set tokens
        return .expr (← whole)
    | none => return .expr (← whole)
  | [] => return .expr (← whole)

/-- The fields of a date that the language knows. -/
def knownFields : List String :=
  ["YEAR", "MONTH", "WEEK", "DAY", "DAYOFWEEK", "DAYOFYEAR", "DATE", "DATETIME", "HOUR", "MINUTE",
   "SECOND", "CENTURY", "DECADE", "DOY", "DOW", "EPOCH", "ISODOW", "ISOYEAR", "ISOWEEK", "JULIAN",
   "MICROSECOND", "MICROSECONDS", "MILLENIUM", "MILLENNIUM", "MILLISECOND", "MILLISECONDS",
   "NANOSECOND", "NANOSECONDS", "QUARTER", "TIME", "TIMEZONE", "TIMEZONE_ABBR", "TIMEZONE_HOUR",
   "TIMEZONE_MINUTE", "TIMEZONE_REGION"]

/-- The fields that may stand behind an interval's value. -/
def temporalUnits : List String :=
  ["YEAR", "MONTH", "WEEK", "DAY", "HOUR", "MINUTE", "SECOND", "CENTURY", "DECADE", "DOW", "DOY",
   "EPOCH", "ISODOW", "ISOYEAR", "JULIAN", "MICROSECOND", "MICROSECONDS", "MILLENIUM",
   "MILLENNIUM", "MILLISECOND", "MILLISECONDS", "NANOSECOND", "NANOSECONDS", "QUARTER",
   "TIMEZONE", "TIMEZONE_HOUR", "TIMEZONE_MINUTE"]

/-- A field of a date as it is shown: a known one in upper case, any other as it is written. A week
may name the day on which it begins. -/
def dateTimeField : Reader String := do
  match ← oneOf? knownFields with
  | some "WEEK" =>
    if ← peekSymbol "(" then return "WEEK" ++ parens (identText (← inParens ident))
    else return "WEEK"
  | some word => return word
  | none => return identText (← ident)

/-- The value and the qualifier of an interval behind its word. -/
def intervalOf (value : Reader Expr) : Reader Expr := do
  let v ← value
  let leading ←
    if temporalUnits.contains (← keywordAt 0) then some <$> dateTimeField else pure none
  if leading = some "SECOND" then
    if ← peekSymbol "(" then
      inParens do
        let p ← naturalNumber
        let s ← if ← symbol? "," then some <$> naturalNumber else pure none
        return .interval v ⟨leading, some p, none, s⟩
    else return .interval v ⟨leading, none, none, none⟩
  else
    let p ← precision?
    if ← keyword? "TO" then
      let last ← dateTimeField
      let s ← if last = "SECOND" then precision? else pure none
      return .interval v ⟨leading, p, some last, s⟩
    else return .interval v ⟨leading, p, none, none⟩

end Reader

end SqlNormal.Sql
