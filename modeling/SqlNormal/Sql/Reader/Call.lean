import SqlNormal.Sql.Reader.Rules

/-!
# Reading calls

The arguments of a call and the clauses inside and behind its parentheses.

* `orderItem`: an item of an `ORDER BY`;
* `window`: a window in parentheses;
* `argument`, `argumentList`: arguments, with the clauses that may follow them;
* `callOf`: a call behind its name.
-/

namespace SqlNormal.Sql.Reader

variable (r : Rules)

/-- How gaps in an order are filled, as it is shown. -/
def fillText : Reader String := do
  let from? ← clause? "FROM" r.wholeText
  let to? ← clause? "TO" r.wholeText
  let step? ← clause? "STEP" r.wholeText
  return " WITH FILL" ++ clauseText " FROM " from? "" ++ clauseText " TO " to? "" ++
    clauseText " STEP " step? ""

/-- An item of an order, as it is shown. -/
def orderItem : Reader String := do
  let e ← r.wholeText
  let direction ← oneOf? ["ASC", "DESC"]
  let nulls ←
    if ← keywords? ["NULLS", "FIRST"] then pure " NULLS FIRST"
    else do
      pure (if ← keywords? ["NULLS", "LAST"] then " NULLS LAST" else "")
  let fill ← if ← keywords? ["WITH", "FILL"] then fillText r else pure ""
  return e ++ clauseText " " direction "" ++ nulls ++ fill

/-- An order, as it is shown. -/
def orderBy? : Reader (Option String) := do
  clauses? ["ORDER", "BY"] do return "ORDER BY " ++ listText (← separated (orderItem r))

/-- The treatment of nulls, if it is given. -/
def nullTreatment? : Reader (Option String) := do
  match ← oneOf? ["RESPECT", "IGNORE"] with
  | some word =>
    expectKeyword "NULLS"
    return some (word ++ " NULLS")
  | none => return none

/-- A bound of a window's frame, as it is shown. -/
def frameBound (interval : Reader Expr) : Reader String := do
  if ← keywords? ["CURRENT", "ROW"] then return "CURRENT ROW"
  let rows ←
    if ← keyword? "UNBOUNDED" then pure "UNBOUNDED"
    else match ← peek with
      | some (.string _) => do pure (← interval).text
      | _ => r.wholeText
  return rows ++ " " ++ (← expectOneOf ["PRECEDING", "FOLLOWING"])

/-- The frame of a window, as it is shown. -/
def windowFrame (interval : Reader Expr) : Reader String := do
  let units ← expectOneOf ["ROWS", "RANGE", "GROUPS"]
  if ← keyword? "BETWEEN" then
    let low ← frameBound r interval
    expectKeyword "AND"
    return units ++ " BETWEEN " ++ low ++ " AND " ++ (← frameBound r interval)
  else return units ++ " " ++ (← frameBound r interval)

/-- A window behind its opening parenthesis, as it is shown. -/
def window (interval : Reader Expr) : Reader String := do
  let base ← match ← peek with
    | some (.word i) =>
      if isKeyword (← keywordAt 0) then pure none
      else do
        skip 1
        pure (some (identText i))
    | _ => pure none
  let partition ← clauses? ["PARTITION", "BY"] do return "PARTITION BY " ++ (← r.wholeTexts)
  let order ← orderBy? r
  let frame ← if ← symbol? ")" then pure none
    else do
      let frame ← windowFrame r interval
      expectSymbol ")"
      pure (some frame)
  return parens (" ".intercalate
    (base.toList ++ partition.toList ++ order.toList ++ frame.toList))

/-- The sign between an argument's name and its value, as it is shown. -/
def namedOperator : Reader String := do
  if ← keyword? "VALUE" then return "VALUE"
  else if ← symbol? "=>" then return "=>"
  else if ← symbol? ":=" then return ":="
  else refuse

/-- A named argument, as it is shown. -/
def namedArgument : Reader String := do
  let name ← ident
  let sign ← namedOperator
  return identText name ++ " " ++ sign ++ " " ++ (← starOrExpr r.whole).text

/-- An argument. -/
def argument : Reader (Argument Expr) := do
  match ← attempt (namedArgument r) with
  | some text => return .other text
  | none =>
    match ← starOrExpr r.whole with
    | .all => return .star
    | .table parts => return .other (Star.table parts).text
    | .expr e => return .expr e

/-- What becomes of nulls in a structure that a call makes. -/
def nullClause? : Reader (Option String) := do
  if ← keywords? ["ABSENT", "ON", "NULL"] then return some "ABSENT ON NULL"
  else if ← keywords? ["NULL", "ON", "NULL"] then return some "NULL ON NULL"
  else return none

/-- What becomes of a list that is too long. -/
def overflow? : Reader (Option String) := do
  clauses? ["ON", "OVERFLOW"] do
    if ← keyword? "ERROR" then return "ON OVERFLOW ERROR"
    expectKeyword "TRUNCATE"
    let filler ← match ← peek with
      | some (.string _) | some (.marked _ _) => do pure (" " ++ (← r.wholeText))
      | _ => pure ""
    let word ← expectOneOf ["WITH", "WITHOUT"]
    expectKeyword "COUNT"
    return "ON OVERFLOW TRUNCATE" ++ filler ++ " " ++ word ++ " COUNT"

/-- A bound on the values that an aggregate takes. -/
def havingBound : Reader String := do
  let word ← expectOneOf ["MIN", "MAX"]
  return "HAVING " ++ word ++ " " ++ (← r.wholeText)

/-- The quantifier of a call. -/
def quantifier? : Reader (Option SetQuantifier) := do
  if ← keyword? "ALL" then
    if ← keyword? "DISTINCT" then refuse else return some .all
  else if ← keyword? "DISTINCT" then return some .distinct
  else return none

/-- What stands between the parentheses of a call. -/
structure ArgumentList where
  quantifier : Option SetQuantifier
  args : List (Argument Expr)
  clauses : List String
  treatsNulls : Bool

/-- The list as it is shown. -/
def ArgumentList.text (l : ArgumentList) : String :=
  Expr.argumentsText l.quantifier (Expr.text.textArguments l.args) l.clauses

/-- Arguments and clauses behind an opening parenthesis. -/
def argumentList : Reader ArgumentList := do
  let early ← nullClause?
  if ← symbol? ")" then return ⟨none, [], early.toList, false⟩
  let quantifier ← quantifier?
  let args ← separated (argument r)
  let nulls ← nullTreatment?
  let order ← orderBy? r
  let limit ← clause? "LIMIT" do return "LIMIT " ++ (← r.wholeText)
  let having ← clause? "HAVING" (havingBound r)
  let separator ← clause? "SEPARATOR" do return "SEPARATOR " ++ (← constant).text
  let overflow ← overflow? r
  let late ← nullClause?
  expectSymbol ")"
  return ⟨quantifier, args,
    early.toList ++ nulls.toList ++ order.toList ++ limit.toList ++ having.toList ++
      separator.toList ++ overflow.toList ++ late.toList, nulls.isSome⟩

/-- The order of a group, as its items are shown. -/
def withinGroup : Reader (List String) := do
  if ← keywords? ["WITHIN", "GROUP"] then
    inParens do
      expectKeywords ["ORDER", "BY"]
      separated (orderItem r)
  else return []

/-- The window of a call, as it is shown. -/
def callWindow? (interval : Reader Expr) : Reader (Option String) := do
  clause? "OVER" do
    if ← symbol? "(" then window r interval else return identText (← ident)

/-- A call behind its name. A second list of arguments makes the first one parameters. -/
def callOf (interval : Reader Expr) (name : List Ident) (start : Location) (braces : Bool) :
    Reader Expr := do
  expectSymbol "("
  let first ← argumentList r
  let (parameters, list) ←
    if ← symbol? "(" then do pure (some first.text, ← argumentList r) else pure (none, first)
  let group ← withinGroup r
  let nulls ← if list.treatsNulls then pure none else nullTreatment?
  let windowText ← callWindow? r interval
  return .call
    { name := name, start := start, braces := braces, parameters := parameters,
      withinGroup := group, nullTreatment := nulls, window := windowText }
    list.quantifier list.args list.clauses

end SqlNormal.Sql.Reader
