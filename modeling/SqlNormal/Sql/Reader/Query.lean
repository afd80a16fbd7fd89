import SqlNormal.Sql.Reader.Change

/-!
# Reading queries

A query has a body: a projection, rows of values, a query in parentheses, or a union of bodies.
Tables may be named in front of it, and clauses for all of its rows may stand behind it.

* `select`: a projection and its clauses;
* `bodyOf`: a body, as far as unions and their kin bind tighter than a level;
* `queryOf`: a query.
-/

namespace SqlNormal.Sql.Reader

variable (r : Rules)

/-! ## A projection and its clauses -/

/-- Which rows are kept, as it is shown. -/
def distinctText : Reader String := do
  let all ← keyword? "ALL"
  if ← keyword? "DISTINCT" then
    if all then refuse
    if ← keyword? "ON" then
      return " DISTINCT ON " ++ parens (listText (← inParens (separatedOrNone ")" r.wholeText)))
    else return " DISTINCT"
  else return ""

/-- How many rows are kept, behind its word, as it is shown. -/
def topText : Reader String := do
  let quantity ←
    if ← peekSymbol "(" then do pure (parens (← inParens r.wholeText))
    else do pure (natText (← naturalNumber))
  let percent ← wordText "PERCENT"
  let ties := if ← keywords? ["WITH", "TIES"] then " WITH TIES" else ""
  return " TOP " ++ quantity ++ percent ++ ties

/-- The table that rows go to, behind its word, as it is shown. -/
def intoText : Reader String := do
  let word ← oneOf? ["TEMP", "TEMPORARY"]
  let lasting := (if word.isSome then " TEMPORARY" else "") ++ (← wordText "UNLOGGED") ++
    (← wordText "TABLE")
  return " INTO" ++ lasting ++ " " ++ (← objectText)

/-- A table that is made of each row, behind its words, as it is shown. -/
def lateralView : Reader String := do
  let outer ← wordText "OUTER"
  let e ← r.wholeText
  let name ← objectText
  let columns ← separated (optionalName ["WHERE", "GROUP", "CLUSTER", "HAVING", "LATERAL"])
  let columns := (columns.filterMap id).map identText
  return " LATERAL VIEW" ++ outer ++ " " ++ e ++ " " ++ name ++
    (if columns.isEmpty then "" else " AS " ++ listText columns)

/-- Expressions that are grouped together. -/
def groupMembers : Reader (List String) := do
  if ← peekSymbol "(" then inParens (separatedOrNone ")" r.wholeText)
  else return [← r.wholeText]

/-- Groups in parentheses. -/
def groups : Reader (List (List String)) :=
  inParens (separated (groupMembers r))

/-- Groups as they are shown; a group of one needs no parentheses. -/
def groupsText (word : String) (gs : List (List String)) : String :=
  word ++ " " ++ parens (listText (gs.map fun
    | [e] => e
    | es => parens (listText es)))

/-- What rows are grouped by, as it is shown. -/
def groupItem : Reader String := do
  if ← keywords? ["GROUPING", "SETS"] then
    return "GROUPING SETS " ++ parens (listText ((← groups r).map fun g => parens (listText g)))
  else if ← keyword? "CUBE" then return groupsText "CUBE" (← groups r)
  else if ← keyword? "ROLLUP" then return groupsText "ROLLUP" (← groups r)
  else if (← peekSymbol "(") && (← symbolSecond ")") then
    skip 2
    return "()"
  else r.wholeText

/-- The groups of rows, behind their words, as they are shown. -/
def groupByText : Reader String := do
  let items ← if ← keyword? "ALL" then pure "ALL" else listText <$> separated (groupItem r)
  let totals ← repeated do
    if ← keyword? "WITH" then some <$> expectOneOf ["ROLLUP", "CUBE", "TOTALS"] else return none
  return " GROUP BY " ++ items ++ String.join (totals.map (" WITH " ++ ·))

/-- A window with a name, as it is shown. -/
def namedWindow : Reader String := do
  let i ← ident
  expectKeyword "AS"
  let w ← if ← symbol? "(" then window r (beginning r) else identText <$> ident
  return identText i ++ " AS " ++ w

/-- A clause of a keyword, as it is shown. -/
def wordClause (word : String) (body : Reader String) : Reader String := do
  return clauseText (" " ++ word ++ " ") (← clause? word body) ""

/-- A clause of two keywords, as it is shown. -/
def byClause (word : String) (body : Reader String) : Reader String := do
  return clauseText (" " ++ word ++ " BY ") (← clauses? [word, "BY"] body) ""

/-- The windows and the condition on them, in either order, as they are shown. -/
def windowClauses : Reader String := do
  let named := wordClause "WINDOW" (listText <$> separated (namedWindow r))
  let qualified := wordClause "QUALIFY" r.wholeText
  if ← peekKeyword "WINDOW" then return (← named) ++ (← qualified)
  else return (← qualified) ++ (← named)

/-- A projection and its clauses, behind its word. -/
def select : Reader Query := do
  let distinct ← distinctText r
  let top ← clause? "TOP" (topText r)
  let items ← selectItems r
  let into ← clause? "INTO" intoText
  let tables ← wordClause "FROM" (tablesText r)
  let views ← repeated (clauses? ["LATERAL", "VIEW"] (lateralView r))
  let early ← wordClause "PREWHERE" r.wholeText
  let condition ← whereText r
  let grouped ← clauses? ["GROUP", "BY"] (groupByText r)
  let clustered ← byClause "CLUSTER" r.wholeTexts
  let distributed ← byClause "DISTRIBUTE" r.wholeTexts
  let sorted ← byClause "SORT" r.wholeTexts
  let having ← wordClause "HAVING" r.wholeText
  let windows ← windowClauses r
  return ⟨.select items,
    "SELECT" ++ distinct ++ top.getD "" ++ " " ++ itemsText items ++ into.getD "" ++ tables ++
      String.join views ++ early ++ condition ++ grouped.getD "" ++ clustered ++ distributed ++
      sorted ++ having ++ windows⟩

/-! ## Bodies -/

/-- A body without unions. -/
def plainBody : Reader Query := do
  if ← keyword? "SELECT" then select r
  else if ← peekSymbol "(" then return ⟨.other, parens (← inParens r.queryText)⟩
  else if ← keyword? "VALUES" then return ⟨.other, ← valuesText r⟩
  else if ← keyword? "TABLE" then
    match ← objectName with
    | [s, t] => return ⟨.other, "TABLE " ++ s.value ++ "." ++ t.value⟩
    | _ => refuse
  else refuse

/-- The level of a word between bodies; zero if it is none. -/
def unionLevel (word : String) : Nat :=
  match word with
  | "UNION" | "EXCEPT" => 10
  | "INTERSECT" => 20
  | _ => 0

/-- Which rows of two bodies are kept, as it is shown. -/
def unionQuantifier : Reader String := do
  if ← keywords? ["DISTINCT", "BY", "NAME"] then return " DISTINCT BY NAME"
  else if ← keywords? ["BY", "NAME"] then return " BY NAME"
  else if ← keyword? "ALL" then
    return if ← keywords? ["BY", "NAME"] then " ALL BY NAME" else " ALL"
  else wordText "DISTINCT"

/-- Goes on from a body while a union binds tighter than a level. -/
def united (right : (level : Nat) → Reader Query) (level : Nat) : Nat → Query → Reader Query
  | 0, q => return q
  | fuel + 1, q => do
    let word ← keywordAt 0
    let ahead := unionLevel word
    if level < ahead then
      skip 1
      let quantifier ← unionQuantifier
      let other ← right ahead
      united right level fuel
        ⟨.other, q.text ++ " " ++ word ++ quantifier ++ " " ++ other.text⟩
    else return q

/-- A body at a level; every union takes a token. -/
def bodyAt : Nat → (level : Nat) → Reader Query
  | 0, _ => refuse
  | fuel + 1, level => do
    let q ← plainBody r
    united (fun inner tokens => bodyAt fuel inner tokens) level ((← get).length + 1) q

/-- A body. -/
def bodyOf : Reader Query := fun tokens =>
  bodyAt r (tokens.length + 1) 0 tokens

/-! ## Queries -/

/-- A named query in front of another one, as it is shown. -/
def namedQuery : Reader String := do
  let name ← ident
  let columns ← columnNames
  expectKeyword "AS"
  let q ← inParens r.queryText
  let source ← clause? "FROM" ident
  return identText name ++ columns ++ " AS " ++ parens q ++
    clauseText " FROM " (source.map identText) ""

/-- The named queries in front of another one, as they are shown. -/
def withText : Reader String := do
  if ← keyword? "WITH" then
    let recursive ← wordText "RECURSIVE"
    return "WITH" ++ recursive ++ " " ++ listText (← separated (namedQuery r)) ++ " "
  else return ""

/-- How many rows are left out, behind the word, as it is shown. -/
def offsetText : Reader String := do
  let e ← r.wholeText
  return e ++ clauseText " " (← oneOf? ["ROW", "ROWS"]) ""

/-- How many rows are taken; all of them need not be said. -/
def limitOrAll : Reader (Option String) := do
  if ← keyword? "ALL" then return none else return some (← r.wholeText)

/-- A limit and an offset as far as they are given. -/
structure Bounds where
  limit : Option String := none
  offset : Option String := none

/-- Reads a limit or an offset that is not there yet. Two limits are an offset and a limit. -/
def moreBounds (b : Bounds) : Reader Bounds := do
  let limit ←
    if b.limit.isNone then pure ((← clause? "LIMIT" (limitOrAll r)).getD none) else pure b.limit
  let offset ← if b.offset.isNone then clause? "OFFSET" (offsetText r) else pure b.offset
  if limit.isSome && offset.isNone then
    if ← symbol? "," then return ⟨some (← r.wholeText), limit⟩
  return ⟨limit, offset⟩

/-- Bounds as they are shown. -/
def Bounds.text (b : Bounds) : String :=
  clauseText " LIMIT " b.limit "" ++ clauseText " OFFSET " b.offset ""

/-- A setting, as it is shown. -/
def setting : Reader String := do
  let i ← ident
  expectSymbol "="
  return identText i ++ " = " ++ (← constant).text

/-- How many rows are fetched, behind the word, as it is shown. -/
def fetchText : Reader String := do
  discard (expectOneOf ["FIRST", "NEXT"])
  let quantity ←
    if (← oneOf? ["ROW", "ROWS"]).isSome then pure ""
    else do
      let n ← constant
      let percent ← wordText "PERCENT"
      discard (expectOneOf ["ROW", "ROWS"])
      pure (n.text ++ percent ++ " ")
  let ties ←
    if ← keyword? "ONLY" then pure "ONLY"
    else do
      expectKeywords ["WITH", "TIES"]
      pure "WITH TIES"
  return "FIRST " ++ quantity ++ "ROWS " ++ ties

/-- A lock of rows, as it is shown. -/
def lock? : Reader (Option String) :=
  clause? "FOR" do
    let word ← expectOneOf ["UPDATE", "SHARE"]
    let table ← clause? "OF" objectText
    let wait ←
      if ← keyword? "NOWAIT" then pure " NOWAIT"
      else do
        pure (if ← keywords? ["SKIP", "LOCKED"] then " SKIP LOCKED" else "")
    return " FOR " ++ word ++ clauseText " OF " table "" ++ wait

/-- The format of an answer, behind its word, as it is shown. -/
def formatText : Reader String := do
  if ← keyword? "NULL" then return "NULL" else return identText (← ident)

/-- The clauses for all rows of a query, as they are shown. -/
def rowClauses : Reader String := do
  let order ← orderBy? r
  let bounds ← moreBounds r (← moreBounds r {})
  let grouped ← wordClause "BY" r.wholeTexts
  let settings ← wordClause "SETTINGS" (listText <$> separated setting)
  let fetch ← wordClause "FETCH" fetchText
  let locks ← repeated lock?
  let format ← wordClause "FORMAT" formatText
  return clauseText " " order "" ++ bounds.text ++ grouped ++ settings ++ fetch ++
    String.join locks ++ format

/-- A query. -/
def queryOf : Reader Query := do
  let front ← withText r
  if ← keyword? "INSERT" then return ⟨.other, front ++ (← insertText r "INSERT")⟩
  else if ← keyword? "UPDATE" then return ⟨.other, front ++ (← updateText r)⟩
  else
    let q ← bodyOf r
    return ⟨q.body, front ++ q.text ++ (← rowClauses r)⟩

end SqlNormal.Sql.Reader
