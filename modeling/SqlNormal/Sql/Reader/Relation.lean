import SqlNormal.Sql.Reader.Item

/-!
# Reading tables and joins

What stands behind `FROM`, read to the text that shows it.

* `Relation`: a table, with a place for its name;
* `Joined`: a table and what is joined to it;
* `relationOf`, `joinsFrom`: tables and joins;
* `joined`: a table with its joins.
-/

namespace SqlNormal.Sql.Reader

variable (r : Rules)

/-- A table as it is shown: what stands before its name, the name, and what stands behind it. -/
structure Relation where
  front : String
  name : Option String
  back : String := ""
  isJoin : Bool := false

/-- A table as it is shown. -/
def Relation.text (t : Relation) : String :=
  t.front ++ clauseText " AS " t.name "" ++ t.back

/-- A table and the joins behind it. -/
structure Joined where
  relation : Relation
  joins : List String

/-- A table with its joins, as it is shown. -/
def Joined.text (j : Joined) : String :=
  j.relation.text ++ String.join j.joins

/-- A join in parentheses, as it is shown. -/
def Joined.front (j : Joined) : String :=
  parens j.text

/-! ## Tables -/

/-- The token behind the next one is a mark. -/
def symbolSecond (spelling : String) : Reader Bool := do
  return ((← get)[1]?.map (·.token)) == some (.symbol spelling)

/-- The columns behind a table's name, as they are shown. -/
def columnNames : Reader String := do
  let column : Reader String := do
    let i ← ident
    let type ← attempt dataType
    return identText i ++ clauseText " " (type.map DataType.text) ""
  if ← peekSymbol "(" then return " " ++ parens (listText (← inParens (separated column)))
  else return ""

/-- The name of a table and of its columns, as they are shown. -/
def tableName? : Reader (Option String) := do
  match ← optionalName reservedForTableName with
  | some i => return some (identText i ++ (← columnNames))
  | none => return none

/-- Arguments of a table, as they are shown. -/
def tableArguments : Reader String := do
  return parens (listText (Expr.text.textArguments (← inParens (separatedOrNone ")" (argument r)))))

/-- A query as a table, behind its opening parenthesis. -/
def derived (word : String) : Reader Relation := do
  let q ← r.queryText
  expectSymbol ")"
  return { front := word ++ parens q, name := ← tableName? }

/-- Rows of values, as they are shown. -/
def valuesText : Reader String := do
  let row : Reader (Bool × String) := do
    let marked ← keyword? "ROW"
    return (marked, parens (← inParens r.wholeTexts))
  let rows ← separated row
  let word := if rows.any (·.1) then "ROW" else ""
  return "VALUES " ++ listText (rows.map fun row => word ++ row.2)

/-- A list of values as a table, behind its word. -/
def unnested : Reader Relation := do
  let front := "UNNEST" ++ parens (← inParens r.wholeTexts)
  let ordinality := if ← keywords? ["WITH", "ORDINALITY"] then " WITH ORDINALITY" else ""
  let name ← tableName?
  let back ← clauses? ["WITH", "OFFSET"] do
    return clauseText " AS " ((← optionalName reservedForColumnName).map identText) ""
  return { front := front ++ ordinality, name := name, back := clauseText " WITH OFFSET" back "" }

/-- A table by its name. -/
def namedTable : Reader Relation := do
  let path ← objectText
  let parts ← clause? "PARTITION" (inParens namesText)
  let args ← if ← peekSymbol "(" then tableArguments r else pure ""
  let ordinality := if ← keywords? ["WITH", "ORDINALITY"] then " WITH ORDINALITY" else ""
  let name ← tableName?
  let hints ←
    if (← peekKeyword "WITH") && (← symbolSecond "(") then do
      skip 1
      some <$> inParens r.wholeTexts
    else pure none
  return { front := path ++ clauseText " PARTITION (" parts ")" ++ args ++ ordinality
           name := name
           back := clauseText " WITH (" hints ")" }

/-- What stands in parentheses in place of a table: a query, joins, or a table that may be named
either inside or outside. -/
def parenthesizedTable (tables : Reader Joined) : Reader Relation := do
  match ← attempt (derived r "") with
  | some t => return t
  | none =>
    let j ← tables
    expectSymbol ")"
    let name ← tableName?
    if j.relation.isJoin || !j.joins.isEmpty then
      return { front := j.front, name := name, isJoin := true }
    match j.relation.name, name with
    | some _, some _ => refuse
    | _, none => return j.relation
    | none, some n => return { j.relation with name := some n }

/-- A table; `tables` reads what stands in parentheses. -/
def relationOf (tables : Reader Joined) : Reader Relation := do
  if ← keyword? "LATERAL" then
    if ← symbol? "(" then derived r "LATERAL "
    else
      let front := "LATERAL " ++ (← objectText) ++ (← tableArguments r)
      return { front := front, name := ← tableName? }
  else if ← keyword? "TABLE" then
    let front := "TABLE" ++ parens (← inParens r.wholeText)
    return { front := front, name := ← tableName? }
  else if ← symbol? "(" then parenthesizedTable r tables
  else if (← peekKeyword "VALUES") && (← symbolSecond "(") then
    skip 1
    let front := parens (← valuesText r)
    return { front := front, name := ← tableName? }
  else if ← keyword? "UNNEST" then unnested r
  else namedTable r

/-! ## Joins -/

/-- How a table is joined. -/
inductive JoinKind where
  | free
  | matched
  | constrained (natural : Bool)
deriving DecidableEq

/-- The words of a join behind a possible `NATURAL`, as they are shown. -/
def joinWords : Reader (Option String) := do
  let closing (words : String) : Reader (Option String) := do
    expectKeyword "JOIN"
    return some words
  match ← oneOf? ["JOIN", "INNER", "LEFT", "RIGHT", "ANTI", "SEMI", "FULL"] with
  | some "JOIN" => return some "JOIN"
  | some "INNER" => closing "JOIN"
  | some "FULL" =>
    discard (keyword? "OUTER")
    closing "FULL JOIN"
  | some "ANTI" => closing "ANTI JOIN"
  | some "SEMI" => closing "SEMI JOIN"
  | some side =>
    match ← oneOf? ["OUTER", "SEMI", "ANTI", "JOIN"] with
    | some "JOIN" => return some (side ++ " JOIN")
    | some "OUTER" => closing (side ++ " JOIN")
    | some word => closing (side ++ " " ++ word ++ " JOIN")
    | none => refuse
  | none => return none

/-- The words of a join, as they are shown, and how it is joined. -/
def joinHead? : Reader (Option (String × JoinKind)) := do
  if ← keyword? "CROSS" then
    return some ("CROSS " ++ (← expectOneOf ["JOIN", "APPLY"]), .free)
  else if ← keyword? "OUTER" then
    expectKeyword "APPLY"
    return some ("OUTER APPLY", .free)
  else if ← keyword? "ASOF" then
    expectKeyword "JOIN"
    return some ("ASOF JOIN", .matched)
  else
    let natural ← keyword? "NATURAL"
    match ← joinWords with
    | some words =>
      return some ((if natural then "NATURAL " else "") ++ words, .constrained natural)
    | none => if natural then refuse else return none

/-- The condition of a join, as it is shown. -/
def joinCondition : Reader String := do
  if ← keyword? "ON" then return " ON " ++ (← r.wholeText)
  else if ← keyword? "USING" then return " USING" ++ parens (← inParens namesText)
  else return ""

/-- The condition that an ordered join matches by, as it is shown. -/
def matchCondition : Reader String := do
  expectKeyword "MATCH_CONDITION"
  return " MATCH_CONDITION " ++ parens (← inParens r.wholeText)

/-- The joins behind a table. A join behind a joined table comes before that table's condition. -/
def joinsFrom (relation : Reader Relation) : Nat → Reader (List String)
  | 0 => refuse
  | fuel + 1 => do
    let shared := if ← keyword? "GLOBAL" then " GLOBAL" else ""
    match ← joinHead? with
    | none => return []
    | some (words, kind) =>
      let t ← relation
      let shown (table : String) (rest : String) : String :=
        shared ++ " " ++ words ++ " " ++ table ++ rest
      let this ←
        match kind with
        | .free => pure (shown t.text "")
        | .matched => do
          let matched ← matchCondition r
          pure (shown t.text (matched ++ (← joinCondition r)))
        | .constrained natural => do
          let table ←
            if ["JOIN", "INNER", "LEFT", "RIGHT", "FULL"].contains (← keywordAt 0) then do
              pure (Joined.front ⟨t, ← joinsFrom relation fuel⟩)
            else pure t.text
          pure (shown table (← if natural then pure "" else joinCondition r))
      return this :: (← joinsFrom relation fuel)

/-- A table with its joins; every parenthesis inside it takes a token. -/
def joinedAt : Nat → Reader Joined
  | 0 => refuse
  | fuel + 1 => do
    let relation : Reader Relation := fun tokens =>
      relationOf r (fun inside => joinedAt fuel inside) tokens
    let t ← relation
    return ⟨t, ← joinsFrom r relation ((← get).length + 1)⟩

/-- A table with its joins. -/
def joined : Reader Joined := fun tokens =>
  joinedAt r (tokens.length + 1) tokens

/-- Tables with their joins, as they are shown. -/
def tablesText : Reader String := do
  return listText ((← separated (joined r)).map Joined.text)

end SqlNormal.Sql.Reader
