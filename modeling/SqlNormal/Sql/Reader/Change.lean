import SqlNormal.Sql.Reader.Relation

/-!
# Reading changes to tables

Rows that are inserted, changed or deleted, read to the text that shows the change.

* `insertText`, `updateText`, `deleteText`: the changes, each behind its word.
-/

namespace SqlNormal.Sql.Reader

variable (r : Rules)

/-- The rows that a change gives back, as they are shown. -/
def returningText : Reader String := do
  return clauseText " RETURNING " (← clause? "RETURNING" do return itemsText (← selectItems r)) ""

/-- A condition on rows, as it is shown. -/
def whereText : Reader String := do
  return clauseText " WHERE " (← clause? "WHERE" r.wholeText) ""

/-- A keyword as it is shown, if it stands there. -/
def wordText (word : String) : Reader String := do
  return if ← keyword? word then " " ++ word else ""

/-- The columns that are filled, as they are shown. -/
def filledColumns : Reader String := do
  if (← peekSymbol "(") && (← keywordAt 1) != "SELECT" then
    return parens (← inParens namesText) ++ " "
  else return ""

/-- An insertion behind its word, as it is shown. -/
def insertText (word : String) : Reader String := do
  let how := (← wordText "OVERWRITE") ++ (← wordText "INTO") ++ (← wordText "TABLE")
  let table ← objectText
  let front := word ++ how ++ " " ++ table ++ " "
  if ← keywords? ["DEFAULT", "VALUES"] then
    return front ++ "DEFAULT VALUES" ++ (← returningText r)
  else
    let columns ← filledColumns
    let rows ← r.queryText
    return front ++ columns ++ rows ++ (← returningText r)

/-- A value for a column or for several ones, as it is shown. -/
def assignment : Reader String := do
  let target ←
    if ← peekSymbol "(" then do pure (parens (listText (← inParens (separated objectText))))
    else objectText
  expectSymbol "="
  return target ++ " = " ++ (← r.wholeText)

/-- A change of rows behind its word, as it is shown. -/
def updateText : Reader String := do
  let table := (← joined r).text
  expectKeyword "SET"
  let values := listText (← separated (assignment r))
  let others ← clause? "FROM" do return (← joined r).text
  let condition ← whereText r
  return "UPDATE " ++ table ++ " SET " ++ values ++ clauseText " FROM " others "" ++ condition ++
    (← returningText r)

/-- A deletion behind its word, as it is shown. -/
def deleteText : Reader String := do
  let word := if ← keyword? "FROM" then "FROM " else ""
  let tables ← tablesText r
  let others ← clause? "USING" (tablesText r)
  let condition ← whereText r
  let returned ← returningText r
  let order ← orderBy? r
  let limit ← clause? "LIMIT" do
    if ← keyword? "ALL" then return "" else return " LIMIT " ++ (← r.wholeText)
  return "DELETE " ++ word ++ tables ++ clauseText " USING " others "" ++ condition ++ returned ++
    clauseText " " order "" ++ clauseText "" limit ""

end SqlNormal.Sql.Reader
