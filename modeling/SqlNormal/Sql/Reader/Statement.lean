import SqlNormal.Sql.Reader.Query

/-!
# Reading statements

A statement is a query, or a command that is read to the text that shows it.

* `createText`, `alterText`, `dropText`: commands that make, change and remove objects;
* `explanation`: another statement, or a table, that is to be explained;
* `statementOf`: a statement.
-/

namespace SqlNormal.Sql.Reader

variable (r : Rules)

/-- Words as they are shown, with a blank behind them, if all of them stand there. -/
def wordsText (words : List String) : Reader String := do
  return if ← keywords? words then " ".intercalate words ++ " " else ""

/-! ## Objects -/

/-- A condition on a column, as it is shown. -/
def columnOption? : Reader (Option String) := do
  if ← keywords? ["NOT", "NULL"] then return some " NOT NULL"
  else if ← keyword? "NULL" then return some " NULL"
  else if ← keyword? "DEFAULT" then return some (" DEFAULT " ++ (← r.wholeText))
  else if ← keywords? ["PRIMARY", "KEY"] then return some " PRIMARY KEY"
  else if ← keyword? "UNIQUE" then return some " UNIQUE"
  else if ← keyword? "CHECK" then return some (" CHECK " ++ parens (← inParens r.wholeText))
  else if ← keyword? "REFERENCES" then
    let table ← objectText
    let columns ←
      if ← peekSymbol "(" then do pure (" " ++ parens (← inParens namesText)) else pure ""
    return some (" REFERENCES " ++ table ++ columns)
  else return none

/-- A column and its conditions, as they are shown. -/
def columnText : Reader String := do
  let i ← ident
  let type ← dataType
  let collation ← clause? "COLLATE" objectText
  let options ← repeated (columnOption? r)
  return identText i ++ " " ++ type.text ++ clauseText " COLLATE " collation "" ++
    String.join options

/-- A condition on a table, as it is shown. -/
def tableCondition? : Reader (Option String) := do
  let name ← clause? "CONSTRAINT" ident
  let shown (text : String) : Option String :=
    some (clauseText "CONSTRAINT " (name.map identText) " " ++ text)
  if ← keywords? ["PRIMARY", "KEY"] then
    return shown ("PRIMARY KEY " ++ parens (← inParens namesText))
  else if ← keyword? "UNIQUE" then return shown ("UNIQUE " ++ parens (← inParens namesText))
  else if ← keyword? "CHECK" then return shown ("CHECK " ++ parens (← inParens r.wholeText))
  else if ← keywords? ["FOREIGN", "KEY"] then
    let columns ← inParens namesText
    expectKeyword "REFERENCES"
    let table ← objectText
    return shown ("FOREIGN KEY " ++ parens columns ++ " REFERENCES " ++ table ++
      parens (← inParens namesText))
  else if name.isSome then refuse
  else return none

/-- A column or a condition of a table, as it is shown. -/
def tableElement : Reader String := do
  match ← tableCondition? r with
  | some text => return text
  | none => columnText r

/-- A new table behind its word, as it is shown. -/
def createTable (front : String) : Reader String := do
  let missing ← wordsText ["IF", "NOT", "EXISTS"]
  let name ← objectText
  let elements ←
    if ← peekSymbol "(" then inParens (separatedOrNone ")" (tableElement r)) else pure []
  let source ← clause? "AS" r.queryText
  let columns :=
    if !elements.isEmpty then " " ++ parens (listText elements)
    else if source.isNone then " ()" else ""
  return front ++ "TABLE " ++ missing ++ name ++ columns ++ clauseText " AS " source ""

/-- A new view behind its word, as it is shown. -/
def createView (front : String) : Reader String := do
  let missing ← wordsText ["IF", "NOT", "EXISTS"]
  let name ← objectText
  let columns ← if ← peekSymbol "(" then do pure (" " ++ parens (← inParens namesText)) else pure ""
  expectKeyword "AS"
  return front ++ "VIEW " ++ missing ++ name ++ columns ++ " AS " ++ (← r.queryText)

/-- A new index behind its word, as it is shown. -/
def createIndex (front : String) : Reader String := do
  let missing ← wordsText ["IF", "NOT", "EXISTS"]
  let name ← if ← peekKeyword "ON" then pure "" else do pure ((← objectText) ++ " ")
  expectKeyword "ON"
  let table ← objectText
  let columns ← inParens (separated (orderItem r))
  return front ++ "INDEX " ++ missing ++ name ++ "ON " ++ table ++ parens (",".intercalate columns)

/-- A new object behind its word, as it is shown. -/
def createText : Reader String := do
  let instead ← wordsText ["OR", "REPLACE"]
  let passing := if (← oneOf? ["TEMP", "TEMPORARY"]).isSome then "TEMPORARY " else ""
  let lasting ← wordsText ["MATERIALIZED"]
  let unique ← wordsText ["UNIQUE"]
  let front := "CREATE " ++ instead ++ lasting ++ passing ++ unique
  match ← oneOf? ["TABLE", "VIEW", "INDEX", "SCHEMA"] with
  | some "TABLE" => if lasting = "" ∧ unique = "" then createTable r front else refuse
  | some "VIEW" => if unique = "" then createView r front else refuse
  | some "INDEX" => if front = "CREATE " ++ unique then createIndex r front else refuse
  | some word =>
    if front = "CREATE " then
      return front ++ word ++ " " ++ (← wordsText ["IF", "NOT", "EXISTS"]) ++ (← objectText)
    else refuse
  | none => refuse

/-- A change of a table, as it is shown. -/
def alteration : Reader String := do
  if ← keyword? "ADD" then
    let word ← wordsText ["COLUMN"]
    if word = "" then
      match ← tableCondition? r with
      | some text => return "ADD " ++ text
      | none => return "ADD " ++ (← columnText r)
    else return "ADD " ++ word ++ (← wordsText ["IF", "NOT", "EXISTS"]) ++ (← columnText r)
  else if ← keyword? "DROP" then
    discard (keyword? "COLUMN")
    let present ← wordsText ["IF", "EXISTS"]
    let i ← ident
    return "DROP COLUMN " ++ present ++ identText i ++ (← wordText "CASCADE")
  else
    expectKeyword "RENAME"
    if ← keyword? "TO" then return "RENAME TO " ++ (← objectText)
    discard (keyword? "COLUMN")
    let old ← ident
    expectKeyword "TO"
    return "RENAME COLUMN " ++ identText old ++ " TO " ++ identText (← ident)

/-- A change of an object behind its word, as it is shown. -/
def alterText : Reader String := do
  expectKeyword "TABLE"
  let present ← wordsText ["IF", "EXISTS"]
  let only ← wordsText ["ONLY"]
  let name ← objectText
  return "ALTER TABLE " ++ present ++ only ++ name ++ " " ++ listText (← separated (alteration r))

/-- The removal of an object behind its word, as it is shown. -/
def dropText : Reader String := do
  let passing ← wordsText ["TEMPORARY"]
  let kind ←
    expectOneOf ["TABLE", "VIEW", "INDEX", "ROLE", "SCHEMA", "DATABASE", "SEQUENCE", "TYPE"]
  let present ← wordsText ["IF", "EXISTS"]
  let names ← separated objectText
  let others ← wordText "CASCADE"
  let none? ← wordText "RESTRICT"
  if others ≠ "" ∧ none? ≠ "" then refuse
  return "DROP " ++ passing ++ kind ++ " " ++ present ++ listText names ++ others ++ none?

/-! ## Other commands -/

/-- A removal of all rows, behind its word, as it is shown. -/
def truncateText : Reader String := do
  let word ← wordsText ["TABLE"]
  let only ← wordsText ["ONLY"]
  return "TRUNCATE " ++ word ++ only ++ listText (← separated objectText)

/-- A setting of a variable, behind its word, as it is shown. -/
def assignText : Reader String := do
  let extent ← oneOf? ["SESSION", "LOCAL"]
  let front := if extent = some "LOCAL" then "SET LOCAL " else "SET "
  if ← keywords? ["TIME", "ZONE"] then return front ++ "TIME ZONE " ++ (← r.wholeText)
  let name ← objectText
  if !(← symbol? "=") then expectKeyword "TO"
  return front ++ name ++ " = " ++ (← r.wholeTexts)

/-- The words up to an equals sign or the end; what stands between them is passed over. -/
def wordsAhead : Reader (List String) := do
  let ahead := (← get).takeWhile fun l => l.token != .symbol "="
  skip ahead.length
  return ahead.filterMap fun l =>
    match l.token with
    | .word i => some (identText i)
    | _ => none

/-- A question for objects or for a variable, behind its word, as it is shown. -/
def showText : Reader String := do
  match ← oneOf? ["TABLES", "VIEWS", "DATABASES", "SCHEMAS", "FUNCTIONS"] with
  | some kind => return "SHOW " ++ kind
  | none =>
    if ["TERSE", "EXTENDED", "FULL", "SESSION", "GLOBAL", "EXTERNAL", "COLUMNS", "FIELDS",
        "MATERIALIZED", "CREATE", "COLLATION", "VARIABLES", "STATUS"].contains (← keywordAt 0) then
      refuse
    else return " ".intercalate ("SHOW" :: (← wordsAhead))

/-- A call of a procedure, behind its word, as it is shown. -/
def procedureText : Reader String := do
  let start := ((← get).head?.map (·.start)).getD .start
  let name ← objectName
  if ← peekSymbol "(" then
    return "CALL " ++ (← callOf r (beginning r) name start false).text
  else return "CALL " ++ pathText name

/-- The end of a group of changes, behind its word, as it is shown. -/
def endOfChanges (word : String) : Reader String := do
  discard (oneOf? ["TRANSACTION", "WORK"])
  if ← keyword? "AND" then
    let unchained ← keyword? "NO"
    expectKeyword "CHAIN"
    return word ++ (if unchained then "" else " AND CHAIN")
  else return word

/-- A command that is neither a query nor an explanation, behind its word, as it is shown. -/
def commandText (word : String) : Reader String := do
  match word with
  | "INSERT" | "REPLACE" => insertText r word
  | "UPDATE" => updateText r
  | "DELETE" => deleteText r
  | "CREATE" => createText r
  | "ALTER" => alterText r
  | "DROP" => dropText
  | "TRUNCATE" => truncateText
  | "SET" => assignText r
  | "SHOW" => showText
  | "CALL" => procedureText r
  | "USE" => return "USE " ++ (← objectText)
  | "BEGIN" => return "BEGIN" ++ clauseText " " (← oneOf? ["TRANSACTION", "WORK"]) ""
  | "START" =>
    expectKeyword "TRANSACTION"
    return "START TRANSACTION"
  | "COMMIT" | "ROLLBACK" => endOfChanges word
  | "END" => endOfChanges "COMMIT"
  | "SAVEPOINT" => return "SAVEPOINT " ++ identText (← ident)
  | "RELEASE" =>
    discard (keyword? "SAVEPOINT")
    return "RELEASE SAVEPOINT " ++ identText (← ident)
  | _ => refuse

/-- What is to be explained, behind a word for it: a statement that explains nothing itself, or a
table. -/
def explanation (word : String) : Reader Statement := do
  let how ←
    if ← keywords? ["QUERY", "PLAN"] then pure "QUERY PLAN "
    else do
      if ← keyword? "ESTIMATE" then pure "ESTIMATE "
      else pure ((← wordsText ["ANALYZE"]) ++ (← wordsText ["VERBOSE"]))
  match ← attempt r.statement with
  | some (.explanation _) => refuse
  | some s => return .explanation (word ++ " " ++ how ++ s.text)
  | none =>
    let detail ← oneOf? ["EXTENDED", "FORMATTED"]
    let kind ← wordsText ["TABLE"]
    return .explanation (word ++ " " ++ clauseText "" detail " " ++ kind ++ (← objectText))

/-- A statement. -/
def statementOf : Reader Statement := do
  let word ← keywordAt 0
  if ["SELECT", "WITH", "VALUES"].contains word || (← peekSymbol "(") then return .query (← r.query)
  else
    skip 1
    if ["EXPLAIN", "DESC", "DESCRIBE"].contains word then explanation r word
    else return .other (← commandText r word)

end SqlNormal.Sql.Reader
