import SqlNormal.Error
import SqlNormal.Node.Calls
import SqlNormal.Node.Render

/-!
# Projections

The columns that a query answers, in order.

* `projectionText`: the list of columns as it stands behind `SELECT`;
* `columnTable`: a table of the columns' names and texts. The widths count bytes, the padding counts
  characters;
* `applyOuterNames`: the names that an enclosing query gives to the columns.
-/

namespace SqlNormal

namespace Node

/-- The name that has to be written behind a column: none if a bare column has that name anyway. -/
def writtenName? (n : Node) : Option String :=
  match n.labels.givenName?, n with
  | some name, column _ _ own => if own = name then none else some name
  | given, _ => given

/-- A column with its name. -/
def projectionItem (n : Node) : String :=
  match n.writtenName? with
  | some name => n.toSql ++ " AS " ++ Text.quoteIdent name
  | none => n.toSql

end Node

/-- The columns of a projection as they stand behind `SELECT`. -/
def projectionText (columns : List Node) : String :=
  ", ".intercalate (columns.map Node.projectionItem)

/-- An aggregate occurs in one of the columns. -/
def projectionAggregates (columns : List Node) : Bool :=
  columns.any Node.containsAggregate

/-- The text with blanks behind it up to a number of characters. -/
def padded (width : Nat) (text : String) : String :=
  text ++ String.ofList (List.replicate (width - text.length) ' ')

/-- The largest number of bytes of a title and of the texts below it. -/
def columnWidth (title : String) (texts : List String) : Nat :=
  (texts.map String.utf8ByteSize).foldl max title.utf8ByteSize

/-- A table of the columns' names and texts, each row ending in a line feed. -/
def columnTable (columns : List Node) : String :=
  if columns.isEmpty then ""
  else
    let names := columns.map Node.displayName
    let texts := columns.map Node.toSql
    let nameWidth := columnWidth "column" names
    let textWidth := columnWidth "sql" texts
    let row (name text : String) : String :=
      padded nameWidth name ++ " | " ++ padded textWidth text ++ "\n"
    let rule (width : Nat) : String := String.ofList (List.replicate width '-')
    row "column" "sql" ++ rule nameWidth ++ "-+-" ++ rule textWidth ++ "\n" ++
      String.join ((names.zip texts).map fun r => row r.1 r.2)

/-- Gives the columns the names of an enclosing query, one for each. -/
def applyOuterNames (columns : List Node) (names : List String) : Except Error (List Node) :=
  if columns.length = names.length then
    pure (List.zipWith Node.withOuterName columns names)
  else
    throw (.aliasCount (", ".intercalate (columns.map Node.toSql)) names.length columns.length)

end SqlNormal
