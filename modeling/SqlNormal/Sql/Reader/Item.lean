import SqlNormal.Sql.Reader.Climb

/-!
# Reading items of a projection

An item is a star with options, or an expression and perhaps a name for it.

* `optionalName`: a name that may stand without `AS` if it is not reserved;
* `starOptions`: what may stand behind a star;
* `selectItem`: an item.
-/

namespace SqlNormal.Sql.Reader

variable (r : Rules)

/-- A name behind `AS`, or one that is not reserved. -/
def optionalName (reserved : List String) : Reader (Option Ident) := do
  let named ← keyword? "AS"
  match ← peek with
  | some (.word i) =>
    if named || !reserved.contains (← keywordAt 0) then
      skip 1
      return some i
    else return none
  | some (.string s) =>
    skip 1
    return some ⟨s, some Text.apostrophe⟩
  | _ => if named then refuse else return none

/-- Names with commas between, as they are shown. -/
def namesText : Reader String := do
  return listText ((← separated ident).map identText)

/-- One item, or items in parentheses, as they are shown. -/
def oneOrMore (item : Reader String) : Reader String := do
  if ← peekSymbol "(" then return parens (listText (← inParens (separated item))) else item

/-- A column and its new name, as they are shown. -/
def newName : Reader String := do
  let old ← ident
  expectKeyword "AS"
  return identText old ++ " AS " ++ identText (← ident)

/-- An expression in place of a column, as it is shown. -/
def replacement : Reader String := do
  let e ← r.wholeText
  let word := if ← keyword? "AS" then " AS " else " "
  return e ++ word ++ identText (← ident)

/-- A pattern of names, as it is shown. -/
def namePattern : Reader String := do
  match (← next).token with
  | .string s => return stringText s
  | _ => refuse

/-- What stands behind a star, as it is shown. -/
def starOptions : Reader String := do
  let name : Reader String := do return identText (← ident)
  let like ← clause? "ILIKE" namePattern
  let without ← if like.isSome then pure none else clause? "EXCLUDE" (oneOrMore name)
  let but ← clause? "EXCEPT" do
    if ← peekSymbol "(" then inParens namesText else name
  let replaced ← clause? "REPLACE" (inParens (separated (replacement r)))
  let renamed ← clause? "RENAME" (oneOrMore newName)
  return clauseText " ILIKE " like "" ++ clauseText " EXCLUDE " without "" ++
    clauseText " EXCEPT (" but ")" ++ clauseText " REPLACE (" (replaced.map listText) ")" ++
    clauseText " RENAME " renamed ""

/-- An item of a projection. The word `FROM` is none. -/
def selectItem : Reader SelectItem := do
  match ← starOrExpr r.whole with
  | .all => return .star (← starOptions r)
  | .table parts => return .tableStar parts (← starOptions r)
  | .expr e =>
    match e with
    | .name ⟨value, none⟩ => if Text.lower value = "from" then refuse
    | _ => pure ()
    return .expr e (← optionalName reservedForColumnName)

/-- Items with commas between. -/
def selectItems : Reader (List SelectItem) :=
  separated (selectItem r)

/-- Items as they are shown. -/
def itemsText (items : List SelectItem) : String :=
  listText (items.map SelectItem.text)

end SqlNormal.Sql.Reader
