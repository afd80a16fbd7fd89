import SqlNormal.Sql.Expr
import SqlNormal.Sql.Reader.Basic

/-!
# Reading types

A type is read to the text that shows it. A word that is no known type is a type of the user, with
whatever modifiers stand behind it.

* `simpleTypes`, `sizedTypes`, `integerTypes`, `characterTypes`, `numericTypes`: types by what may
  stand behind their word;
* `typeAt`: a type; two closing angle brackets in one token close two types at once, which the
  answer tells;
* `Reader.dataType`: a type that stands by itself.
-/

namespace SqlNormal.Sql

/-- Types that are one word, each with the way it is shown. -/
def simpleTypes : List (String × String) :=
  [("BOOLEAN", "BOOLEAN"), ("BOOL", "BOOL"), ("REAL", "REAL"), ("FLOAT4", "FLOAT4"),
   ("FLOAT32", "Float32"), ("FLOAT64", "FLOAT64"), ("FLOAT8", "FLOAT8"), ("INT16", "Int16"),
   ("INT32", "Int32"), ("INT64", "INT64"), ("INT128", "Int128"), ("INT256", "Int256"),
   ("UINT8", "UInt8"), ("UINT16", "UInt16"), ("UINT32", "UInt32"), ("UINT64", "UInt64"),
   ("UINT128", "UInt128"), ("UINT256", "UInt256"), ("UUID", "UUID"), ("DATE32", "Date32"),
   ("JSON", "JSON"), ("JSONB", "JSONB"), ("REGCLASS", "REGCLASS"), ("TEXT", "TEXT"),
   ("TINYTEXT", "TINYTEXT"), ("MEDIUMTEXT", "MEDIUMTEXT"), ("LONGTEXT", "LONGTEXT"),
   ("TINYBLOB", "TINYBLOB"), ("MEDIUMBLOB", "MEDIUMBLOB"), ("LONGBLOB", "LONGBLOB"),
   ("BYTEA", "BYTEA"), ("TRIGGER", "TRIGGER")]

/-- Types with an optional size. -/
def sizedTypes : List String :=
  ["FLOAT", "CLOB", "BINARY", "VARBINARY", "BLOB", "BYTES", "DATETIME", "STRING"]

/-- Types with an optional size that may be unsigned. -/
def integerTypes : List String :=
  ["TINYINT", "INT2", "SMALLINT", "MEDIUMINT", "INT", "INT4", "INT8", "INTEGER", "BIGINT"]

/-- Types with an optional length. -/
def characterTypes : List String :=
  ["VARCHAR", "NVARCHAR"]

/-- Types with an optional precision and scale. -/
def numericTypes : List String :=
  ["NUMERIC", "DECIMAL", "DEC", "BIGNUMERIC", "BIGDECIMAL"]

/-- The kinds of a word's type that have a class of their own. -/
def classOfWord (word : String) : TypeClass :=
  if ["DATE", "TIME", "TIMETZ", "TIMESTAMP", "TIMESTAMPTZ"].contains word then .temporal
  else if word = "INTERVAL" then .interval
  else .other

namespace Reader

/-- A size in parentheses as it is shown, if there is one. -/
def sizeText : Reader String := do
  return clauseText "(" ((← precision?).map natText) ")"

/-- A length in parentheses as it is shown, if there is one. -/
def lengthText : Reader String := do
  if ← peekSymbol "(" then
    inParens do
      if ← keyword? "MAX" then return "(MAX)"
      let n ← naturalNumber
      let unit ← oneOf? ["CHARACTERS", "OCTETS"]
      return "(" ++ natText n ++ clauseText " " unit "" ++ ")"
  else return ""

/-- A precision and a scale in parentheses as they are shown, if they are there. -/
def scaleText : Reader String := do
  if ← peekSymbol "(" then
    inParens do
      let p ← naturalNumber
      if ← symbol? "," then return "(" ++ natText p ++ "," ++ natText (← naturalNumber) ++ ")"
      return "(" ++ natText p ++ ")"
  else return ""

/-- Whether a time has a zone, as it is shown. -/
def zoneText : Reader String := do
  if ← keyword? "WITH" then
    expectKeywords ["TIME", "ZONE"]
    return " WITH TIME ZONE"
  else if ← keyword? "WITHOUT" then
    expectKeywords ["TIME", "ZONE"]
    return " WITHOUT TIME ZONE"
  else return ""

/-- A type of characters, which may vary in length or be large. -/
def charactersText (word : String) : Reader String := do
  if ← keyword? "VARYING" then return word ++ " VARYING" ++ (← lengthText)
  else if ← keywords? ["LARGE", "OBJECT"] then return word ++ " LARGE OBJECT" ++ (← sizeText)
  else return word ++ (← lengthText)

/-- Items of a modifier list; commas between them do not matter. -/
def modifiersFrom : Nat → Reader (List String)
  | 0 => refuse
  | fuel + 1 => do
    match (← next).token with
    | .word i => return i.written :: (← modifiersFrom fuel)
    | .number n _ => return n.digits :: (← modifiersFrom fuel)
    | .string s => return s :: (← modifiersFrom fuel)
    | .symbol "," => modifiersFrom fuel
    | .symbol ")" => return []
    | _ => refuse

/-- A type of the user. -/
def customType : Reader String := do
  let name ← objectText
  if ← symbol? "(" then
    let modifiers ← modifiersFrom ((← get).length + 1)
    return if modifiers.isEmpty then name else name ++ parens (listText modifiers)
  else return name

/-- The members of an enumeration, as they are shown. -/
def enumText (word : String) : Reader String := do
  let member : Reader String := do
    let name := stringText (← literalString)
    if ← symbol? "=" then
      match (← next).token with
      | .number n long => return name ++ " = " ++ n.text long
      | _ => refuse
    else return name
  return word ++ parens (listText (← inParens (separated member)))

/-- The strings of a set; commas between them do not matter. -/
def setMembersFrom : Nat → Reader (List String)
  | 0 => refuse
  | fuel + 1 => do
    match (← next).token with
    | .string s => return stringText s :: (← setMembersFrom fuel)
    | .symbol "," => setMembersFrom fuel
    | .symbol ")" => return []
    | _ => refuse

/-- A set of strings, as it is shown. -/
def setText : Reader String := do
  expectSymbol "("
  return "SET" ++ parens (listText (← setMembersFrom ((← get).length + 1)))

/-- A time stamp of a given precision, as it is shown. -/
def datetime64Text : Reader String := do
  inParens do
    let p ← naturalNumber
    let zone ← if ← symbol? "," then some <$> literalString else pure none
    return "DateTime64(" ++ natText p ++ clauseText ", '" zone "'" ++ ")"

/-- Takes a closing angle bracket, unless the one before closed two types. The answer tells whether
this one did. -/
def closeAngle (closed : Bool) : Reader Bool := do
  if closed then return false
  else if ← symbol? ">" then return false
  else if ← symbol? ">>" then return true
  else refuse

/-- The array marks behind a type. -/
def arrayMarksFrom (text : String) : Nat → Reader String
  | 0 => return text
  | fuel + 1 => do
    if ← symbol? "[" then
      let size ← attempt naturalNumber
      expectSymbol "]"
      arrayMarksFrom (text ++ "[" ++ clauseText "" (size.map natText) "" ++ "]") fuel
    else return text

/-- A field of a structure: a type, or a name and a type. -/
def fieldOf (type : Reader (DataType × Bool)) : Reader (String × Bool) := do
  let isWord (l : Option Lexeme) : Bool := match l with
    | some ⟨.word _, _⟩ => true
    | _ => false
  let tokens ← get
  if isWord tokens[0]? && isWord tokens[1]? then
    let i ← ident
    let (t, closed) ← type
    return (identText i ++ " " ++ t.text, closed)
  else
    let (t, closed) ← type
    return (t.text, closed)

/-- The fields of a structure between angle brackets. -/
def fieldsFrom (field : Reader (String × Bool)) : Nat → Reader (List String × Bool)
  | 0 => refuse
  | fuel + 1 => do
    let (text, closed) ← field
    if ← symbol? "," then
      if closed then refuse
      let (texts, closed) ← fieldsFrom field fuel
      return (text :: texts, closed)
    else return ([text], closed)

/-- The fields of a structure behind its word, if they are there. -/
def structFields (type : Reader (DataType × Bool)) : Reader (List String × Bool) := do
  if ← symbol? "<" then
    let (texts, closed) ← fieldsFrom (fieldOf type) ((← get).length + 1)
    return (texts, ← closeAngle closed)
  else return ([], false)

/-- A structure as it is shown. -/
def structText (fields : List String) : String :=
  if fields.isEmpty then "STRUCT" else "STRUCT<" ++ listText fields ++ ">"

/-- A type behind its first word; `inner` reads the types inside it. -/
def typeOfWord (word : String) (inner : Reader (DataType × Bool)) : Reader (String × Bool) := do
  let whole (r : Reader String) : Reader (String × Bool) := do return (← r, false)
  let plain : Reader DataType := do
    let (t, closed) ← inner
    if closed then refuse else return t
  let wrapping (shown : String) : Reader (String × Bool) :=
    whole do return shown ++ parens (← inParens plain).text
  match simpleTypes.lookup word with
  | some shown => return (shown, false)
  | none =>
    if sizedTypes.contains word then whole do return word ++ (← sizeText)
    else if integerTypes.contains word then whole do
      let size ← sizeText
      return word ++ size ++ (if ← keyword? "UNSIGNED" then " UNSIGNED" else "")
    else if characterTypes.contains word then whole do return word ++ (← lengthText)
    else if numericTypes.contains word then whole do return word ++ (← scaleText)
    else match word with
      | "CHARACTER" | "CHAR" => whole (charactersText word)
      | "DOUBLE" => whole do
        return if ← keyword? "PRECISION" then "DOUBLE PRECISION" else "DOUBLE"
      | "BIT" => whole do
        let varying := if ← keyword? "VARYING" then " VARYING" else ""
        return word ++ varying ++ (← sizeText)
      | "DATE" | "INTERVAL" => return (word, false)
      | "TIME" | "TIMESTAMP" => whole do
        let size ← sizeText
        return word ++ size ++ (← zoneText)
      | "TIMETZ" | "TIMESTAMPTZ" => whole do return word ++ (← sizeText)
      | "DATETIME64" => whole datetime64Text
      | "FIXEDSTRING" => whole do
        return "FixedString" ++ parens (natText (← inParens naturalNumber))
      | "ENUM" | "ENUM8" | "ENUM16" => whole (enumText word)
      | "SET" => whole setText
      | "ARRAY" =>
        expectSymbol "<"
        let (t, closed) ← inner
        let closed ← closeAngle closed
        return ("ARRAY<" ++ t.text ++ ">", closed)
      | "STRUCT" =>
        let (fields, closed) ← structFields inner
        return (structText fields, closed)
      | "UNION" => whole do
        let field : Reader String := do
          let i ← ident
          return identText i ++ " " ++ (← plain).text
        return "UNION" ++ parens (listText (← inParens (separated field)))
      | "NULLABLE" => wrapping "Nullable"
      | "LOWCARDINALITY" => wrapping "LowCardinality"
      | "MAP" => whole do
        inParens do
          let key ← plain
          expectSymbol ","
          return "Map" ++ parens (key.text ++ ", " ++ (← plain).text)
      | "TUPLE" => whole do
        return "Tuple" ++ parens (listText ((← inParens (separated (fieldOf inner))).map (·.1)))
      | "NESTED" => whole do
        let column : Reader String := do
          let i ← ident
          return identText i ++ " " ++ (← plain).text
        return "Nested" ++ parens (listText (← inParens (separated column)))
      | _ => refuse

/-- The words that begin a type other than a user's. -/
def typeWords : List String :=
  simpleTypes.map (·.1) ++ sizedTypes ++ integerTypes ++ characterTypes ++ numericTypes ++
    ["CHARACTER", "CHAR", "DOUBLE", "BIT", "DATE", "INTERVAL", "TIME", "TIMESTAMP", "TIMETZ",
     "TIMESTAMPTZ", "DATETIME64", "FIXEDSTRING", "ENUM", "ENUM8", "ENUM16", "SET", "ARRAY",
     "STRUCT", "UNION", "NULLABLE", "LOWCARDINALITY", "MAP", "TUPLE", "NESTED"]

/-- A type; every type inside it takes a token. -/
def typeAt : Nat → Reader (DataType × Bool)
  | 0 => refuse
  | fuel + 1 => do
    let word ← keywordAt 0
    let (text, closed, typeClass) ←
      if word = "ANY" ∧ (← keywordAt 1) = "TYPE" then do
        skip 2
        pure ("ANY TYPE", false, TypeClass.other)
      else if typeWords.contains word then do
        skip 1
        let (text, closed) ← typeOfWord word (typeAt fuel)
        pure (text, closed, classOfWord word)
      else
        match ← peek with
        | some (.word _) => do pure (← customType, false, TypeClass.custom)
        | _ => refuse
    let marked ← arrayMarksFrom text (← get).length
    return (⟨marked, if marked = text then typeClass else .other⟩, closed)

/-- A type that stands by itself. -/
def dataType : Reader DataType := do
  let (t, closed) ← typeAt ((← get).length + 1)
  if closed then refuse else return t

end Reader

end SqlNormal.Sql
