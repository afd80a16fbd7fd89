import SqlNormal.Sql.Reader.Prefix

/-!
# Reading expressions by the strength of operators

An expression is a beginning and whatever goes on from it: operators, tests, casts by colons and
subscripts. What binds no tighter than the level at which the expression is read is left where it
is.

* `symbolLevel`, `levelAhead`: how tightly the next token binds;
* `isTest`, `membership`, `range`, `matching`: tests behind an expression;
* `subscript`: a subscript or a slice;
* `goesOn`: one step from an expression to a larger one;
* `exprOf`: an expression at a level.
-/

namespace SqlNormal.Sql.Reader

variable (r : Rules)

/-! ## Levels of tokens -/

/-- The marks that go on from an expression, by level. -/
def symbolLevels : List (Nat × List String) :=
  [(Strength.colons, ["::", "[", "!", "&&", "^@"]),
   (Strength.product, ["*", "/", "//", "%", "||"]),
   (Strength.sum, ["+", "-"]),
   (Strength.ampersand, ["&"]),
   (Strength.caret, ["^", "<<", ">>"]),
   (Strength.bar, ["|"]),
   (Strength.comparison,
    ["=", "==", "<>", "<", "<=", ">", ">=", "<=>", "~", "~*", "!~", "!~*", "~~", "~~*", "!~~",
     "!~~*"]),
   (Strength.arrow, ["->", "->>", "#>", "#>>", "#-", "@>", "<@", "@?", "@@"])]

/-- The level of a mark; zero if it does not go on from an expression. -/
def symbolLevel (s : String) : Nat :=
  ((symbolLevels.find? fun row => row.2.contains s).map (·.1)).getD 0

/-- The level of a word that tests what stands before it; `NOT` may stand in front of these. -/
def testLevel (word : String) : Nat :=
  if ["IN", "BETWEEN"].contains word then Strength.comparison
  else if ["LIKE", "ILIKE", "RLIKE", "REGEXP", "SIMILAR"].contains word then Strength.like
  else 0

/-- The level of the next token; zero if nothing goes on. -/
def levelAhead : Reader Nat := do
  match ← peek with
  | some (.symbol s) => return symbolLevel s
  | some (.word _) =>
    match ← keywordAt 0 with
    | "OR" => return Strength.or
    | "AND" => return Strength.and
    | "XOR" => return Strength.xor
    | "AT" =>
      if (← keywordAt 1) = "TIME" ∧ (← keywordAt 2) = "ZONE" then return Strength.timeZone
      else return 0
    | "NOT" => return testLevel (← keywordAt 1)
    | "IS" => return Strength.is
    | "OPERATOR" => return Strength.comparison
    | "DIV" => return Strength.product
    | word => return testLevel word
  | _ => return 0

/-! ## Tests -/

/-- A test behind `IS`. -/
def isTest (left : Expr) : Reader Expr := do
  let negated ← keyword? "NOT"
  match ← oneOf? ["NULL", "TRUE", "FALSE", "UNKNOWN", "DISTINCT"] with
  | some "NULL" => return .isNull left negated
  | some "DISTINCT" =>
    expectKeyword "FROM"
    let right ← r.wholeText
    return .other (left.text ++ " IS " ++ Expr.notText negated ++ "DISTINCT FROM " ++ right)
  | some word => return .other (left.text ++ " IS " ++ Expr.notText negated ++ word)
  | none => refuse

/-- A test for membership behind `IN`; `body` reads what a query does. -/
def membership (body : Reader String) (left : Expr) (negated : Bool) : Reader Expr := do
  let shown (set : String) : Expr :=
    .other (left.text ++ " " ++ Expr.notText negated ++ "IN " ++ set)
  if ← keyword? "UNNEST" then return shown ("UNNEST" ++ parens (← inParens r.wholeText))
  inParens do
    match ← attempt body with
    | some query => return shown (parens query)
    | none => return shown (parens (← r.wholeTexts))

/-- A test for a range behind `BETWEEN`. -/
def range (left : Expr) (negated : Bool) : Reader Expr := do
  let low ← r.expr Strength.comparison
  expectKeyword "AND"
  let high ← r.expr Strength.comparison
  return .other (left.text ++ " " ++ Expr.notText negated ++ "BETWEEN " ++ low.text ++ " AND " ++
    high.text)

/-- The character that escapes others in a pattern. -/
def escape? : Reader (Option String) :=
  clause? "ESCAPE" literalString

/-- A match behind its word. -/
def matching (word : String) (left : Expr) (negated : Bool) : Reader Expr := do
  match word with
  | "LIKE" | "ILIKE" =>
    let any ← keyword? "ANY"
    let pattern ← r.expr Strength.like
    let escape ← escape?
    if word = "LIKE" then return .like left negated any pattern escape
    else return .other (Expr.matchText word left.text pattern.text negated any escape)
  | "SIMILAR" =>
    expectKeyword "TO"
    let pattern ← r.expr Strength.like
    return .other (Expr.matchText "SIMILAR TO" left.text pattern.text negated false (← escape?))
  | _ =>
    if word = "REGEXP" then discard (keyword? "RLIKE")
    let pattern ← r.expr Strength.like
    return .other (Expr.matchText word left.text pattern.text negated false none)

/-! ## Operators -/

/-- A subscript or a slice behind its opening bracket, as it is shown. -/
def subscript : Reader String := do
  let bound : Reader String := do
    if ← peekSymbol "]" then return "" else r.wholeText
  let low ← if ← peekSymbol ":" then pure "" else r.wholeText
  let shown ←
    if ← symbol? ":" then do
      let high ← bound
      let stride ←
        if high ≠ "" ∧ (← symbol? ":") then do
          let stride ← bound
          pure (if stride = "" then "" else ":" ++ stride)
        else pure ""
      pure (low ++ ":" ++ high ++ stride)
    else pure low
  expectSymbol "]"
  return shown

/-- The operators that compare with any or all of some values. -/
def comparisons : List String :=
  ["=", "<>", "<", "<=", ">", ">="]

/-- What an operator compares with, behind `ANY` or `ALL`, as it is shown. -/
def quantified (level : Nat) : Reader String :=
  inParens do
    if ["SELECT", "WITH"].contains (← keywordAt 0) then r.queryText
    else return (← r.expr level).text

/-- The right side of an operator. -/
def operation (left : Expr) (op : String) (level : Nat) : Reader Expr := do
  match ← oneOf? ["ANY", "ALL", "SOME"] with
  | some word =>
    let right ← quantified r level
    if comparisons.contains op then
      return .other (left.text ++ " " ++ op ++ " " ++ word ++ parens right)
    else refuse
  | none => return .binary left op (← r.expr level)

/-- The path of an operator's name behind its word. -/
def operatorPath : Nat → Reader (List String)
  | 0 => refuse
  | fuel + 1 => do
    let name := (← next).token.text
    if ← symbol? "." then return name :: (← operatorPath fuel) else return [name]

/-- An operator's name behind its word, as it is shown. -/
def operatorName : Reader String := inParens do
  return "OPERATOR" ++ parens (".".intercalate (← operatorPath ((← get).length + 1)))

/-- What a word goes on with. -/
def wordGoesOn (body : Reader String) (left : Expr) (word : String) (level : Nat) :
    Reader Expr := do
  match word with
  | "AND" | "OR" | "XOR" => operation r left word level
  | "OPERATOR" =>
    let name ← operatorName
    operation r left name level
  | "IS" => isTest r left
  | "AT" =>
    expectKeywords ["TIME", "ZONE"]
    return .other (left.text ++ " AT TIME ZONE " ++ (← r.expr level).text)
  | _ =>
    let negated := word = "NOT"
    let test ← if negated then do pure (← next).token.keyword else pure word
    match test with
    | "IN" => membership r body left negated
    | "BETWEEN" => range r left negated
    | "LIKE" | "ILIKE" | "RLIKE" | "REGEXP" | "SIMILAR" => matching r test left negated
    | _ => refuse

/-- One step from an expression to a larger one. -/
def goesOn (body : Reader String) (left : Expr) (level : Nat) : Reader Expr := do
  let token := (← next).token
  match token with
  | .symbol "::" => return .cast .colons left (← dataType) none
  | .symbol "[" => return .other (left.text ++ "[" ++ (← subscript r) ++ "]")
  | .symbol "==" => operation r left "=" level
  | .symbol s => if ["!", "&&"].contains s then refuse else operation r left s level
  | _ => wordGoesOn r body left token.keyword level

/-- Goes on from an expression while what follows binds tighter than a level; every step takes a
token. -/
def climb (body : Reader String) (level : Nat) : Nat → Expr → Reader Expr
  | 0, e => return e
  | fuel + 1, e => do
    let ahead ← levelAhead
    if level < ahead then
      let larger ← goesOn r body e ahead
      climb body level fuel larger
    else return e

/-- An expression at a level. -/
def exprOf (body : Reader String) (level : Nat) : Reader Expr := do
  let e ← beginning r
  climb r body level (← get).length e

end SqlNormal.Sql.Reader
