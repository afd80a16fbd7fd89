import SqlNormal.Sql.Reader.Call

/-!
# Reading what begins an expression

An expression begins with a constant, a name, a call, a sign, a parenthesis, or a word with a form
of its own. If the form of such a word is not there, the word is an ordinary name.

* `typedString`: a type and a string;
* `specialForm`: the words with a form of their own;
* `ordinaryWord`: every other word;
* `prefixOf`: the beginning of an expression, given a reader of the beginnings inside it.
-/

namespace SqlNormal.Sql.Reader

variable (r : Rules) (inner : Reader Expr)

/-- A type and a string of it, or an interval. A type of the user may not stand here. -/
def typedString : Reader Expr := do
  let type ← dataType
  match type.typeClass with
  | .interval => intervalOf inner
  | .custom => refuse
  | .temporal | .other => return .typed type (← literalString)

/-! ## Forms of their own -/

/-- A time, with arguments or without. -/
def timeCall (clauses : CallClauses) : Reader Expr := do
  if ← symbol? "(" then
    let list ← argumentList r
    return .call clauses list.quantifier list.args list.clauses
  else return .bareCall clauses

/-- A branch behind its `WHEN`. -/
def branch : Reader (Expr × Expr) := do
  let condition ← r.whole
  expectKeyword "THEN"
  return (condition, ← r.whole)

/-- A CASE behind its word. -/
def caseForm : Reader Expr := do
  let operand ← if ← peekKeyword "WHEN" then pure none else some <$> r.whole
  expectKeyword "WHEN"
  let first ← branch r
  let more ← repeated (clause? "WHEN" (branch r))
  let otherwise ← clause? "ELSE" r.whole
  expectKeyword "END"
  return .case operand (first :: more) otherwise

/-- A conversion behind its word. -/
def convertForm (isTry : Bool) : Reader Expr := inParens do
  let operand ← r.whole
  if ← keyword? "USING" then return .convert isTry operand none (some (← objectText))
  expectSymbol ","
  let type ← dataType
  let charset ← clauses? ["CHARACTER", "SET"] objectText
  return .convert isTry operand (some type) charset

/-- The format of a cast, as it is shown. -/
def castFormat? : Reader (Option String) :=
  clause? "FORMAT" do
    let format ← constant
    let zone ← clauses? ["AT", "TIME", "ZONE"] constant
    return format.text ++ clauseText " AT TIME ZONE " (zone.map Constant.text) ""

/-- A cast behind its word. -/
def castForm (kind : CastKind) : Reader Expr := inParens do
  let operand ← r.whole
  expectKeyword "AS"
  let type ← dataType
  return .cast kind operand type (← castFormat?)

/-- A test for rows behind its word. -/
def existsForm (negated : Bool) : Reader Expr := do
  return .other (Expr.notText negated ++ "EXISTS " ++ parens (← inParens r.queryText))

/-- An EXTRACT behind its word. -/
def extractForm : Reader Expr := inParens do
  let field ← dateTimeField
  if ← keyword? "FROM" then return .extract field (← r.whole) false
  expectSymbol ","
  return .extract field (← r.whole) true

/-- A rounding behind its word. -/
def roundingForm (keyword : String) : Reader Expr := inParens do
  let operand ← r.whole
  if ← keyword? "TO" then return .rounding keyword operand (.field (← dateTimeField))
  else if ← symbol? "," then
    match ← constant with
    | .number n long => return .rounding keyword operand (.digits (.number n long))
    | _ => refuse
  else return .rounding keyword operand .none

/-- A POSITION with its `IN`. -/
def positionForm : Reader Expr := inParens do
  let needle ← r.expr Strength.comparison
  expectKeyword "IN"
  return .position needle (← r.whole)

/-- A SUBSTRING behind its word. A comma may stand for `FOR`. -/
def substringForm : Reader Expr := inParens do
  let source ← r.whole
  let comma ← symbol? ","
  let begins ← if comma then pure true else keyword? "FROM"
  let start ← if begins then some <$> r.whole else pure none
  let goes ← if ← keyword? "FOR" then pure true else symbol? ","
  let length ← if goes then some <$> r.whole else pure none
  return .substring source start length comma

/-- An OVERLAY behind its word. -/
def overlayForm : Reader Expr := inParens do
  let source ← r.whole
  expectKeyword "PLACING"
  let what ← r.whole
  expectKeyword "FROM"
  let start ← r.whole
  return .overlay source what start (← clause? "FOR" r.whole)

/-- Where a TRIM takes characters away. -/
def trimSpec? : Reader (Option TrimSpec) := do
  match ← oneOf? ["BOTH", "LEADING", "TRAILING"] with
  | some "BOTH" => return some .both
  | some "LEADING" => return some .leading
  | some _ => return some .trailing
  | none => return none

/-- A TRIM behind its word. With characters behind a comma it has no side. -/
def trimForm : Reader Expr := inParens do
  let spec ← trimSpec?
  let first ← r.whole
  if ← keyword? "FROM" then return .trim spec (← r.whole) (some first) none
  else if ← symbol? "," then return .trim none first none (some (← separated r.whole))
  else return .trim spec first none none

/-- The items of an array behind its opening bracket, as they are shown. -/
def arrayText : Reader String := do
  let items ← separatedOrNone "]" r.wholeText
  expectSymbol "]"
  return "[" ++ listText items ++ "]"

/-- How a text is searched. -/
def searchMode? : Reader (Option String) := do
  if ← keywords? ["IN", "NATURAL", "LANGUAGE", "MODE"] then
    if ← keywords? ["WITH", "QUERY", "EXPANSION"] then
      return some "IN NATURAL LANGUAGE MODE WITH QUERY EXPANSION"
    else return some "IN NATURAL LANGUAGE MODE"
  else if ← keywords? ["IN", "BOOLEAN", "MODE"] then return some "IN BOOLEAN MODE"
  else if ← keywords? ["WITH", "QUERY", "EXPANSION"] then return some "WITH QUERY EXPANSION"
  else return none

/-- A search behind its word, as it is shown. -/
def searchText : Reader String := do
  let columns ← inParens (separated ident)
  expectKeyword "AGAINST"
  inParens do
    let value ← constant
    let mode ← searchMode?
    return "MATCH (" ++ listText (columns.map identText) ++ ") AGAINST " ++
      parens (value.text ++ clauseText " " mode "")

/-- A value of a structure, as it is shown. A structure with types has no names here. -/
def structValue (isTyped : Bool) : Reader String := do
  let e ← r.wholeText
  if ← keyword? "AS" then
    if isTyped then refuse
    return e ++ " AS " ++ identText (← ident)
  else return e

/-- A structure behind its word, as it is shown. -/
def structLiteral : Reader String := do
  let (fields, closed) ← structFields (typeAt ((← get).length + 1))
  if closed then refuse
  let values ← inParens (separated (structValue r (!fields.isEmpty)))
  return structText fields ++ parens (listText values)

/-- Pairs between braces, as they are shown. -/
def pairsText (key : Reader String) : Reader String := do
  expectSymbol "\x7b"
  let pair : Reader String := do
    let k ← key
    expectSymbol ":"
    return k ++ ": " ++ (← r.wholeText)
  let pairs ← separatedOrNone "\x7d" pair
  expectSymbol "\x7d"
  return "\x7b" ++ listText pairs ++ "\x7d"

/-- A form that a word begins, behind the word; none if the word has no form of its own here. -/
def specialForm (l : Lexeme) (i : Ident) : Reader (Option Expr) := do
  let clauses : CallClauses := { name := [i], start := l.start }
  match l.token.keyword with
  | "TRUE" => return some (.constant (.boolean true))
  | "FALSE" => return some (.constant (.boolean false))
  | "NULL" => return some (.constant .null)
  | "CURRENT_CATALOG" | "CURRENT_USER" | "SESSION_USER" | "USER" =>
    return some (.bareCall clauses)
  | "CURRENT_TIMESTAMP" | "CURRENT_TIME" | "CURRENT_DATE" | "LOCALTIME" | "LOCALTIMESTAMP" =>
    some <$> timeCall r clauses
  | "CASE" => some <$> caseForm r
  | "CONVERT" => some <$> convertForm r false
  | "TRY_CONVERT" => some <$> convertForm r true
  | "CAST" => some <$> castForm r .cast
  | "TRY_CAST" => some <$> castForm r .tryCast
  | "SAFE_CAST" => some <$> castForm r .safeCast
  | "EXISTS" => some <$> existsForm r false
  | "EXTRACT" => some <$> extractForm r
  | "CEIL" => some <$> roundingForm r "CEIL"
  | "FLOOR" => some <$> roundingForm r "FLOOR"
  | "POSITION" =>
    if ← peekSymbol "(" then
      match ← attempt (positionForm r) with
      | some e => return some e
      | none => some <$> callOf r inner [i] l.start false
    else return none
  | "SUBSTRING" => some <$> substringForm r
  | "OVERLAY" => some <$> overlayForm r
  | "TRIM" => some <$> trimForm r
  | "INTERVAL" => some <$> intervalOf inner
  | "ARRAY" =>
    if ← symbol? "[" then return some (.other ("ARRAY" ++ (← arrayText r)))
    else if ← peekSymbol "(" then return some (.queryCall clauses (← inParens r.queryText))
    else return none
  | "NOT" =>
    if ← keyword? "EXISTS" then some <$> existsForm r true
    else return some (.unary "NOT" (← r.expr Strength.not))
  | "MATCH" => return some (.other (← searchText))
  | "STRUCT" => return some (.other (← structLiteral r))
  | "MAP" =>
    if ← peekSymbol "\x7b" then return some (.other ("MAP " ++ (← pairsText r r.wholeText)))
    else return none
  | _ => return none

/-! ## Words without a form -/

/-- The rest of a path; a star may not end it. -/
def pathRest : Nat → Reader (List Ident)
  | 0 => refuse
  | fuel + 1 => do
    if ← symbol? "." then
      let i ← ident
      return i :: (← pathRest fuel)
    else return []

/-- A string that names its characters, behind its word. -/
def introduced? (i : Ident) : Reader (Option Expr) := do
  match i.value.toList, ← peek with
  | '_' :: _, some (.string s) =>
    skip 1
    return some (.other (i.value ++ " " ++ (Constant.string s).text))
  | '_' :: _, some (.marked .hex s) =>
    skip 1
    return some (.other (i.value ++ " " ++ (Constant.marked .hex s).text))
  | _, _ => return none

/-- A call, a path or a name, behind its first word. -/
def ordinaryWord (l : Lexeme) (i : Ident) : Reader Expr := do
  if (← peekSymbol "(") || (← peekSymbol ".") then
    let rest ← pathRest ((← get).length + 1)
    if ← peekSymbol "(" then callOf r inner (i :: rest) l.start false
    else return .path (i :: rest)
  else
    match ← introduced? i with
    | some e => return e
    | none => return .name i

/-! ## Beginnings -/

/-- What a word begins: its own form, or else what an ordinary word begins. The answer tells whether
the word had to be taken as an ordinary one. -/
def wordForm (l : Lexeme) (i : Ident) : Reader (Expr × Bool) := fun tokens =>
  match specialForm r inner l i tokens with
  | .ok (some e, rest) => .ok ((e, false), rest)
  | .ok (none, _) => (ordinaryWord r inner l i tokens).map fun (e, rest) => ((e, false), rest)
  | .error refusal =>
    if reservedForIdentifier.contains l.token.keyword then .error refusal
    else match ordinaryWord r inner l i tokens with
      | .ok (e, rest) => .ok ((e, true), rest)
      | .error _ => .error refusal

/-- A query, or expressions with commas between, behind an opening parenthesis; a name behind the
closing one takes a part of it. -/
def parenthesized : Reader Expr := do
  let e ←
    if ["SELECT", "WITH"].contains (← keywordAt 0) then do
      pure (.other (parens (← r.queryText)))
    else do
      match ← separated r.whole with
      | [e] => pure (.nested e)
      | es => pure (.other (parens (listText (es.map Expr.text))))
  expectSymbol ")"
  if ← symbol? "." then
    match (← next).token with
    | .word i => return .other (e.text ++ "." ++ identText i)
    | _ => refuse
  else return e

/-- A call or pairs between braces. -/
def braced : Reader Expr := do
  let escape : Reader Expr := do
    expectSymbol "\x7b"
    expectKeyword "FN"
    let start := match (← get).head? with
      | some l => l.start
      | none => Location.start
    callOf r inner (← objectName) start true
  match ← attempt escape with
  | some e =>
    expectSymbol "\x7d"
    return e
  | none => return .other (← pairsText r (do return identText (← ident)))

/-- A beginning that is no word. -/
def wordless : Reader Expr := do
  match ← peek with
  | some (.symbol s) =>
    match s with
    | "[" =>
      skip 1
      return .other (← arrayText r)
    | "-" | "+" =>
      skip 1
      return .unary s (← r.expr Strength.product)
    | "(" =>
      skip 1
      parenthesized r
    | "\x7b" => braced r inner
    | ":" | "@" => return .constant (← constant)
    | _ => refuse
  | some _ => return .constant (← constant)
  | none => refuse

/-- An order of comparison behind a beginning. -/
def collated (e : Expr) : Reader Expr := do
  if ← keyword? "COLLATE" then return .other (e.text ++ " COLLATE " ++ (← objectText))
  else return e

/-- The beginning of an expression. A typed string, and a word that was taken as an ordinary one
against its form, name no order. -/
def prefixOf : Reader Expr := do
  match ← attempt (typedString inner) with
  | some e => return e
  | none =>
    match ← get with
    | ⟨.word i, start⟩ :: rest =>
      set rest
      let (e, forced) ← wordForm r inner ⟨.word i, start⟩ i
      if forced then return e else collated e
    | _ => collated (← wordless r inner)

/-- The beginning of an expression; every beginning inside it takes a token. -/
def prefixAt : Nat → Reader Expr
  | 0 => refuse
  | fuel + 1 => fun tokens => prefixOf r (fun inside => prefixAt fuel inside) tokens

/-- The beginning of an expression. -/
def beginning : Reader Expr := fun tokens =>
  prefixAt r (tokens.length + 1) tokens

end SqlNormal.Sql.Reader
