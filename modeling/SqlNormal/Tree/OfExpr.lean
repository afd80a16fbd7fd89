import SqlNormal.Catalog.Resolve
import SqlNormal.Number.Binary64
import SqlNormal.Sql.Expr

/-!
# Trees of expressions

The parse tree of an expression that was read. An expression without a normal form is refused by its
text. A call has to fit the catalog; if it does not, the fault lies where the call stands.

* `occurrence`, `callPosition`: where a form or a call stands in the text;
* `literalOf`, `castTarget`, `binaryOperator`: parts of the tree;
* `checkCall`: calls and the catalog;
* `Expr.toTree`: the tree of an expression;
* `SelectItem.toEntry`: the entry of a projection's item.
-/

namespace SqlNormal.Sql

/-! ## Positions -/

/-- The byte offset of the first occurrence of a word in a text; zero if there is none. -/
def occurrence (source word : String) : Nat :=
  (Text.indexOf? (Text.upper word).toList (Text.upper source).toList).getD 0

/-- The byte offset at which a call stands. -/
def callPosition (source keyword : String) (start : Location) : Nat :=
  (byteOffset? source.toList start).getD (occurrence source keyword)

/-! ## Parts -/

/-- A numeral that is not too large for a floating-point number. -/
def numeralLiteral (n : Numeral) : Except Error Literal :=
  if (Binary64.read? n.digits.toList).any Binary64.isInfinite then
    throw (.read (.numeralOutOfRange n.digits))
  else pure (.number n.digits)

/-- The literal of a constant. -/
def literalOf (c : Constant) : Except Error Literal :=
  match c with
  | .number n _ => numeralLiteral n
  | .string s | .marked .national s | .marked .escaped s => pure (.string s)
  | .boolean b => pure (.boolean b)
  | .null => pure .null
  | _ => throw (.unsupported (.value c.text))

/-- What a cast to a type names. -/
def castTarget (type : DataType) : CastTarget :=
  if Text.sameWord type.text "NULL" then .null else .named type.text

/-- The operator that an operator sign stands for. -/
def binaryOperator (op : String) : Except Error Operator :=
  match op with
  | "+" => pure .plus
  | "-" => pure .minus
  | "*" => pure .multiply
  | "/" => pure .divide
  | "%" => pure .modulo
  | "||" => pure .concat
  | "=" => pure .eq
  | "<>" => pure .notEq
  | "<" => pure .lt
  | "<=" => pure .ltEq
  | ">" => pure .gt
  | ">=" => pure .gtEq
  | "AND" => pure .and
  | "OR" => pure .or
  | _ => throw (.unsupported (.binaryOperator op))

/-- The operator that a sign in front of an operand stands for. -/
def unaryOperator (op : String) : Except Error Operator :=
  match op with
  | "-" => pure .negate
  | "+" => pure .identity
  | "NOT" => pure .not
  | _ => throw (.unsupported (.unaryOperator op))

/-- The words that call a function without parentheses. -/
def bareWords : List String :=
  ["CURRENT_DATE", "CURRENT_TIME", "CURRENT_TIMESTAMP", "LOCALTIME", "LOCALTIMESTAMP",
   "CURRENT_USER", "SESSION_USER", "USER", "CURRENT_SCHEMA"]

/-- The tree of a name. -/
def nameTree (i : Ident) : Tree :=
  if i.quote.isNone ∧ bareWords.contains (Text.upper i.value) then
    .call ⟨i.value, none, none, false⟩ []
  else .identifier [i]

/-- A cast that has a normal form. -/
def checkCast (kind : CastKind) (format : Option String) : Except Error Unit :=
  match kind, format with
  | .tryCast, _ => throw (.unsupported (.castKind "TryCast"))
  | .safeCast, _ => throw (.unsupported (.castKind "SafeCast"))
  | _, some _ => throw (.unsupported .castFormat)
  | _, none => pure ()

/-- The target of a conversion, and whether it is a character set. -/
def convertTarget (type : Option DataType) (charset : Option String) :
    Except Error (Bool × String) :=
  match type, charset with
  | none, some charset => pure (true, charset)
  | some type, none => pure (false, type.text)
  | _, _ => throw (.unsupported .convertBoth)

/-- The text of an interval's value. -/
def intervalText (value : Expr) : Except Error String :=
  match value with
  | .constant (.string s) => pure s
  | .constant (.number n _) => pure n.digits
  | _ => throw (.unsupported (.intervalExpression value.text))

/-! ## Calls -/

/-- A call fits the catalog. -/
def checkCall (keyword : String) (shape : CallShape) (position : Nat) : Except Error Unit :=
  match resolve keyword shape with
  | .ok _ => pure ()
  | .error (.unknownFunction token) => throw (.form position (.unknownFunction token))
  | .error (.mismatch _ cause) => throw (.form position (.mismatch cause))
  | .error e => throw e

/-- The keyword of a call that has a normal form as far as its clauses go. -/
def callKeyword (c : CallClauses) : Except Error String :=
  let keyword := pathText c.name
  if c.name.length ≠ 1 then throw (.unsupported (.qualifiedFunction keyword))
  else if c.window.isSome then throw (.unsupported (.windowFunction keyword))
  else if c.filter.isSome then throw (.unsupported (.filterClause keyword))
  else pure keyword

/-- The tree of a call whose arguments are known. -/
def callTree (source : String) (c : CallClauses) (keyword : String)
    (quantifier : Option SetQuantifier) (parenthesized : Bool) (args : List Tree) :
    Except Error Tree := do
  let alternative := (familyOf? keyword).bind fun f => f.alternativeOf? keyword
  checkCall keyword { argc := args.length, alternative := alternative, quantifier := quantifier }
    (callPosition source keyword c.start)
  return .call ⟨keyword, alternative, quantifier, parenthesized⟩ args

/-- The tree of a call whose only argument is a star. -/
def starTree (source : String) (c : CallClauses) (keyword : String)
    (quantifier : Option SetQuantifier) : Except Error Tree := do
  let position := callPosition source keyword c.start
  match quantifier with
  | some q => throw (.form position (.quantifierOnStar q))
  | none =>
    checkCall keyword .ofStar position
    return .countStar keyword

/-- The tree of a rounding whose arguments are known. -/
def roundingTree (source keyword : String) (args : List Tree) : Except Error Tree := do
  checkCall keyword (.ofCount args.length) (occurrence source keyword)
  return .call (.plain keyword) args

/-- The scale of a rounding. -/
def scaleTrees (keyword : String) (scale : RoundingScale) : Except Error (List Tree) := do
  match scale with
  | .none => return []
  | .digits c => return [.literal (← literalOf c)]
  | .field word => throw (.unsupported (.roundingField keyword word))

/-! ## Expressions -/

/-- The tree of an expression of the text `source`. -/
def Expr.toTree (source : String) : Expr → Except Error Tree
  | constant c => return .literal (← literalOf c)
  | name i => return nameTree i
  | path parts => return .identifier parts
  | nested inner => return .nested (← toTree source inner)
  | binary left op right => do
    let l ← toTree source left
    let operator ← binaryOperator op
    return .binary l operator (← toTree source right)
  | unary op operand => do
    let operator ← unaryOperator op
    return .unary operator (← toTree source operand)
  | isNull operand negated => return .isNull (← toTree source operand) negated
  | like operand negated _ pattern escape => do
    if escape.isSome then throw (.unsupported .likeEscape)
    let l ← toTree source operand
    return .binary l (if negated then .notLike else .like) (← toTree source pattern)
  | bareCall c => do
    let keyword ← callKeyword c
    callTree source c keyword none false []
  | queryCall c _ => do
    discard (callKeyword c)
    throw (.unsupported .subqueryArgument)
  | call c quantifier args inner => do
    let keyword ← callKeyword c
    if !inner.isEmpty then throw (.unsupported (.argumentClauses keyword))
    match args with
    | [.star] => starTree source c keyword quantifier
    | _ => callTree source c keyword quantifier true (← treeArguments keyword c.start args)
  | case operand branches otherwise => do
    if branches.isEmpty then throw (.form (occurrence source "CASE") .caseWithoutBranch)
    let o ← treeOption operand
    let bs ← treeBranches branches
    return .case o bs (← treeOption otherwise)
  | cast kind operand type format => do
    checkCast kind format
    return .cast (← toTree source operand) (castTarget type)
  | trim spec operand what characters => do
    let s ← toTree source operand
    match what, characters with
    | some w, _ => return .trim spec (some (← toTree source w)) true s
    | none, none | none, some [] => return .trim spec none false s
    | none, some [c] => return .trim spec (some (← toTree source c)) false s
    | none, some _ => throw (.form (occurrence source "TRIM") .trimSets)
  | extract field operand _ => return .extract (field ++ "_FROM") (← toTree source operand)
  | substring operand start length comma => do
    let s ← toTree source operand
    let b ← treeOption start
    return .substring s b (← treeOption length) (!comma)
  | position needle haystack => do
    let n ← toTree source needle
    return .position n (← toTree source haystack)
  | overlay operand what start length => do
    let s ← toTree source operand
    let w ← toTree source what
    let b ← toTree source start
    return .overlay s w b (← treeOption length)
  | convert isTry operand type charset => do
    if isTry then throw (.unsupported .tryConvert)
    let (isCharset, target) ← convertTarget type charset
    return .convert (← toTree source operand) isCharset target none
  | rounding keyword operand scale => do
    let e ← toTree source operand
    roundingTree source keyword (e :: (← scaleTrees keyword scale))
  | typed type s =>
    match type.typeClass with
    | .temporal => return .literal (.typed type.text s)
    | _ => return .cast (.literal (.string s)) (castTarget type)
  | interval value qualifier => do
    let s ← intervalText value
    return .literal (.interval (s ++ clauseText " " qualifier.leading ""))
  | other shown => throw (.unsupported (.expression shown))
termination_by structural e => e
where
  /-- The trees of a call's arguments. A star stands alone or not at all. -/
  treeArguments (keyword : String) (start : Location) :
      List (Argument Expr) → Except Error (List Tree)
    | [] => return []
    | .expr e :: rest => do
      let t ← toTree source e
      return t :: (← treeArguments keyword start rest)
    | .star :: _ =>
      throw (.form (callPosition source keyword start) (.starArgument keyword))
    | .other shown :: _ => throw (.unsupported (.argumentForm shown keyword))
  termination_by structural args => args
  /-- The trees of the branches of a CASE. -/
  treeBranches : List (Expr × Expr) → Except Error (List (Tree × Tree))
    | [] => return []
    | (condition, result) :: rest => do
      let c ← toTree source condition
      let r ← toTree source result
      return (c, r) :: (← treeBranches rest)
  termination_by structural bs => bs
  /-- The tree of an expression that may be absent. -/
  treeOption : Option Expr → Except Error (Option Tree)
    | none => return none
    | some e => return some (← toTree source e)
  termination_by structural e => e

/-- The entry of an item of a projection. -/
def SelectItem.toEntry (source : String) : SelectItem → Except Error SelectEntry
  | star _ => return .wildcard
  | tableStar table _ => return .tableWildcard table
  | expr e name => return .expr (← e.toTree source) name

end SqlNormal.Sql
