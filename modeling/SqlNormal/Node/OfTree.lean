import SqlNormal.Calendar.Reader
import SqlNormal.Catalog.Resolve
import SqlNormal.Environment.Basic
import SqlNormal.Text.Tokens

/-!
# From trees to nodes

Every form of a tree becomes a node one level deep; its parts are lowered in the order in which they
stand, each a level deeper. A call finds its entry in the catalog before any of its arguments is
looked at. Keywords of a keyword form become constants among the parameters.

* `Environment.descend`: the level of a part, within the bound;
* `Environment.literal`, `Environment.columnOf`: the leaves;
* `Environment.newHead`, `callOf`: a call and its text;
* `Environment.lower`: the node of a tree; `Environment.bind` starts at the first level.
-/

namespace SqlNormal

open Text (Piece tokenText)

/-! ## Fields of an EXTRACT -/

/-- Cuts off exactly `n` bytes. -/
def takeBytes? (n : Nat) : List Char → Option (List Char × List Char)
  | [] => if n = 0 then some ([], []) else none
  | c :: cs =>
    if n = 0 then some ([], c :: cs)
    else if c.utf8Size ≤ n then
      (takeBytes? (n - c.utf8Size) cs).map fun r => (c :: r.1, r.2)
    else none

/-- The marker behind the field of an EXTRACT. -/
def fieldMarker : String := "FROM"

/-- The field of a token: what stands before the marker, without underscores and blanks between. -/
def fieldOfToken (token : String) : Except Error String :=
  match takeBytes? fieldMarker.utf8ByteSize token.toList.reverse with
  | none => throw (.invariant (.fieldMarker token))
  | some (marker, before) =>
    let field := (before.dropWhile fun c => c == '_' || c == ' ').reverse
    if Text.sameWord (String.ofList marker.reverse) fieldMarker = false ∨ field.isEmpty then
      throw (.invariant (.fieldToken token))
    else pure (String.ofList field)

/-! ## Calls -/

/-- The pieces of a call. Commas stand between parameters if the separator has one. -/
def callPieces (keyword : String) (quantifier : Option SetQuantifier) (separator : String)
    (params : List Node) : List Piece :=
  let arguments := params.map fun p => Piece.token p.rawText
  Piece.opening keyword :: (quantifier.toList.map fun q => Piece.token q.text) ++
    (if Text.contains separator "," then arguments.intersperse (.token ",") else arguments) ++
    [.token ")"]

/-- A call with its text. -/
def callOf (head : CallHead) (keyword : String) (quantifier : Option SetQuantifier)
    (params : List Node) : Node :=
  .call { rawText := tokenText (callPieces keyword quantifier head.separator params) } head params

/-- The text of a call written as a bare word, or of one in parentheses. -/
def spelledCall (head : CallHead) (spelling : CallSpelling) (params : List Node) : Node :=
  if spelling.parenthesized then callOf head spelling.keyword spelling.quantifier params
  else .call { rawText := tokenText [.token spelling.keyword] } head params

/-- A call of a star. -/
def starCall (head : CallHead) (keyword : String) : Node :=
  .call { rawText := tokenText [.opening keyword, .token "*", .token ")"] } head []

/-- An operator applied to operands, with its text. -/
def operationOf (op : Operator) (operands : List Node) (pieces : List Piece) : Node :=
  .operation { rawText := tokenText pieces } op operands

/-- The text of a sign or of `NOT` in front of an operand. -/
def unaryPieces (op : Operator) (operand : String) : List Piece :=
  if op = .not then [.token op.text, .token operand] else [.token (signed op operand)]

/-- The name of a cast's target in a text. -/
def CastTarget.text : CastTarget → String
  | null => "NULL"
  | named typeName => typeName

/-- The shape of a call as it was written. -/
def CallSpelling.shape (s : CallSpelling) (argc : Nat) : CallShape :=
  { argc := argc, alternative := s.alternative, quantifier := s.quantifier }

/-- An optional clause: its keyword and its argument. -/
def clause (word : String) (argument : Option Node) : List Node :=
  match argument with
  | some n => [.keyword word, n]
  | none => []

/-- The arguments of a TRIM in the order in which they are written. -/
def trimParams (spec : Option TrimSpec) (characters : Option Node) (hasFrom : Bool)
    (source : Node) : List Node :=
  let spec := spec.toList.map fun s => Node.keyword s.text
  if hasFrom then spec ++ characters.toList ++ [.keyword fieldMarker, source]
  else spec ++ source :: characters.toList

/-- The operand of a simple CASE, or the value that it is compared with: an operator keeps its
operands to itself. -/
def compared (n : Node) : Node :=
  if n.isOperation then n.inParens else n

/-- A branch of a CASE: the text of its condition as written, the predicate and the result. -/
structure CaseBranch where
  condition : String
  predicate : Node
  result : Node

/-- The text of a CASE. -/
def casePieces (operand : Option Node) (branches : List CaseBranch) (otherwise : Option Node) :
    List Piece :=
  .token "CASE" :: (operand.toList.map fun n => Piece.token n.rawText) ++
    (branches.flatMap fun b =>
      [.token "WHEN", .token b.condition, .token "THEN", .token b.result.rawText]) ++
    (otherwise.toList.flatMap fun n => [Piece.token "ELSE", .token n.rawText]) ++ [.token "END"]

/-- A CASE with its text. -/
def caseOf (operand : Option Node) (branches : List CaseBranch) (otherwise : Option Node) : Node :=
  .case { rawText := tokenText (casePieces operand branches otherwise) }
    (branches.map fun b => (b.predicate, b.result)) otherwise

namespace Environment

/-- The level of a part of an expression, if it is within the bound. -/
def descend (env : Environment) (depth : Nat) : Except Error Nat :=
  if depth + 1 ≤ env.config.maxDepth then pure (depth + 1)
  else throw (.tooDeep (depth + 1) env.config.maxDepth)

/-- A call's head. The separator depends on whether the call is of a keyword form. -/
def newHead (env : Environment) (id : FunctionId) (keyword : String) (keywordForm : Bool) :
    CallHead where
  id := id
  name := Text.upper keyword
  separator := if keywordForm then env.config.keywordSeparator else env.config.separator

/-- A call of a keyword form, or of one that shares its name. -/
def formCall (env : Environment) (entry : CatalogEntry) (keyword : String) (keywordForm : Bool)
    (params : List Node) : Node :=
  callOf (env.newHead entry.id keyword keywordForm) keyword none params

/-- The value that the session has for a function. -/
def sessionValue (env : Environment) (id : FunctionId) : Except Error (Option Value) :=
  if id = .currentUser ∨ id = .sessionUser ∨ id = .user then
    pure (env.session.user.map .varchar)
  else if id = .currentDatabase ∨ id = .database then pure (env.session.database.map .varchar)
  else if id = .currentSchema then pure (env.session.schema.map .varchar)
  else throw (.internal (.noSessionValue id))

/-- The session's value for a call, if the session answers it. -/
def valueOfCall (env : Environment) (entry : CatalogEntry) : Except Error (Option Value) :=
  if entry.functionClass = .session then env.sessionValue entry.id else pure none

/-- The value of a literal of a type. -/
def temporal (typeName text : String) (make : α → Value) (read : Except TemporalFault α) :
    Except Error Value :=
  match read with
  | .ok x => pure (make x)
  | .error fault => throw (.type (.literal typeName text fault))

/-- A literal of a type; of any other type than the temporal ones it is a cast. -/
def typedLiteral (env : Environment) (typeName text : String) : Except Error Node := do
  let labels : Labels :=
    { rawText := tokenText [.token typeName, .token (Text.quoteString text)] }
  let word := Text.upper typeName
  if word = "DATE" then
    return .constant labels (← temporal typeName text .date (Date.read text.toList))
  else if word = "TIME" then
    return .constant labels (← temporal typeName text .time (Time.read text.toList))
  else if word = "TIMESTAMP" then
    return .constant labels (← temporal typeName text .timestamp (Timestamp.read text.toList))
  else
    let target ← env.collaborators.resolveType (.named typeName)
    return .cast labels (.ofValue (.varchar text)) target

/-- The node of a literal. -/
def literal (env : Environment) (l : Literal) : Except Error Node :=
  match l with
  | .number text =>
    match Value.ofNumeral? text with
    | some value => pure (.constant { rawText := tokenText [.token text] } value)
    | none => throw (.invariant (.malformedNumeral text))
  | .string s => pure (.ofValue (.varchar s))
  | .boolean b => pure (.ofValue (.boolean b))
  | .null => pure (.ofValue .null)
  | .interval text => pure (.ofValue (.interval text))
  | .typed typeName text => env.typedLiteral typeName text

/-- The node of a path of names: the last one is the column's. -/
def columnOf (env : Environment) (parts : List Ident) : Except Error Node :=
  match parts.getLast? with
  | none => throw (.invariant .emptyIdentifier)
  | some own =>
    pure (.column { rawText := tokenText [.token (Ident.path parts)] }
      (parts.dropLast.map env.collaborators.foldCase) (env.collaborators.foldCase own))

/-- The node of a tree at some level. -/
def lower (env : Environment) (depth : Nat) : Tree → Except Error Node
  | .literal l => env.literal l
  | .identifier parts => env.columnOf parts
  | .nested inner => do
    let n ← lower env (← env.descend depth) inner
    return (n.inParens).withText (tokenText [.token "(", .token n.rawText, .token ")"])
  | .binary left op right => do
    let l ← lower env (← env.descend depth) left
    let r ← lower env (← env.descend depth) right
    let pieces := [.token l.rawText, .token op.text, .token r.rawText]
    if op.isPredicate then
      return (← env.collaborators.comparison op l r).withText (tokenText pieces)
    else
      return operationOf op [l, r] pieces
  | .unary op operand => do
    let n ← lower env (← env.descend depth) operand
    return operationOf op [n] (unaryPieces op n.rawText)
  | .isNull operand negated => do
    let n ← lower env (← env.descend depth) operand
    let op := if negated then Operator.isNotNull else .isNull
    return operationOf op [n] [.token n.rawText, .token op.text]
  | .call spelling args => do
    let entry ← resolve spelling.keyword (spelling.shape args.length)
    let params ← lowerList depth args
    let value ← env.valueOfCall entry
    let head :=
      { env.newHead entry.id spelling.keyword false with
        parenthesized := spelling.parenthesized
        distinct := spelling.quantifier == some .distinct
        all := spelling.quantifier == some .all
        sessionValue := value }
    return spelledCall head spelling params
  | .countStar keyword => do
    let entry ← resolve keyword .ofStar
    return starCall (env.newHead entry.id keyword false) keyword
  | .case operand branches otherwise => do
    let tested ← lowerOption depth operand
    let lowered ← lowerBranches depth (tested.map compared) branches
    let final ← lowerOption depth otherwise
    return caseOf tested lowered final
  | .cast operand target => do
    let n ← lower env (← env.descend depth) operand
    let type ← env.collaborators.resolveType target
    let pieces := [.opening "CAST", .token n.rawText, .token "AS", .token target.text, .token ")"]
    return .cast { rawText := tokenText pieces } n type
  | .trim spec characters hasFrom source => do
    let entry ← resolve "TRIM" (.ofCount (if characters.isSome then 2 else 1))
    match spec, characters.isSome, hasFrom with
    | some spec, true, false => throw (.invariant (.trimWithoutFrom spec.text))
    | _, _, true =>
      let set ← lowerOption depth characters
      let n ← lower env (← env.descend depth) source
      return env.formCall entry "TRIM" true (trimParams spec set true n)
    | _, _, false =>
      let n ← lower env (← env.descend depth) source
      let set ← lowerOption depth characters
      return env.formCall entry "TRIM" spec.isSome (trimParams spec set false n)
  | .extract fieldToken source => do
    let field ← fieldOfToken fieldToken
    let entry ← resolve "EXTRACT" (.ofCount 2)
    let n ← lower env (← env.descend depth) source
    return env.formCall entry "EXTRACT" true [.keyword field, .keyword fieldMarker, n]
  | .substring source start length keywordForm => do
    if !keywordForm && start.isNone && length.isSome then
      throw (.invariant .substringLength)
    let argc := 1 + start.toList.length + length.toList.length
    let entry ← resolve "SUBSTRING" (.ofCount argc)
    let n ← lower env (← env.descend depth) source
    let first ← lowerOption depth start
    let count ← lowerOption depth length
    let params :=
      if keywordForm then n :: clause "FROM" first ++ clause "FOR" count
      else n :: first.toList ++ count.toList
    return env.formCall entry "SUBSTRING" keywordForm params
  | .position needle haystack => do
    let entry ← resolve "POSITION" (.ofCount 2)
    let n ← lower env (← env.descend depth) needle
    let h ← lower env (← env.descend depth) haystack
    return env.formCall entry "POSITION" true [n, .keyword "IN", h]
  | .overlay source replacement start length => do
    let entry ← resolve "OVERLAY" (.ofCount (3 + length.toList.length))
    let n ← lower env (← env.descend depth) source
    let r ← lower env (← env.descend depth) replacement
    let s ← lower env (← env.descend depth) start
    let l ← lowerOption depth length
    return env.formCall entry "OVERLAY" true
      ([n, .keyword "PLACING", r, .keyword "FROM", s] ++ clause "FOR" l)
  | .convert operand charset target style => do
    if charset && style.isSome then throw (.invariant .convertStyle)
    let entry ← resolve "CONVERT" (.ofCount (2 + style.toList.length))
    let n ← lower env (← env.descend depth) operand
    let s ← lowerOption depth style
    let middle := if charset then [Node.keyword "USING", .keyword target] else [.keyword target]
    return env.formCall entry "CONVERT" charset (n :: middle ++ s.toList)
termination_by structural t => t
where
  /-- The nodes of parts in a row. -/
  lowerList (depth : Nat) : List Tree → Except Error (List Node)
    | [] => pure []
    | t :: ts => do
      let n ← lower env (← env.descend depth) t
      let ns ← lowerList depth ts
      return n :: ns
  termination_by structural ts => ts
  /-- The node of a part that may be absent. -/
  lowerOption (depth : Nat) : Option Tree → Except Error (Option Node)
    | none => pure none
    | some t => do
      let n ← lower env (← env.descend depth) t
      return some n
  termination_by structural t => t
  /-- The branches of a CASE, whose operand is `tested` if it is a simple one. -/
  lowerBranches (depth : Nat) (tested : Option Node) :
      List (Tree × Tree) → Except Error (List CaseBranch)
    | [] => pure []
    | (condition, result) :: rest => do
      let (text, predicate) ← match tested with
        | some operand => do
          let value ← lower env (← env.descend depth) condition
          let predicate ← env.collaborators.comparison .eq operand (compared value)
          pure (value.rawText, predicate)
        | none => do
          let lowered := do lower env (← env.descend depth) condition
          let predicate ← env.collaborators.condition depth condition lowered
          pure (predicate.rawText, predicate)
      let r ← lower env (← env.descend depth) result
      let branches ← lowerBranches depth tested rest
      return ⟨text, predicate, r⟩ :: branches
  termination_by structural bs => bs

/-- The node of a tree. -/
def bind (env : Environment) (t : Tree) : Except Error Node :=
  env.lower 1 t

end Environment

end SqlNormal
