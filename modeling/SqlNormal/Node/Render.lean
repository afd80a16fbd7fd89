import SqlNormal.Node.Basic

/-!
# Writing nodes

The SQL text of a node. An operand gets parentheses where its place would otherwise change, and the
parameters of a call are joined by the separator that the call carries.

* `needsParens`: whether an operand has to be wrapped;
* `signed`, `operationText`, `callText`: the texts of the composite forms;
* `Node.toSql`, `Node.displayName`: the text, and the name that a column is shown by.
-/

namespace SqlNormal

/-- An operand with the operator `inner` has to be wrapped under `outer`. A concatenation and any
other operator are always kept apart. -/
def needsParens (outer inner : Operator) (last : Bool) : Bool :=
  if (outer == .concat) != (inner == .concat) then true
  else match outer.fixity with
    | .before => inner.precedence < outer.precedence
    | .after => inner.precedence ≤ outer.precedence
    | .between => inner.precedence < outer.precedence ||
        (inner.precedence == outer.precedence && (last || outer.isComparison))

/-- A text in parentheses. -/
def inParens (text : String) : String :=
  "(" ++ text ++ ")"

/-- The text begins with a sign. -/
def startsSigned (text : String) : Bool :=
  match text.toList with
  | c :: _ => c == '-' || c == '+'
  | [] => false

/-- An operator in front of its operand. A word is kept apart from it, and a sign from another sign,
so that two of them do not begin a comment. -/
def signed (op : Operator) (operand : String) : String :=
  if op.text.toList.all Char.isAlpha || startsSigned operand then op.text ++ " " ++ operand
  else op.text ++ operand

/-- An operator with the texts of its operands. -/
def operationText (op : Operator) (operands : List String) : String :=
  match op.fixity, operands with
  | .before, [operand] => signed op operand
  | .after, [operand] => operand ++ " " ++ op.text
  | _, _ => (" " ++ op.text ++ " ").intercalate operands

/-- The quantifier of a call and the blank behind it. -/
def CallHead.quantifierText (h : CallHead) : String :=
  if h.distinct then "DISTINCT " else if h.all then "ALL " else ""

/-- A call with the texts of its parameters. -/
def callText (head : CallHead) (params : List String) : String :=
  match head.sessionValue with
  | some value => value.toSql
  | none =>
    if !head.parenthesized && params.isEmpty then head.name
    else if head.isCountStar then head.name ++ "(*)"
    else head.name ++ "(" ++ head.quantifierText ++ head.separator.intercalate params ++ ")"

/-- A CASE of the texts of its branches. -/
def caseText (branches : List (String × String)) (otherwise : Option String) : String :=
  "CASE" ++ String.join (branches.map fun b => " WHEN " ++ b.1 ++ " THEN " ++ b.2) ++
    (match otherwise with
      | some text => " ELSE " ++ text
      | none => "") ++ " END"

/-- All columns, or those of a table. -/
def columnsText (qualifier : List String) : String :=
  if qualifier.isEmpty then "*" else Text.dotted qualifier ++ ".*"

namespace Node

/-- A text in parentheses if they were written. -/
def wrap (l : Labels) (text : String) : String :=
  if l.parenthesized then SqlNormal.inParens text else text

/-- The text of an operand at its place. -/
def placed (op : Operator) (last : Bool) (operand : Node) (text : String) : String :=
  match operand with
  | operation l inner _ =>
    if !l.parenthesized && needsParens op inner last then SqlNormal.inParens text else text
  | _ => text

/-- The SQL text of a node. -/
def toSql : Node → String
  | constant l value => wrap l value.toSql
  | column l qualifier name => wrap l (Text.dotted (qualifier ++ [name]))
  | columns l qualifier => wrap l (columnsText qualifier)
  | call l head params => wrap l (callText head (sqlList params))
  | case l branches (some otherwise) =>
    wrap l (caseText (sqlBranches branches) (some (toSql otherwise)))
  | case l branches none => wrap l (caseText (sqlBranches branches) none)
  | cast l operand target => wrap l ("CAST(" ++ toSql operand ++ " AS " ++ target.toSql ++ ")")
  | operation l op operands => wrap l (operationText op (sqlOperands op true operands))
termination_by structural n => n
where
  /-- The texts of nodes in a row. -/
  sqlList : List Node → List String
    | [] => []
    | n :: ns => toSql n :: sqlList ns
  termination_by structural ns => ns
  /-- The texts of branches. -/
  sqlBranches : List (Node × Node) → List (String × String)
    | [] => []
    | (predicate, result) :: rest => (toSql predicate, toSql result) :: sqlBranches rest
  termination_by structural bs => bs
  /-- The texts of operands; the last one, if it is not also the first, stands on the right. -/
  sqlOperands (op : Operator) (first : Bool) : List Node → List String
    | [] => []
    | n :: ns => placed op (!first && ns.isEmpty) n (toSql n) :: sqlOperands op false ns
  termination_by structural ns => ns

/-- The name that a node is shown by: the one it was given, else the column's, else its text. -/
def displayName (n : Node) : String :=
  match n.labels.givenName?, n with
  | some name, _ => name
  | none, column _ _ name => name
  | none, _ => if n.rawText.isEmpty then n.toSql else n.rawText

end Node

end SqlNormal
