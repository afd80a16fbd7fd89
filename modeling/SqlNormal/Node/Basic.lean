import SqlNormal.Catalog.Binding
import SqlNormal.Operator
import SqlNormal.SqlType.Basic
import SqlNormal.Value

/-!
# Expression nodes

The normal form of an expression: every call carries the number of its function, and the keywords of
a keyword form are constants among its parameters.

* `Labels`: the names a node was given, its parentheses and its text;
* `CallHead`: what a call carries beside its parameters;
* `Node`: the tree; a CASE is a list of predicates, each with its result;
* `Node.ofValue`, `Node.keyword`: constants with the text that denotes them.
-/

namespace SqlNormal

/-- What is noted on a node beside its meaning. The outer name comes from an enclosing query. -/
structure Labels where
  name : Option String := none
  outerName : Option String := none
  parenthesized : Bool := false
  rawText : String := ""
deriving DecidableEq

/-- The name that a column is shown by, if it was given one. -/
def Labels.givenName? (l : Labels) : Option String :=
  l.outerName.or l.name

/-- A call without its parameters. A call without parentheses is a bare word; a session value stands
for the call when it is there. -/
structure CallHead where
  id : FunctionId
  name : String
  separator : String
  distinct : Bool := false
  all : Bool := false
  parenthesized : Bool := true
  sessionValue : Option Value := none
deriving DecidableEq

namespace CallHead

/-- The function gives one result for a group of rows. -/
def isAggregate (h : CallHead) : Bool :=
  SqlNormal.isAggregate h.id

/-- The call is `COUNT(*)`. -/
def isCountStar (h : CallHead) : Bool :=
  h.id = FunctionId.countStar

end CallHead

/-- An expression in normal form. -/
inductive Node where
  | constant (labels : Labels) (value : Value)
  | column (labels : Labels) (qualifier : List String) (name : String)
  | columns (labels : Labels) (qualifier : List String)
  | call (labels : Labels) (head : CallHead) (params : List Node)
  | case (labels : Labels) (branches : List (Node × Node)) (otherwise : Option Node)
  | cast (labels : Labels) (operand : Node) (target : SqlType)
  | operation (labels : Labels) (op : Operator) (operands : List Node)

namespace Node

/-- What is noted on the node. -/
def labels : Node → Labels
  | constant l _ | column l _ _ | columns l _ | call l _ _ | case l _ _ | cast l _ _
  | operation l _ _ => l

/-- The node with other notes. -/
def relabel (f : Labels → Labels) : Node → Node
  | constant l value => constant (f l) value
  | column l qualifier name => column (f l) qualifier name
  | columns l qualifier => columns (f l) qualifier
  | call l head params => call (f l) head params
  | case l branches otherwise => case (f l) branches otherwise
  | cast l operand target => cast (f l) operand target
  | operation l op operands => operation (f l) op operands

/-- The text of the node. -/
def rawText (n : Node) : String := n.labels.rawText

/-- The node with its text. -/
def withText (n : Node) (text : String) : Node :=
  n.relabel fun l => { l with rawText := text }

/-- The node in parentheses. -/
def inParens (n : Node) : Node :=
  n.relabel fun l => { l with parenthesized := true }

/-- The node with the name it was given. -/
def withName (n : Node) (name : Option String) : Node :=
  n.relabel fun l => { l with name := name }

/-- The node with the name that an enclosing query gives it. -/
def withOuterName (n : Node) (name : String) : Node :=
  n.relabel fun l => { l with outerName := some name }

/-- A constant whose text is the literal that denotes it. -/
def ofValue (value : Value) : Node :=
  constant { rawText := value.toSql } value

/-- A keyword among parameters. -/
def keyword (word : String) : Node :=
  ofValue (.keyword word)

/-- The head of a call. -/
def callHead? : Node → Option CallHead
  | call _ head _ => some head
  | _ => none

/-- The function that is called at the root. -/
def functionId? (n : Node) : Option FunctionId :=
  n.callHead?.map (·.id)

/-- The parameters of a call. -/
def params : Node → List Node
  | call _ _ params => params
  | _ => []

/-- A reference to a column. -/
def isColumn : Node → Bool
  | column _ _ _ => true
  | _ => false

/-- A keyword. -/
def isKeyword : Node → Bool
  | constant _ value => value.isKeyword
  | _ => false

/-- An operator with its operands. -/
def isOperation : Node → Bool
  | operation _ _ _ => true
  | _ => false

/-- The direct parts of a node, in order. -/
def children : Node → List Node
  | constant _ _ | column _ _ _ | columns _ _ => []
  | call _ _ params => params
  | case _ branches otherwise => branches.flatMap (fun b => [b.1, b.2]) ++ otherwise.toList
  | cast _ operand _ => [operand]
  | operation _ _ operands => operands

end Node

end SqlNormal
