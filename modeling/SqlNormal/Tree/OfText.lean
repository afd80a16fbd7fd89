import SqlNormal.Sql.Reader
import SqlNormal.Tree.OfExpr

/-!
# Trees of texts

Reads the text of an expression or of a query to parse trees. How deep expressions may lie inside
each other is bounded; statements and queries around them have an allowance of their own. Where the
bound and the allowance do not fit into a word together, nothing is read and the program stops.

* `readingBudget`, `HasRoom`: the bound with its allowance, and whether it fits;
* `Tree.ofText`: the tree of an expression;
* `entriesOfText`: the entries of the projection of a query;
* `statementsOfText`, `statementOfText`: statements, without a look at what they hold.
-/

namespace SqlNormal

open Sql

/-- What statements and queries may take beside the expressions inside them. -/
def queryAllowance : Nat := 16

/-- The bound on what lies inside each other where none is asked for. -/
def statementBudget : Nat := 50

/-- The budget for reading expressions of some depth. -/
def readingBudget (maxDepth : Nat) : Nat :=
  maxDepth + queryAllowance

/-- The budget is a number of 64 bits. -/
def HasRoom (maxDepth : Nat) : Prop :=
  readingBudget maxDepth < Nat.pow 2 64

instance (maxDepth : Nat) : Decidable (HasRoom maxDepth) :=
  inferInstanceAs (Decidable (_ < _))

/-- The error of a refused text. -/
def Sql.Refusal.toError (maxDepth : Nat) : Refusal → Error
  | tooDeep => .tooDeep (maxDepth + 1) maxDepth
  | unreadable => .read .unreadable

/-- What was read, or the error of a refused text. Nothing is read on a budget that is no number of
64 bits. -/
def readWithin (maxDepth : Nat) (read : (budget : Nat) → Except Refusal α) : Except Failure α :=
  if HasRoom maxDepth then
    answering ((read (readingBudget maxDepth)).mapError (Refusal.toError maxDepth))
  else throw .overflow

/-- The tree of an expression that was read, with nothing behind it. -/
def treeOfReading (source : String) (q : Expr × List Lexeme) : Except Error Tree :=
  match q.2 with
  | [] => q.1.toTree source
  | l :: _ => throw (.read (.trailing l.token.text))

/-- The tree of the text of an expression. -/
def Tree.ofText (maxDepth : Nat) (source : String) : Except Failure Tree := do
  let q ← readWithin maxDepth fun budget => readExpr budget source
  answering (treeOfReading source q)

/-- The only statement of a list. -/
def onlyStatement (statements : List Statement) : Except Error Statement :=
  match statements with
  | [s] => pure s
  | _ => throw (.read (.statementCount statements.length))

/-- The items of a statement's projection. -/
def projectionOf (s : Statement) : Except Error (List SelectItem) :=
  match s with
  | .query ⟨.select items, _⟩ => pure items
  | .query _ => throw (.unsupported .projectionBody)
  | _ => throw (.read (.notSelect s.text))

/-- The entries of the projection of a text's only statement. -/
def entriesOfStatements (source : String) (ss : List Statement) :
    Except Error (List SelectEntry) := do
  let items ← projectionOf (← onlyStatement ss)
  items.mapM (·.toEntry source)

/-- The entries of the projection of the text of a query. -/
def entriesOfText (maxDepth : Nat) (source : String) : Except Failure (List SelectEntry) := do
  let ss ← readWithin maxDepth fun budget => readStatements budget source
  answering (entriesOfStatements source ss)

/-- The statements of a text. -/
def statementsOfText (source : String) : Except Error (List Statement) :=
  (readStatements statementBudget source).mapError fun _ => .read .unreadable

/-- The only statement of a text. -/
def statementOfText (source : String) : Except Error Statement := do
  onlyStatement (← statementsOfText source)

end SqlNormal
