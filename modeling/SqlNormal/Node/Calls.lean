import SqlNormal.Node.Basic

/-!
# Calls of a node

The calls that occur in a node, a call before those among its parameters.

* `Node.calls`, `Node.functionIds`;
* `Node.containsAggregate`, `Node.hasDistinctAggregate`: whether an aggregate occurs, and whether
  one is applied to distinct values.
-/

namespace SqlNormal.Node

/-- The calls of a node, in the order in which they begin. -/
def calls : Node → List CallHead
  | constant _ _ | column _ _ _ | columns _ _ => []
  | call _ head params => head :: callsList params
  | case _ branches (some otherwise) => callsBranches branches ++ calls otherwise
  | case _ branches none => callsBranches branches
  | cast _ operand _ => calls operand
  | operation _ _ operands => callsList operands
termination_by structural n => n
where
  /-- The calls of nodes in a row. -/
  callsList : List Node → List CallHead
    | [] => []
    | n :: ns => calls n ++ callsList ns
  termination_by structural ns => ns
  /-- The calls of the branches of a CASE. -/
  callsBranches : List (Node × Node) → List CallHead
    | [] => []
    | (predicate, result) :: rest => calls predicate ++ calls result ++ callsBranches rest
  termination_by structural bs => bs

/-- The functions that are called. -/
def functionIds (n : Node) : List FunctionId :=
  n.calls.map (·.id)

/-- An aggregate occurs. -/
def containsAggregate (n : Node) : Bool :=
  n.calls.any CallHead.isAggregate

/-- An aggregate of distinct values occurs. -/
def hasDistinctAggregate (n : Node) : Bool :=
  n.calls.any fun h => h.distinct && h.isAggregate

end SqlNormal.Node
