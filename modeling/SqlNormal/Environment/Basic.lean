import SqlNormal.Config.Basic
import SqlNormal.Node.Render
import SqlNormal.Tree.Basic

/-!
# The surroundings of a binding

What the normal form of a tree depends on beside the tree: the configuration, the session, and the
decisions that belong to the program around it.

* `Collaborators`: those decisions, each of which may fail;
* `Collaborators.standard`: names fold to lower case, types are read by their names, conditions are
  lowered like any expression, every written name of a column is accepted;
* `Environment`.
-/

namespace SqlNormal

/-- The decisions that belong to the surrounding program.

* `foldCase`: the name that an identifier denotes;
* `resolveType`: the type that a cast names;
* `condition`: the predicate of a searched CASE at some depth; it is handed the condition and what
  lowering it gives;
* `comparison`: the predicate of an operator and two operands;
* `resolveName`: the name of a projected column;
* `resolveTable`: the path of a table whose columns are all asked for. -/
structure Collaborators where
  foldCase : Ident → String
  resolveType : CastTarget → Except Error SqlType
  condition : (depth : Nat) → Tree → Except Error Node → Except Error Node
  comparison : Operator → Node → Node → Except Error Node
  resolveName : Option Ident → Node → Except Error (Option String)
  resolveTable : List Ident → Except Error (List String)

/-- Reads a type name. -/
def readType (name : String) : Except Error SqlType :=
  match SqlType.read name with
  | .ok t => pure t
  | .error fault => throw (.type (.unreadable fault))

namespace Collaborators

/-- The type that a cast names, read from the name. -/
def namedType : CastTarget → Except Error SqlType
  | .null => pure .null
  | .named name => readType name

/-- The operator applied to both operands, if it yields a truth value. -/
def predicate (op : Operator) (left right : Node) : Except Error Node :=
  if op.isPredicate then
    pure (.operation { rawText := left.rawText ++ " " ++ op.text ++ " " ++ right.rawText } op
      [left, right])
  else throw (.invariant (.notPredicate op))

/-- The written name, if there is one. -/
def writtenName (name : Option Ident) : Except Error (Option String) :=
  pure (name.map Ident.folded)

/-- The path as written. -/
def writtenTable (parts : List Ident) : Except Error (List String) :=
  if parts.isEmpty then throw (.invariant .emptyTableName) else pure (parts.map Ident.folded)

/-- The decisions of a program that brings none of its own. -/
def standard : Collaborators where
  foldCase := Ident.folded
  resolveType := namedType
  condition _ _ lowered := lowered
  comparison := predicate
  resolveName name _ := writtenName name
  resolveTable := writtenTable

end Collaborators

/-- What a binding depends on beside the tree. -/
structure Environment where
  config : Config := {}
  session : Session := {}
  collaborators : Collaborators := .standard

end SqlNormal
