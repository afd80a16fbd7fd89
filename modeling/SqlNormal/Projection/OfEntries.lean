import SqlNormal.Node.OfTree
import SqlNormal.Projection.Basic

/-!
# Binding projections

The columns of a projection's entries, in order. A column whose name cannot be found keeps its own
name if it has one; any other failure to name it is fatal and shows the expression's text.

* `Environment.nameOf`: the name of a column;
* `Environment.bindEntry`, `Environment.bindProjection`.
-/

namespace SqlNormal.Environment

/-- The name of a projected expression. -/
def nameOf (env : Environment) (name : Option Ident) (n : Node) : Except Error (Option String) :=
  match env.collaborators.resolveName name n with
  | .ok given => pure given
  | .error cause =>
    match cause.isRecoverable, n with
    | true, .column _ _ own => pure (some own)
    | _, _ => throw (.aliasFailed n.toSql cause)

/-- The column of an entry. -/
def bindEntry (env : Environment) : SelectEntry → Except Error Node
  | .wildcard => pure (.columns { rawText := "*" } [])
  | .tableWildcard parts => do
    let qualifier ← env.collaborators.resolveTable parts
    return .columns { rawText := Ident.path parts ++ ".*" } qualifier
  | .expr tree name => do
    let n ← env.bind tree
    return n.withName (← env.nameOf name n)

/-- The columns of entries. -/
def bindProjection (env : Environment) (entries : List SelectEntry) : Except Error (List Node) :=
  entries.mapM env.bindEntry

end SqlNormal.Environment
