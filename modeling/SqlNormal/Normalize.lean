import SqlNormal.Projection.OfEntries
import SqlNormal.Tree.OfText

/-!
# Normalizing texts

Takes the text of an expression or of a query to its normal form in an environment.

* `Environment.normalizeExpression`, `Environment.normalizeProjection`: the nodes of a text;
* `Environment.regenerate`: a projection written again from its nodes;
* `Environment.withDepth`, `Environment.withSession`: an environment with other settings;
* `entryOfSpelling?`: the catalog's entry for a spelling.
-/

namespace SqlNormal

namespace Environment

/-- The node of the text of an expression. -/
def normalizeExpression (env : Environment) (sql : String) : Except Failure Node := do
  let tree ← Tree.ofText env.config.maxDepth sql
  answering (env.bind tree)

/-- The columns of the text of a query. -/
def normalizeProjection (env : Environment) (sql : String) : Except Failure (List Node) := do
  let entries ← entriesOfText env.config.maxDepth sql
  answering (env.bindProjection entries)

/-- The projection of a query, written again from its columns. -/
def regenerate (env : Environment) (sql : String) : Except Failure String := do
  return projectionText (← env.normalizeProjection sql)

/-- The environment with another nesting bound, if it is a valid one. -/
def withDepth (env : Environment) (depth : Nat) : Except Error Environment := do
  return { env with config := ← env.config.withDepth depth }

/-- The environment with a changed session. -/
def withSession (env : Environment) (change : Session → Session) : Environment :=
  { env with session := change env.session }

end Environment

/-- The first entry that a spelling can select. -/
def entryOfSpelling? (token : String) : Option CatalogEntry :=
  (idsForSpelling token).head?.bind lookup?

end SqlNormal
