import SqlNormal.Normalize
import SqlNormal.Records.Reader

/-!
# Running records

Checks records one after the other. What a record sets holds for those behind it, also for those of
later files. Where the program stops over the text of a record, there is no report.

* `Environment.apply`: a setting;
* `Environment.meetsStatement`, `Environment.meetsQuery`: what is expected of a record;
* `Environment.runRecord`: the report on one record;
* `Environment.runRecords`, `Environment.runFile`: the report on records, and the environment that
  they leave behind.
-/

namespace SqlNormal.Environment

/-- The environment with a setting. -/
def apply (env : Environment) (setting : Setting) (value : String) : Except Error Environment :=
  match setting with
  | .user => pure (env.withSession ({ · with user := some value }))
  | .database => pure (env.withSession ({ · with database := some value }))
  | .schema => pure (env.withSession ({ · with schema := some value }))
  | .depth =>
    match Number.naturalBelow? (Nat.pow 2 64) value with
    | some depth => env.withDepth depth
    | none => throw (.config (.depthArgument value))

/-- Texts in their order. -/
def sortTexts (texts : List String) : List String :=
  texts.mergeSort fun a b => decide (a ≤ b)

/-- A statement fails if and only if it is expected to. -/
def meetsStatement (env : Environment) (sql : String) (expectsError : Bool) : Option Bool :=
  (answer? (env.normalizeProjection sql)).map fun
    | .ok _ => !expectsError
    | .error _ => expectsError

/-- The columns of a query are those that are expected. -/
def meetsQuery (env : Environment) (sql : String) (expected : List String) (sorted : Bool) :
    Option Bool :=
  (answer? (env.normalizeProjection sql)).map fun
    | .ok columns =>
      let actual := columns.map Node.projectionItem
      if sorted then sortTexts actual == sortTexts expected else actual == expected
    | .error _ => false

/-- A report on one record. -/
def verdict (passes : Bool) : Report :=
  if passes then { passed := 1 } else { failed := 1 }

/-- The report on one record, and the environment that it leaves behind. A setting that fails
changes nothing. -/
def runRecord (env : Environment) : Record → Option (Environment × Report)
  | .statement sql expectsError =>
    (env.meetsStatement sql expectsError).map fun passes => (env, verdict passes)
  | .query sql expected sorted =>
    (env.meetsQuery sql expected sorted).map fun passes => (env, verdict passes)
  | .set setting value =>
    match env.apply setting value with
    | .ok changed => some (changed, verdict true)
    | .error _ => some (env, verdict false)
  | .skip => some (env, { skipped := 1 })
  | .halt => some (env, {})

/-- The report on records up to one that ends them, and the environment that they leave behind. -/
def runRecords (env : Environment) : List Record → Option (Environment × Report)
  | [] | .halt :: _ => some (env, {})
  | record :: rest => do
    let (next, report) ← env.runRecord record
    let (last, others) ← next.runRecords rest
    return (last, report.merge others)

/-- The report on a file, and the environment that it leaves behind. -/
def runFile (env : Environment) (content : String) :
    Option (Environment × Except RecordFault Report) :=
  match Record.readAll content with
  | .ok records => (env.runRecords records).map fun run => (run.1, .ok run.2)
  | .error fault => some (env, .error fault)

end SqlNormal.Environment
