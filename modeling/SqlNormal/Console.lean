import SqlNormal.Config.Reader
import SqlNormal.Node.Json
import SqlNormal.Normalize
import SqlNormal.Text.Blank

/-!
# The console

A dialogue over lines. A statement goes on over several lines up to a semicolon; a command begins
with a point and ends with its line. What is written is a list of outputs; the time that an answer
took is left to whoever writes them.

* `Output`, `Output.text`: what is written, and where to;
* `Console`, `Console.start`: what is remembered between lines;
* `Console.step`: the answer to a line;
* `Console.dialogue`: the outputs for all lines of an input.
-/

namespace SqlNormal

/-- What is written. A prompt stays in front of what follows it, and nothing follows a crash. -/
inductive Output where
  | line (text : String)
  | prompt (text : String)
  | fault (text : String)
  | elapsed
  | crash
deriving DecidableEq

namespace Output

/-- The output goes to the stream of errors. -/
def isFault : Output → Bool
  | fault _ | crash => true
  | _ => false

/-- The characters of an output; `time` is what the answer took. -/
def text (time : String) : Output → String
  | line s | fault s => s ++ "\n"
  | prompt s => s
  | elapsed => "normalized in " ++ time ++ "\n"
  | crash => ""

end Output

/-- What is remembered between lines. -/
structure Console where
  env : Environment := {}
  showsTree : Bool := false
  buffer : String := ""

/-- The answer to a line; without a console the dialogue is over. -/
structure Reply where
  output : List Output
  next : Option Console

namespace Console

/-- A dialogue under the configuration of an environment variable. -/
def start (depth : Option String) : Except Error Console := do
  let config ← Config.ofVariable depth
  return { env := { config := config } }

/-- What stands in front of a line: whether a statement begins or goes on. -/
def prompt (c : Console) : Output :=
  .prompt (if c.buffer.isEmpty then "fedsql> " else "     -> ")

/-- What begins a dialogue. -/
def greeting : List Output :=
  ["fedsql v0.1.0", "SQL function and expression normalization",
   "Type .help for help, .quit to exit", ""].map .line

/-- What ends a dialogue. -/
def farewell : List Output :=
  [.line "Goodbye!"]

/-- An error. -/
def failure (e : Error) : Output :=
  .fault ("Error: " ++ e.message)

/-! ## Statements -/

/-- The normal form of a query, as it is shown. -/
def projectionLines (c : Console) (sql : String) : Except Failure (List String) := do
  let columns ← c.env.normalizeProjection sql
  let tree := if c.showsTree then [(Json.array (columns.map (·.toJson .ofDouble))).pretty] else []
  return columnTable columns :: ("SELECT " ++ projectionText columns) :: tree

/-- The normal form of an expression, as it is shown. -/
def expressionLines (c : Console) (sql : String) : Except Failure (List String) := do
  let n ← c.env.normalizeExpression sql
  return n.toSql :: (if c.showsTree then [(n.toJson .ofDouble).pretty] else [])

/-- The first word is that of a query. -/
def isQuery (sql : String) : Bool :=
  (Text.words sql).head?.any fun word => Text.sameWord word "SELECT"

/-- The answer to a statement. -/
def answer (c : Console) (sql : String) : Option (List Output) :=
  (answer? (if isQuery sql then c.projectionLines sql else c.expressionLines sql)).map fun
    | .ok lines => lines.map .line ++ [.elapsed, .line ""]
    | .error e => [failure e, .fault ""]

/-! ## Commands -/

/-- The commands. -/
def help : List String :=
  ["Available commands:",
   "  .help              Show this help message",
   "  .quit              Exit the CLI",
   "  .tree on|off       Print the expression tree as JSON",
   "  .user <name>       Set the session user",
   "  .database <name>   Set the session database",
   "  .schema <name>     Set the session schema",
   "  .depth <n>         Set the maximum expression nesting depth",
   "  .function <name>   Show the catalog entry for a function",
   "  .session           Show the session values",
   ""]

/-- The lines are written, and the dialogue goes on as it was. -/
def say (c : Console) (lines : List String) : Reply :=
  ⟨lines.map .line, some c⟩

/-- The session has a value more, if one is given. -/
def changeSession (c : Console) (command : String) (argument : Option String)
    (change : String → Session → Session) : Reply :=
  match argument with
  | some value => ⟨[], some { c with env := c.env.withSession (change value) }⟩
  | none => c.say ["Usage: " ++ command ++ " <name>"]

/-- The values of a session. -/
def sessionLines (s : Session) : List String :=
  ["  user:     " ++ s.user.getD "(unset)", "  database: " ++ s.database.getD "(unset)",
   "  schema:   " ++ s.schema.getD "(unset)", ""]

/-- Changes the nesting bound. -/
def changeDepth (c : Console) (argument : Option String) : Reply :=
  match argument.bind (Number.naturalBelow? (Nat.pow 2 64)) with
  | some depth =>
    match c.env.withDepth depth with
    | .ok env => ⟨[], some { c with env := env }⟩
    | .error e => ⟨[failure e], some c⟩
  | none => c.say ["Usage: .depth <n> (currently " ++ numberText c.env.config.maxDepth ++ ")"]

/-- An entry of the catalog. -/
def entryLines (e : CatalogEntry) : List String :=
  ["  " ++ e.id.shown ++ " " ++ e.canonicalName, "  class: " ++ e.functionClass.name,
   "  arguments: " ++ e.arity.describe, ""]

/-- Shows an entry of the catalog. -/
def showEntry (c : Console) (argument : Option String) : Reply :=
  match argument.bind entryOfSpelling? with
  | some e => c.say (entryLines e)
  | none => ⟨[.fault "Unknown function. Usage: .function <name>"], some c⟩

/-- The answer to a command. -/
def obey (c : Console) (command : String) (argument : Option String) : Reply :=
  match command with
  | ".quit" | ".exit" | ".q" => ⟨[], none⟩
  | ".help" | ".h" => c.say help
  | ".tree" =>
    match argument with
    | some "on" => ⟨[], some { c with showsTree := true }⟩
    | some "off" => ⟨[], some { c with showsTree := false }⟩
    | _ => c.say ["Usage: .tree on|off"]
  | ".user" => c.changeSession command argument fun v s => { s with user := some v }
  | ".database" => c.changeSession command argument fun v s => { s with database := some v }
  | ".schema" => c.changeSession command argument fun v s => { s with schema := some v }
  | ".session" => c.say (sessionLines c.env.session)
  | ".depth" => c.changeDepth argument
  | ".function" | ".f" => c.showEntry argument
  | _ =>
    ⟨[.fault ("Unknown command: " ++ command), .fault "Type .help for available commands."], some c⟩

/-! ## Lines -/

/-- A statement without the semicolons behind it. -/
def statementText (input : List Char) : String :=
  String.ofList (Text.trim (input.reverse.dropWhile (· = ';')).reverse)

/-- The answer to a line, unless the program stops over it. A line that ends neither a statement nor
a command is kept. -/
def step (c : Console) (line : String) : Option Reply :=
  let whole := c.buffer.toList ++ Text.trimEnd line.toList
  let input := Text.trim whole
  let rested := { c with buffer := "" }
  if input.head? = some '.' then
    match Text.words (String.ofList input) with
    | command :: arguments => some (rested.obey command arguments.head?)
    | [] => some ⟨[], some rested⟩
  else if input.getLast? = some ';' then
    (rested.answer (statementText input)).map fun output => ⟨output, some rested⟩
  else some ⟨[], some { c with buffer := String.ofList (whole ++ [' ']) }⟩

/-- The outputs for lines, up to the end of the dialogue. -/
def outputs (c : Console) : List String → List Output
  | [] => c.prompt :: farewell
  | line :: lines =>
    match c.step line with
    | some ⟨output, some next⟩ => c.prompt :: output ++ next.outputs lines
    | some ⟨output, none⟩ => c.prompt :: output ++ farewell
    | none => [c.prompt, .crash]

/-- The outputs for an input, and whether the dialogue could begin at all. -/
def dialogue (depth : Option String) (input : String) : List Output × Bool :=
  match start depth with
  | .ok c => (greeting ++ c.outputs (Text.lines input), true)
  | .error e => ([failure e], false)

end Console

end SqlNormal
