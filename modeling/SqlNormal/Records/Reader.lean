import SqlNormal.Records.Basic
import SqlNormal.Text.Blank

/-!
# Reading records

A record begins with a line that says what it is. Its text goes on to a blank line; the text of a
query goes on to a line of four hyphens, and its expected columns from there to a blank line. Blank
lines and lines that begin with a number sign stand between records.

* `Record.readAll`: the records of a file.
-/

namespace SqlNormal.Record

/-- Lines with their numbers. -/
abbrev Lines := List (Nat × String)

/-- The lines up to a blank one, and the lines from there on. -/
def block (lines : Lines) : List String × Lines :=
  ((lines.takeWhile fun l => !Text.isBlankLine l.2).map (·.2),
    lines.dropWhile fun l => !Text.isBlankLine l.2)

/-- The line between a query and its columns. -/
def isSeparator (line : String) : Bool :=
  Text.trimmed line == "----"

/-- The lines of a query that are not blank, and the lines behind its separator. -/
def untilSeparator? (lines : Lines) : Option (List String × Lines) :=
  match lines.dropWhile fun l => !isSeparator l.2 with
  | [] => none
  | _ :: rest =>
    let query := (lines.takeWhile fun l => !isSeparator l.2).map (·.2)
    some (query.filter (!Text.isBlankLine ·), rest)

/-- What a record's text is, over several lines. -/
def joinLines (lines : List String) : String :=
  "\n".intercalate lines

/-- Whether a word expects an error. -/
def expectsError? (word : Option String) : Except RecordCause Bool :=
  match word with
  | some "ok" => pure false
  | some "error" => pure true
  | _ => throw (.expectation word)

/-- The setting that a word names. -/
def setting? (word : Option String) : Except RecordCause Setting :=
  match word with
  | some "user" => pure .user
  | some "database" => pure .database
  | some "schema" => pure .schema
  | some "depth" => pure .depth
  | _ => throw (.unknownSetting word)

/-- Reads a record whose first line begins with `directive` and goes on with `words`. The answer
holds the record, if there is one, and the lines behind it. -/
def readOne (directive : String) (words : List String) (rest : Lines) :
    Except RecordCause (Option Record × Lines) :=
  match directive with
  | "statement" => do
    let error ← expectsError? words.head?
    let (sql, rest) := block rest
    return (if sql.isEmpty then none else some (.statement (joinLines sql) error), rest)
  | "query" => do
    let sorted := words.head? == some "rowsort"
    match untilSeparator? rest with
    | none => throw .noSeparator
    | some (sql, rest) =>
      let (expected, rest) := block rest
      return (some (.query (joinLines sql) (expected.map Text.trimmed) sorted), rest)
  | "set" => do
    let setting ← setting? words.head?
    let value := " ".intercalate (words.drop 1)
    if value.isEmpty then throw .noValue
    return (some (.set setting value), rest)
  | "halt" => return (some .halt, [])
  | "skipif" | "onlyif" => return (some .skip, (block rest).2)
  | _ => throw (.unknownDirective directive)

/-- The records of some lines; every record takes a line. -/
def readLines : Nat → Lines → Except RecordFault (List Record)
  | _, [] | 0, _ => return []
  | fuel + 1, (number, line) :: rest =>
    match Text.words line with
    | [] => readLines fuel rest
    | directive :: words =>
      if directive.startsWith "#" then readLines fuel rest
      else
        match readOne directive words rest with
        | .error cause => throw ⟨number, cause⟩
        | .ok (record, rest) => do
          return record.toList ++ (← readLines fuel rest)

/-- The records of a file, as far as a record that ends it. -/
def readAll (content : String) : Except RecordFault (List Record) :=
  let lines := Text.lines content
  readLines lines.length ((List.range' 1 lines.length).zip lines)

end SqlNormal.Record
