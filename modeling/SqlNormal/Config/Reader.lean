import SqlNormal.Config.Basic
import SqlNormal.Json.Scan
import SqlNormal.Text.Blank

/-!
# Reading configurations

A configuration is read from JSON, as an object or as an array of its fields, or takes its nesting
bound from the environment. What is missing keeps its default; what was read has to be valid.

* `ConfigFields`: the fields that a text gives;
* `Config.ofJson`: an object may have fields of other names, but none of its own twice; an array has
  the fields in order and may stop early;
* `Config.ofVariable`: the nesting bound as the text of an environment variable.
-/

namespace SqlNormal

/-- The fields that a text gives. -/
structure ConfigFields where
  maxDepth : Option Nat := none
  separator : Option String := none
  keywordSeparator : Option String := none

namespace ConfigFields

/-- The configuration with the fields that were given. -/
def toConfig (f : ConfigFields) : Config :=
  let standard : Config := {}
  ⟨f.maxDepth.getD standard.maxDepth, f.separator.getD standard.separator,
    f.keywordSeparator.getD standard.keywordSeparator⟩

/-- A depth: a number without sign, fraction and exponent, of at most 64 bits. -/
def depth? (cs : List Char) : Option (Nat × List Char) := do
  let (lexeme, rest) ← Json.numeral? (Json.skipBlanks cs)
  let n ← Number.unsigned? lexeme
  if n < Nat.pow 2 64 then some (n, rest) else none

/-- Reads the depth, which was not given before. -/
def readDepth? (f : ConfigFields) (cs : List Char) : Option (ConfigFields × List Char) :=
  if f.maxDepth.isSome then none
  else (depth? cs).map fun r => ({ f with maxDepth := some r.1 }, r.2)

/-- Reads the separator, which was not given before. -/
def readSeparator? (f : ConfigFields) (cs : List Char) : Option (ConfigFields × List Char) :=
  if f.separator.isSome then none
  else (Json.string? cs).map fun r => ({ f with separator := some r.1 }, r.2)

/-- Reads the separator of keyword forms, which was not given before. -/
def readKeywordSeparator? (f : ConfigFields) (cs : List Char) :
    Option (ConfigFields × List Char) :=
  if f.keywordSeparator.isSome then none
  else (Json.string? cs).map fun r => ({ f with keywordSeparator := some r.1 }, r.2)

/-- Reads the value of a field. -/
def readField? (f : ConfigFields) (name : String) (cs : List Char) :
    Option (ConfigFields × List Char) :=
  if name = "max_nesting_depth" then f.readDepth? cs
  else if name = "default_separator" then f.readSeparator? cs
  else if name = "keyword_separator" then f.readKeywordSeparator? cs
  else (Json.skipValue? cs).map fun rest => (f, rest)

/-- Reads the fields of an object, each of which takes a character at least. -/
def readMembers? : Nat → ConfigFields → List Char → Option (ConfigFields × List Char)
  | 0, _, _ => none
  | fuel + 1, f, cs => do
    let (name, cs) ← Json.string? cs
    let (f, cs) ← f.readField? name (← Json.expect? ':' cs)
    match Json.expect? ',' cs with
    | some rest => readMembers? fuel f rest
    | none => (Json.expect? '\x7d' cs).map fun rest => (f, rest)

/-- Reads the items of an array by the readers of the fields that are left. -/
def readItems? :
    List (ConfigFields → List Char → Option (ConfigFields × List Char)) → ConfigFields →
      List Char → Option (ConfigFields × List Char)
  | [], f, cs => (Json.expect? ']' cs).map fun rest => (f, rest)
  | [read], f, cs => do
    let (f, cs) ← read f cs
    (Json.expect? ']' cs).map fun rest => (f, rest)
  | read :: next :: reads, f, cs => do
    let (f, cs) ← read f cs
    match Json.expect? ',' cs with
    | some rest => readItems? (next :: reads) f rest
    | none => (Json.expect? ']' cs).map fun rest => (f, rest)

/-- Reads an object or an array. -/
def read? (cs : List Char) : Option (ConfigFields × List Char) :=
  match Json.skipBlanks cs with
  | '\x7b' :: rest =>
    match Json.expect? '\x7d' rest with
    | some behind => some ({}, behind)
    | none => readMembers? rest.length {} rest
  | '[' :: rest =>
    match Json.expect? ']' rest with
    | some behind => some ({}, behind)
    | none => readItems? [readDepth?, readSeparator?, readKeywordSeparator?] {} rest
  | _ => none

end ConfigFields

namespace Config

/-- Reads a configuration from JSON. -/
def ofJson (text : String) : Except Error Config :=
  match ConfigFields.read? text.toList with
  | some (fields, rest) =>
    if (Json.skipBlanks rest).isEmpty then fields.toConfig.validate
    else throw (.config .malformed)
  | none => throw (.config .malformed)

/-- The environment variable that holds the nesting bound. -/
def depthVariable : String := "FEDSQL_MAX_NESTING_DEPTH"

/-- The configuration of an environment: the variable's value is the nesting bound. -/
def ofVariable (value : Option String) : Except Error Config :=
  match value with
  | none => ({} : Config).validate
  | some raw =>
    match Number.naturalBelow? (Nat.pow 2 64) (Text.trimmed raw) with
    | some depth => ({} : Config).withDepth depth
    | none => throw (.config (.depthVariable depthVariable raw))

end Config

end SqlNormal
