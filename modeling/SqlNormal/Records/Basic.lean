import SqlNormal.Number.Digits
import SqlNormal.Text.Shown

/-!
# Records

A record file holds statements and queries with what is expected of them, and settings for those
that follow.

* `Setting`, `Record`: what a file holds;
* `RecordFault`, `RecordFault.message`: why a file cannot be read, and on which line;
* `Report`: how many records met their expectations.
-/

namespace SqlNormal

/-- What a record may set. -/
inductive Setting where
  | user
  | database
  | schema
  | depth
deriving DecidableEq

/-- A record. The columns of a query are expected in order, unless they are to be sorted first. -/
inductive Record where
  | statement (sql : String) (expectsError : Bool)
  | query (sql : String) (expected : List String) (sorted : Bool)
  | set (setting : Setting) (value : String)
  | halt
  | skip
deriving DecidableEq

/-- Why a record cannot be read. -/
inductive RecordCause where
  | expectation (word : Option String)
  | noSeparator
  | unknownSetting (word : Option String)
  | noValue
  | unknownDirective (word : String)
deriving DecidableEq

/-- A word that may be missing, as it is shown. -/
def shownWord (word : Option String) : String :=
  match word with
  | some w => "Some(" ++ Text.shown w ++ ")"
  | none => "None"

/-- The wording of a cause. -/
def RecordCause.message : RecordCause → String
  | expectation word => "expected 'ok' or 'error', got " ++ shownWord word
  | noSeparator => "query without a ---- separator"
  | unknownSetting word => "unknown setting " ++ shownWord word
  | noValue => "set without a value"
  | unknownDirective word => "unknown directive '" ++ word ++ "'"

/-- A record that cannot be read, and its line, counted from one. -/
structure RecordFault where
  line : Nat
  cause : RecordCause
deriving DecidableEq

/-- The wording of a fault. -/
def RecordFault.message (f : RecordFault) : String :=
  "Parse error at line " ++ String.ofList (Number.digits f.line) ++ ": " ++ f.cause.message

/-- How many records passed, failed and were skipped. -/
structure Report where
  passed : Nat := 0
  failed : Nat := 0
  skipped : Nat := 0
deriving DecidableEq

namespace Report

/-- All records that were counted. -/
def total (r : Report) : Nat :=
  r.passed + r.failed + r.skipped

/-- There are records, and all of them passed. -/
def allPassed (r : Report) : Bool :=
  0 < r.total && r.passed == r.total

/-- Two reports taken together. -/
def merge (a b : Report) : Report :=
  ⟨a.passed + b.passed, a.failed + b.failed, a.skipped + b.skipped⟩

end Report

end SqlNormal
