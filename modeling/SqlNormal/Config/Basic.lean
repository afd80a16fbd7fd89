import SqlNormal.Error

/-!
# Configuration and session

* `Config`, `Config.validate`: the nesting bound and the separators of calls;
* `Config.withDepth`: another nesting bound, if it is a valid one;
* `Session`: the values that a client's session answers.
-/

namespace SqlNormal

/-- The nesting bound, the separator of positional arguments and that of keyword forms. -/
structure Config where
  maxDepth : Nat := 256
  separator : String := ", "
  keywordSeparator : String := " "
deriving DecidableEq

/-- A valid configuration admits some nesting and parts all arguments. -/
def Config.validate (c : Config) : Except Error Config :=
  if c.maxDepth = 0 then throw (.config .depthTooSmall)
  else if c.separator.isEmpty ∨ c.keywordSeparator.isEmpty then throw (.config .emptySeparator)
  else pure c

/-- The configuration with another nesting bound. -/
def Config.withDepth (c : Config) (depth : Nat) : Except Error Config :=
  { c with maxDepth := depth }.validate

/-- The values that a session may have. -/
structure Session where
  user : Option String := none
  database : Option String := none
  schema : Option String := none
deriving DecidableEq

end SqlNormal
