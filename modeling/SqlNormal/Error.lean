import SqlNormal.Calendar.Reader
import SqlNormal.Catalog.Function
import SqlNormal.Operator
import SqlNormal.SqlType.Reader

/-!
# Errors

Every way in which a statement, a tree or a configuration is refused. An error names its cause; the
wording is in one place.

* `Mismatch`, `FormFault`, `InvariantFault`, `Unsupported`, `ConfigFault`: causes by kind;
* `Error`, `Error.message`;
* `Error.isProgramming`: the errors that show a skew between tree and catalog, not bad input;
* `Error.isRecoverable`: the one error that a caller may answer by itself;
* `Failure`: an error that is answered, or no answer at all.
-/

namespace SqlNormal

/-- A number in a message. -/
def numberText (n : Nat) : String :=
  String.ofList (Number.digits n)

/-- Why a call does not fit the catalog. -/
inductive Mismatch where
  | alternativeOutOfRange (index size : Nat)
  | notAlternative (family : String)
  | noForm (argc : Nat)
  | argumentCount (canonicalName : String) (arity : Arity) (argc : Nat)
  | starOutsideCount
  | quantifierOutsideAggregate
deriving DecidableEq

/-- The wording of a mismatch. -/
def Mismatch.message : Mismatch → String
  | alternativeOutOfRange index size =>
    "alternative " ++ numberText index ++ " out of range (family has " ++ numberText size ++ ")"
  | notAlternative family => "not an alternative of " ++ family
  | noForm argc => "no form takes " ++ numberText argc ++ " argument(s)"
  | argumentCount name arity argc =>
    name ++ " takes " ++ arity.describe ++ " argument(s), got " ++ numberText argc
  | starOutsideCount => "'*' argument is only valid for COUNT"
  | quantifierOutsideAggregate => "DISTINCT/ALL is only valid for aggregate functions"

/-- Why a form of the text is refused although it can be read. -/
inductive FormFault where
  | unknownFunction (token : String)
  | mismatch (cause : Mismatch)
  | caseWithoutBranch
  | trimSets
  | quantifierOnStar (quantifier : SetQuantifier)
  | starArgument (keyword : String)
deriving DecidableEq

/-- The wording of a form's fault. -/
def FormFault.message : FormFault → String
  | unknownFunction token => "unknown function " ++ token
  | mismatch cause => cause.message
  | caseWithoutBranch => "CASE requires at least one WHEN ... THEN branch"
  | trimSets => "TRIM takes at most one character set"
  | quantifierOnStar quantifier => quantifier.text ++ " cannot be applied to '*'"
  | starArgument keyword => "'*' is not a valid argument of " ++ keyword

/-- Why a parse tree is malformed. -/
inductive InvariantFault where
  | malformedNumeral (text : String)
  | emptyIdentifier
  | emptyTableName
  | notPredicate (op : Operator)
  | substringLength
  | trimWithoutFrom (spec : String)
  | fieldMarker (token : String)
  | fieldToken (token : String)
  | convertStyle
deriving DecidableEq

/-- The wording of a tree's fault. -/
def InvariantFault.message : InvariantFault → String
  | malformedNumeral text => "malformed numeric literal " ++ text
  | emptyIdentifier => "empty identifier"
  | emptyTableName => "empty table name before '.*'"
  | notPredicate op => "operator " ++ op.text ++ " does not yield a boolean"
  | substringLength => "SUBSTRING length argument without a start argument"
  | trimWithoutFrom spec => "TRIM " ++ spec ++ " with a character set but no FROM"
  | fieldMarker token => "EXTRACT field token '" ++ token ++ "' is missing its marker"
  | fieldToken token => "malformed EXTRACT field token '" ++ token ++ "'"
  | convertStyle => "CONVERT ... USING does not take a style argument"

/-- What can be read but has no normal form. Expressions and clauses are given by their text. -/
inductive Unsupported where
  | projectionBody
  | binaryOperator (op : String)
  | unaryOperator (op : String)
  | likeEscape
  | castKind (kind : String)
  | castFormat
  | tryConvert
  | convertBoth
  | intervalExpression (text : String)
  | roundingField (keyword field : String)
  | qualifiedFunction (name : String)
  | windowFunction (keyword : String)
  | filterClause (keyword : String)
  | subqueryArgument
  | argumentClauses (keyword : String)
  | argumentForm (argument keyword : String)
  | value (text : String)
  | expression (text : String)
  | comparison (op : Operator)
deriving DecidableEq

/-- The wording of what has no normal form. -/
def Unsupported.message : Unsupported → String
  | projectionBody => "Projection of set operations and VALUES"
  | binaryOperator op => "Binary operator " ++ op
  | unaryOperator op => "Unary operator " ++ op
  | likeEscape => "LIKE with an ESCAPE clause"
  | castKind kind => kind ++ " expression"
  | castFormat => "CAST with a FORMAT clause"
  | tryConvert => "TRY_CONVERT"
  | convertBoth => "CONVERT with both a type and a character set"
  | intervalExpression text => "Interval expression " ++ text
  | roundingField keyword field => keyword ++ " to " ++ field
  | qualifiedFunction name => "Qualified function name " ++ name
  | windowFunction keyword => "Window function " ++ keyword
  | filterClause keyword => "FILTER clause on " ++ keyword
  | subqueryArgument => "Subquery in function"
  | argumentClauses keyword => "Argument clauses on " ++ keyword
  | argumentForm argument keyword => "Argument form " ++ argument ++ " in " ++ keyword
  | value text => "Value type: " ++ text
  | expression text => "Expression type: " ++ text
  | comparison op => "comparison " ++ op.text

/-- Why a configuration is refused. -/
inductive ConfigFault where
  | malformed
  | depthTooSmall
  | emptySeparator
  | depthVariable (name raw : String)
  | depthArgument (raw : String)
deriving DecidableEq

/-- The wording of a configuration's fault. -/
def ConfigFault.message : ConfigFault → String
  | malformed => "malformed JSON"
  | depthTooSmall => "max_nesting_depth must be at least 1"
  | emptySeparator => "argument separators must not be empty"
  | depthVariable name raw => name ++ " must be a positive integer, got '" ++ raw ++ "'"
  | depthArgument raw => "depth must be a positive integer, got '" ++ raw ++ "'"

/-- Why a type or a literal of a type is refused. -/
inductive TypeError where
  | unreadable (fault : TypeFault)
  | literal (typeName text : String) (fault : TemporalFault)
  | noType (name : String)
deriving DecidableEq

/-- The wording of a type error. -/
def TypeError.message : TypeError → String
  | unreadable fault => fault.message
  | literal typeName text fault =>
    "invalid " ++ typeName ++ " literal '" ++ text ++ "': " ++ fault.message
  | noType name => "no type " ++ name

/-- Why a text is not one statement or expression of the language. -/
inductive ReadFault where
  | unreadable
  | statementCount (n : Nat)
  | notSelect (statement : String)
  | trailing (token : String)
  | numeralOutOfRange (numeral : String)
deriving DecidableEq

/-- The wording of a reading fault. -/
def ReadFault.message : ReadFault → String
  | unreadable => "sql parser error"
  | statementCount n => "Expected 1 statement, got " ++ numberText n
  | notSelect statement => "Expected a SELECT statement, got: " ++ statement
  | trailing token => "Unexpected trailing input: " ++ token
  | numeralOutOfRange numeral => "numeric literal " ++ numeral ++ " is out of range"

/-- Why an invariant of the program itself is broken. -/
inductive InternalFault where
  | unassigned (spelling : String) (id : FunctionId)
  | noSessionValue (id : FunctionId)
  | aliasScope
deriving DecidableEq

/-- The wording of an internal fault. -/
def InternalFault.message : InternalFault → String
  | unassigned spelling id => "keyword " ++ spelling ++ " bound to unassigned id " ++ id.shown
  | noSessionValue id => "session function " ++ id.shown ++ " has no session value"
  | aliasScope => "alias scope unavailable"

/-- An error. -/
inductive Error where
  | read (fault : ReadFault)
  | form (position : Nat) (fault : FormFault)
  | unknownFunction (token : String)
  | mismatch (construct : String) (cause : Mismatch)
  | invariant (fault : InvariantFault)
  | tooDeep (depth max : Nat)
  | type (fault : TypeError)
  | aliasNotFound (name : String)
  | aliasFailed (expression : String) (cause : Error)
  | aliasCount (expression : String) (given wanted : Nat)
  | config (fault : ConfigFault)
  | unsupported (what : Unsupported)
  | internal (fault : InternalFault)
deriving DecidableEq

namespace Error

/-- The beginning of the message about an expression that cannot be projected. -/
def aliasMessage (expression cause : String) : String :=
  "Cannot build query expression '" ++ expression ++ "': " ++ cause

/-- The wording of an error. -/
def message : Error → String
  | read fault => "Parse error: " ++ fault.message
  | form position fault =>
    "Syntax error at position " ++ numberText position ++ ": " ++ fault.message
  | unknownFunction token => "Unknown function: " ++ token
  | mismatch construct cause => "Catalog mismatch for " ++ construct ++ ": " ++ cause.message
  | invariant fault => "Invariant violation: " ++ fault.message
  | tooDeep depth max =>
    "Expression nesting depth " ++ numberText depth ++ " exceeds the maximum of " ++ numberText max
  | type fault => "Type resolution failed: " ++ fault.message
  | aliasNotFound name => "Alias not found: " ++ name
  | aliasFailed expression cause => aliasMessage expression cause.message
  | aliasCount expression given wanted =>
    aliasMessage expression
      (numberText given ++ " column aliases given for " ++ numberText wanted ++
        " projection columns")
  | config fault => "Invalid configuration: " ++ fault.message
  | unsupported what => "Not implemented: " ++ what.message
  | internal fault => "Internal error: " ++ fault.message

/-- The error shows that a tree does not fit the catalog; the input is not to blame. -/
def isProgramming : Error → Bool
  | unknownFunction _ | mismatch _ _ | invariant _ | internal _ => true
  | _ => false

/-- A caller may answer the error by itself. -/
def isRecoverable : Error → Bool
  | aliasNotFound _ => true
  | _ => false

end Error

/-- How a computation ends that gives nothing: it is answered with an error, or a number of it does
not fit into a word, and the program stops. -/
inductive Failure where
  | answered (e : Error)
  | overflow
deriving DecidableEq

/-- What ends in an error is answered with it. -/
def answering (x : Except Error α) : Except Failure α :=
  x.mapError .answered

/-- The answer of a computation, unless the program stops. -/
def answer? : Except Failure α → Option (Except Error α)
  | .ok a => some (.ok a)
  | .error (.answered e) => some (.error e)
  | .error .overflow => none

end SqlNormal
