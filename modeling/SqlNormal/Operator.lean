/-!
# Operators

The operators of expressions, with their spelling, the place they take among their operands and how
tightly they bind.

* `Operator`, `Fixity`;
* `Operator.text`, `Operator.fixity`, `Operator.precedence`: spelling, place and binding strength;
* `Operator.isComparison`, `Operator.isPredicate`: the operators that do not chain, and those that
  yield a truth value.
-/

namespace SqlNormal

/-- An operator of expressions. -/
inductive Operator where
  | plus
  | minus
  | multiply
  | divide
  | modulo
  | concat
  | eq
  | notEq
  | lt
  | ltEq
  | gt
  | gtEq
  | like
  | notLike
  | and
  | or
  | not
  | negate
  | identity
  | isNull
  | isNotNull
deriving DecidableEq

/-- The place of an operator among its operands. -/
inductive Fixity where
  | before
  | between
  | after
deriving DecidableEq

namespace Operator

/-- The place of an operator among its operands. -/
def fixity : Operator → Fixity
  | not | negate | identity => .before
  | isNull | isNotNull => .after
  | _ => .between

/-- The spelling of an operator. -/
def text : Operator → String
  | plus | identity => "+"
  | minus | negate => "-"
  | multiply => "*"
  | divide => "/"
  | modulo => "%"
  | concat => "||"
  | eq => "="
  | notEq => "<>"
  | lt => "<"
  | ltEq => "<="
  | gt => ">"
  | gtEq => ">="
  | like => "LIKE"
  | notLike => "NOT LIKE"
  | and => "AND"
  | or => "OR"
  | not => "NOT"
  | isNull => "IS NULL"
  | isNotNull => "IS NOT NULL"

/-- How tightly an operator binds; the higher, the tighter. -/
def precedence : Operator → Nat
  | or => 5
  | and => 10
  | not => 15
  | isNull | isNotNull => 17
  | like | notLike => 19
  | eq | notEq | lt | ltEq | gt | gtEq => 20
  | concat => 25
  | plus | minus => 30
  | multiply | divide | modulo => 40
  | negate | identity => 50

/-- Comparisons do not chain without parentheses. -/
def isComparison (op : Operator) : Bool :=
  op.precedence == 19 || op.precedence == 20

/-- The operators that yield a truth value. -/
def isPredicate : Operator → Bool
  | eq | notEq | lt | ltEq | gt | gtEq | like | notLike => true
  | and | or | not | isNull | isNotNull => true
  | _ => false

end Operator

end SqlNormal
