import SqlNormal.Sql.Lexer
import SqlNormal.Sql.Reader.Statement

/-!
# Reading a text

A text is taken apart into tokens and then read. A budget bounds how deep expressions, queries and
statements may lie inside each other.

* `rules`: the readers of what lies inside, on a budget;
* `readExpr`: an expression and what is left behind it;
* `readStatements`: all statements of a text.
-/

namespace SqlNormal.Sql

open Reader

/-- Every expression, query and statement takes one from the budget for what lies inside it. -/
def rules : Nat → Rules
  | 0 =>
    { expr := fun _ _ => .error .tooDeep
      query := fun _ => .error .tooDeep
      statement := fun _ => .error .tooDeep }
  | budget + 1 =>
    { expr := fun level tokens =>
        exprOf (rules budget) (fun inner => textOf (bodyOf (rules budget)) inner) level tokens
      query := fun tokens => queryOf (rules budget) tokens
      statement := fun tokens => statementOf (rules budget) tokens }
where
  /-- A query as it is shown. -/
  textOf (query : Reader Query) : Reader String := do
    return (← query).text

/-- Statements with semicolons between; every statement takes a token. The word `END` behind a
statement ends them. -/
def statementsFrom (r : Rules) (begun : Bool) : Nat → Reader (List Statement)
  | 0 => refuse
  | fuel + 1 => do
    if ← symbol? ";" then statementsFrom r false fuel
    else
      match ← peek with
      | none => return []
      | some _ =>
        if begun then
          if ← peekKeyword "END" then return [] else refuse
        else
          let s ← r.statement
          return s :: (← statementsFrom r true fuel)

/-- Reads the tokens of a text. -/
def readText (reader : Reader α) (source : String) : Except Refusal (α × List Lexeme) :=
  match tokenize? source with
  | some tokens => reader tokens
  | none => .error .unreadable

/-- An expression at the beginning of a text, and the tokens that are left. -/
def readExpr (budget : Nat) (source : String) : Except Refusal (Expr × List Lexeme) :=
  readText (rules budget).whole source

/-- The statements of a text. -/
def readStatements (budget : Nat) (source : String) : Except Refusal (List Statement) :=
  (readText (fun tokens => statementsFrom (rules budget) false (2 * tokens.length + 1) tokens)
    source).map (·.1)

end SqlNormal.Sql
