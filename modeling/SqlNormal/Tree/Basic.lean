import SqlNormal.Catalog.Function
import SqlNormal.Ident
import SqlNormal.Operator

/-!
# Parse trees

The tree of an expression as it was written: spellings, marks, parentheses and the keyword forms of
calls are kept.

* `Literal`, `CastTarget`, `TrimSpec`: parts of the tree;
* `Tree`, `Tree.production`: expressions, and the name of the form at the root;
* `SelectEntry`: an entry of a projection.
-/

namespace SqlNormal

/-- A literal as it was written. -/
inductive Literal where
  | number (text : String)
  | string (s : String)
  | boolean (b : Bool)
  | null
  | typed (typeName text : String)
  | interval (text : String)
deriving DecidableEq

/-- What a cast names. -/
inductive CastTarget where
  | null
  | named (typeName : String)
deriving DecidableEq

/-- The end that is trimmed. -/
inductive TrimSpec where
  | both
  | leading
  | trailing
deriving DecidableEq

/-- The keyword of an end. -/
def TrimSpec.text : TrimSpec → String
  | both => "BOTH"
  | leading => "LEADING"
  | trailing => "TRAILING"

/-- What a call is written with, its arguments apart. A call without parentheses is a bare word. -/
structure CallSpelling where
  keyword : String
  alternative : Option Nat
  quantifier : Option SetQuantifier
  parenthesized : Bool
deriving DecidableEq

/-- A call in parentheses with nothing but arguments. -/
def CallSpelling.plain (keyword : String) : CallSpelling :=
  ⟨keyword, none, none, true⟩

/-- The tree of an expression. -/
inductive Tree where
  | literal (l : Literal)
  | identifier (parts : List Ident)
  | nested (inner : Tree)
  | binary (left : Tree) (op : Operator) (right : Tree)
  | unary (op : Operator) (operand : Tree)
  | isNull (operand : Tree) (negated : Bool)
  | call (spelling : CallSpelling) (args : List Tree)
  | countStar (keyword : String)
  | case (operand : Option Tree) (branches : List (Tree × Tree)) (otherwise : Option Tree)
  | cast (operand : Tree) (target : CastTarget)
  | trim (spec : Option TrimSpec) (characters : Option Tree) (hasFrom : Bool) (source : Tree)
  | extract (fieldToken : String) (source : Tree)
  | substring (source : Tree) (start length : Option Tree) (keywordForm : Bool)
  | position (needle haystack : Tree)
  | overlay (source replacement start : Tree) (length : Option Tree)
  | convert (operand : Tree) (charset : Bool) (target : String) (style : Option Tree)

/-- The name of the form at the root. -/
def Tree.production : Tree → String
  | literal _ => "literal"
  | identifier _ => "identifier"
  | nested _ => "nested expression"
  | binary _ _ _ => "binary operator"
  | unary _ _ => "unary operator"
  | isNull _ _ => "IS NULL"
  | call _ _ => "function call"
  | countStar _ => "COUNT(*)"
  | case _ _ _ => "CASE"
  | cast _ _ => "CAST"
  | trim _ _ _ _ => "TRIM"
  | extract _ _ => "EXTRACT"
  | substring _ _ _ _ => "SUBSTRING"
  | position _ _ => "POSITION"
  | overlay _ _ _ _ => "OVERLAY"
  | convert _ _ _ _ => "CONVERT"

/-- An entry of a projection. -/
inductive SelectEntry where
  | wildcard
  | tableWildcard (parts : List Ident)
  | expr (tree : Tree) (name : Option Ident)

end SqlNormal
