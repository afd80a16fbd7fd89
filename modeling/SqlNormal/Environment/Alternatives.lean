import SqlNormal.Environment.Basic

/-!
# Other decisions

Collaborators for programs with needs of their own: names in upper case or as they are, types passed
through or refused, predicates of another shape, names and tables that are looked up in vain.

* `Folding`, `TypePolicy`, `PredicatePolicy`, `NamePolicy`, `TablePolicy`: the choices for each of
  the decisions;
* `Policy`, `Policy.collaborators`: a choice for some of them; the others stay the standard ones.
-/

namespace SqlNormal

/-- How names fold. -/
inductive Folding where
  | upper
  | keep
deriving DecidableEq

/-- The name that an identifier denotes. -/
def Folding.fold : Folding → Ident → String
  | upper, i => Text.upper i.value
  | keep, i => i.value

/-- What becomes of the types that a cast names. -/
inductive TypePolicy where
  | custom
  | reject
deriving DecidableEq

/-- The type that a cast names. -/
def TypePolicy.resolve : TypePolicy → CastTarget → Except Error SqlType
  | _, .null => pure .text
  | custom, .named name => pure (.custom ("<" ++ name ++ ">"))
  | reject, .named name => throw (.type (.noType name))

/-- How predicates are built. -/
inductive PredicatePolicy where
  | depth
  | noLike
  | swap
deriving DecidableEq

/-- A condition: for `depth` only a keyword that tells the level of its CASE. -/
def PredicatePolicy.condition (p : PredicatePolicy) (depth : Nat) (_condition : Tree)
    (lowered : Except Error Node) : Except Error Node :=
  match p with
  | .depth => pure (.keyword ("D" ++ numberText depth))
  | _ => lowered

/-- A comparison: `noLike` refuses patterns, `swap` exchanges the operands. -/
def PredicatePolicy.comparison (p : PredicatePolicy) (op : Operator) (left right : Node) :
    Except Error Node :=
  match p with
  | .noLike =>
    if op = .like ∨ op = .notLike then throw (.unsupported (.comparison op))
    else Collaborators.predicate op left right
  | .swap => Collaborators.predicate op right left
  | .depth => Collaborators.predicate op left right

/-- How the names of columns are looked up. -/
inductive NamePolicy where
  | strict
  | broken
  | raw
deriving DecidableEq

/-- The name of a column. -/
def NamePolicy.resolve (p : NamePolicy) (name : Option Ident) (n : Node) :
    Except Error (Option String) :=
  match p with
  | strict => throw (.aliasNotFound ((name.map (·.value)).getD ""))
  | broken => throw (.internal .aliasScope)
  | raw => if name.isNone then pure (some n.rawText) else Collaborators.writtenName name

/-- How tables are looked up. -/
inductive TablePolicy where
  | inDatabase
  | missing
deriving DecidableEq

/-- The path of a table. -/
def TablePolicy.resolve (p : TablePolicy) (parts : List Ident) : Except Error (List String) :=
  match p with
  | inDatabase => pure ("db" :: parts.map Ident.written)
  | missing => throw (.aliasNotFound (numberText parts.length ++ " part(s)"))

/-- A choice for some of the decisions. -/
structure Policy where
  folding : Option Folding := none
  types : Option TypePolicy := none
  predicates : Option PredicatePolicy := none
  names : Option NamePolicy := none
  tables : Option TablePolicy := none

/-- The collaborators of a choice. -/
def Policy.collaborators (p : Policy) : Collaborators :=
  let s := Collaborators.standard
  { foldCase := p.folding.elim s.foldCase Folding.fold
    resolveType := p.types.elim s.resolveType TypePolicy.resolve
    condition := p.predicates.elim s.condition PredicatePolicy.condition
    comparison := p.predicates.elim s.comparison PredicatePolicy.comparison
    resolveName := p.names.elim s.resolveName NamePolicy.resolve
    resolveTable := p.tables.elim s.resolveTable TablePolicy.resolve }

end SqlNormal
