import SqlNormal.Catalog.Binding
import SqlNormal.Error

/-!
# Resolving calls

A call selects its entry by its spelling and its shape. Spellings are compared in upper case. The
argument count has to fit the entry, and only an aggregate takes a quantifier.

* `CallShape`: the facts about a call that the selection depends on;
* `Binding.select`: what the rule of a spelling selects;
* `resolve`: the entry of a call.
-/

namespace SqlNormal

/-- The shape of a call. Keywords among the arguments are not counted. -/
structure CallShape where
  argc : Nat := 0
  alternative : Option Nat := none
  quantifier : Option SetQuantifier := none
  star : Bool := false
  optionalClause : Bool := false
deriving DecidableEq

/-- The shape of a call of a star. -/
def CallShape.ofStar : CallShape := { star := true }

/-- The shape of a call of `argc` arguments. -/
def CallShape.ofCount (argc : Nat) : CallShape := { argc := argc }

/-- The member of a group at a place. -/
def Family.select (f : Family) (index : Nat) : Except Error FunctionId :=
  match f.alternatives[index]? with
  | some a => pure a.2
  | none => throw (.mismatch f.name (.alternativeOutOfRange index f.alternatives.length))

/-- The function that a rule selects for a call. -/
def Binding.select (b : Binding) (spelling : String) (shape : CallShape) :
    Except Error FunctionId :=
  match b, shape.star with
  | byStar star _, true => pure star
  | byStar _ expr, false => pure expr
  | _, true => throw (.mismatch spelling .starOutsideCount)
  | fixed id, false => pure id
  | byArity choices, false =>
    match choices.lookup shape.argc with
    | some id => pure id
    | none => throw (.mismatch spelling (.noForm shape.argc))
  | byAlternative family, false =>
    match shape.alternative.or (family.alternativeOf? spelling) with
    | some index => family.select index
    | none => throw (.mismatch spelling (.notAlternative family.name))
  | byOptionalArg required present absent, false =>
    pure (if shape.optionalClause ∨ required < shape.argc then present else absent)

/-- The entry fits the shape of the call. -/
def CatalogEntry.admit (e : CatalogEntry) (spelling : String) (shape : CallShape) :
    Except Error CatalogEntry :=
  if e.arity.accepts shape.argc = false then
    throw (.mismatch spelling (.argumentCount e.canonicalName e.arity shape.argc))
  else if shape.quantifier.isSome ∧ e.isAggregate = false then
    throw (.mismatch spelling .quantifierOutsideAggregate)
  else pure e

/-- The entry of a call. -/
def resolve (token : String) (shape : CallShape) : Except Error CatalogEntry :=
  let spelling := Text.upper token
  match bindingOfUpper? spelling with
  | none => throw (.unknownFunction token)
  | some binding => do
    let id ← binding.select spelling shape
    match lookup? id with
    | none => throw (.internal (.unassigned spelling id))
    | some entry => entry.admit spelling shape

end SqlNormal
