import SqlNormal.Number.Digits

/-!
# Catalog functions

What the catalog records about one function: a number that stays the same for good, a canonical
name, a class and the argument counts it takes.

* `FunctionId`, `FunctionClass`, `Arity`, `CatalogEntry`;
* `Arity.accepts`, `Arity.describe`: whether a count fits, and the accepted counts in words;
* `SetQuantifier`: `DISTINCT` or `ALL` in front of the arguments of an aggregate.
-/

namespace SqlNormal

/-- The number of a function. -/
structure FunctionId where
  val : Nat
deriving DecidableEq

/-- A number as it is shown. -/
def FunctionId.shown (id : FunctionId) : String :=
  "#" ++ String.ofList (Number.digits id.val)

/-- What a function is applied to. -/
inductive FunctionClass where
  | scalar
  | aggregate
  | niladic
  | session
  | spatial
  | spatialAggregate
deriving DecidableEq

/-- One result for a group of rows. -/
def FunctionClass.isAggregate : FunctionClass → Bool
  | aggregate | spatialAggregate => true
  | _ => false

/-- A class as it is shown. -/
def FunctionClass.name : FunctionClass → String
  | scalar => "Scalar"
  | aggregate => "Aggregate"
  | niladic => "Niladic"
  | session => "Session"
  | spatial => "Spatial"
  | spatialAggregate => "SpatialAggregate"

/-- The accepted argument counts; without a maximum there is no upper limit. -/
structure Arity where
  min : Nat
  max : Option Nat
deriving DecidableEq

namespace Arity

/-- Exactly `n` arguments. -/
def exact (n : Nat) : Arity := ⟨n, some n⟩

/-- From `low` to `high` arguments. -/
def range (low high : Nat) : Arity := ⟨low, some high⟩

/-- At least `n` arguments. -/
def atLeast (n : Nat) : Arity := ⟨n, none⟩

/-- The count fits. -/
def accepts (a : Arity) (argc : Nat) : Bool :=
  a.min ≤ argc && a.max.all (argc ≤ ·)

/-- The accepted counts: `1`, `2..3`, `1+`. -/
def describe (a : Arity) : String :=
  let low := String.ofList (Number.digits a.min)
  match a.max with
  | some high => if high = a.min then low else low ++ ".." ++ String.ofList (Number.digits high)
  | none => low ++ "+"

end Arity

/-- The catalog's record of a function. -/
structure CatalogEntry where
  id : FunctionId
  canonicalName : String
  functionClass : FunctionClass
  arity : Arity
deriving DecidableEq

/-- An entry of an aggregate. -/
def CatalogEntry.isAggregate (e : CatalogEntry) : Bool :=
  e.functionClass.isAggregate

/-- The modifier of an aggregate's argument list. -/
inductive SetQuantifier where
  | distinct
  | all
deriving DecidableEq

/-- The spelling of a quantifier. -/
def SetQuantifier.text : SetQuantifier → String
  | distinct => "DISTINCT"
  | all => "ALL"

end SqlNormal
