import SqlNormal.Error
import SqlNormal.Node.Calls

/-!
# Capabilities

The functions that a backend can execute. A subtree may be sent to it if it calls no other.

* `Capabilities`, `ofIds`, `ofNames`, `all`: sets of functions; a name stands for every function
  that it can select;
* `supports`, `canExecute`;
* `unsupported`: the functions that stand in the way, each once.
-/

namespace SqlNormal

/-- A set of functions. -/
structure Capabilities where
  ids : List FunctionId
  nodup : ids.Nodup

namespace Capabilities

/-- The numbers without repetition, in the order of their first occurrence. -/
def distinct : List FunctionId → List FunctionId
  | [] => []
  | id :: ids => id :: (distinct ids).filter (· ≠ id)

theorem mem_distinct {id : FunctionId} {ids : List FunctionId} : id ∈ distinct ids ↔ id ∈ ids := by
  induction ids with
  | nil => simp [distinct]
  | cons x xs ih => by_cases h : id = x <;> simp [distinct, ih, h]

theorem nodup_distinct (ids : List FunctionId) : (distinct ids).Nodup := by
  induction ids with
  | nil => simp [distinct]
  | cons x xs ih => exact List.nodup_cons.2 ⟨by simp, ih.filter _⟩

/-- The set of some functions. -/
def ofIds (ids : List FunctionId) : Capabilities :=
  ⟨distinct ids, nodup_distinct ids⟩

/-- The functions that a name can select; a name has to be known. -/
def idsOfName (name : String) : Except Error (List FunctionId) :=
  let ids := idsForSpelling name
  if ids.isEmpty then throw (.unknownFunction name) else pure ids

/-- The set of all functions that the names can select. -/
def ofNames (names : List String) : Except Error Capabilities := do
  let ids ← names.mapM idsOfName
  return ofIds ids.flatten

/-- Every function of the catalog. -/
def all : Capabilities :=
  ofIds (catalogEntries.map (·.id))

/-- The function is in the set. -/
def supports (c : Capabilities) (id : FunctionId) : Bool :=
  c.ids.contains id

/-- The number of functions. -/
def size (c : Capabilities) : Nat :=
  c.ids.length

/-- No function at all. -/
def isEmpty (c : Capabilities) : Bool :=
  c.ids.isEmpty

/-- The functions of a node that are not in the set. -/
def unsupported (c : Capabilities) (n : Node) : List FunctionId :=
  distinct (n.functionIds.filter fun id => !c.supports id)

/-- Every function of a node is in the set. -/
def canExecute (c : Capabilities) (n : Node) : Bool :=
  n.functionIds.all c.supports

end Capabilities

end SqlNormal
