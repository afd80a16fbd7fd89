import SqlNormal.Catalog.Entries
import SqlNormal.Text.Ascii

/-!
# Spellings

How a spelling selects a function. Most spellings are the canonical name of one entry. Some are
synonyms, and some select by the shape of the call: by the number of arguments, by the member of a
family, by a star or by an optional argument.

* `Family`, `families`: groups of spellings of which one is selected by its place in the group;
* `Binding`, `bindingOf?`: the rule of a spelling;
* `Binding.targets`, `idsForSpelling`: the functions that a rule can select;
* `lookup?`, `isAggregate`: the entry of a number;
* `spellings`: all spellings, sorted.
-/

namespace SqlNormal

/-- A group of spellings; several may select one function. -/
structure Family where
  name : String
  alternatives : List (String × FunctionId)
deriving DecidableEq

/-- The place of a spelling in the group. -/
def Family.alternativeOf? (f : Family) (spelling : String) : Option Nat :=
  f.alternatives.findIdx? fun a => Text.sameWord a.1 spelling

/-- The regression functions. -/
def Family.regression : Family :=
  ⟨"REGRESSION",
    [("REGR_AVGX", ⟨21⟩), ("REGR_AVGY", ⟨22⟩), ("REGR_COUNT", .regrCount),
     ("REGR_INTERCEPT", ⟨24⟩), ("REGR_R2", ⟨25⟩), ("REGR_SLOPE", .regrSlope), ("REGR_SXX", ⟨27⟩),
     ("REGR_SXY", ⟨28⟩), ("REGR_SYY", ⟨29⟩)]⟩

/-- The groups. -/
def families : List Family :=
  [⟨"STDDEV",
    [("STDDEV", ⟨12⟩), ("STDDEV_POP", ⟨13⟩), ("STDEVP", ⟨13⟩), ("STDDEV_SAMP", ⟨14⟩),
     ("STDEV", ⟨14⟩)]⟩,
   ⟨"VARIANCE",
    [("VARIANCE", ⟨15⟩), ("VARIANCE_POP", ⟨16⟩), ("VAR_POP", ⟨16⟩), ("VARIANCE_SAMP", ⟨17⟩),
     ("VAR_SAMP", ⟨17⟩)]⟩,
   ⟨"CORRELATION", [("CORR", .corr), ("COVAR_POP", .covarPop), ("COVAR_SAMP", .covarSamp)]⟩,
   .regression]

/-- How a spelling selects its function. -/
inductive Binding where
  | fixed (id : FunctionId)
  | byArity (choices : List (Nat × FunctionId))
  | byAlternative (family : Family)
  | byStar (star expr : FunctionId)
  | byOptionalArg (required : Nat) (present absent : FunctionId)
deriving DecidableEq

/-- Every function that a rule can select; members of a group that select the same function in a row
count once. -/
def Binding.targets : Binding → List FunctionId
  | fixed id => [id]
  | byArity choices => choices.map (·.2)
  | byAlternative family => (family.alternatives.map (·.2)).eraseReps
  | byStar star expr => [star, expr]
  | byOptionalArg _ present absent => [present, absent]

/-- The spellings that are no canonical name, or select by the shape of the call. -/
def shapedBindings : List (String × Binding) :=
  [("CEILING", .fixed ⟨56⟩), ("MODULE", .fixed ⟨64⟩), ("POW", .fixed ⟨66⟩),
   ("CHARACTER_LENGTH", .fixed ⟨103⟩), ("LCASE", .fixed ⟨116⟩), ("UCASE", .fixed ⟨139⟩),
   ("IFNULL", .fixed ⟨262⟩), ("ST_GEOMETRYFROMTEXT", .fixed ⟨433⟩), ("CURDATE", .fixed ⟨183⟩),
   ("CURTIME", .fixed ⟨184⟩),
   ("COUNT", .byStar .countStar .count),
   ("DATE", .byArity [(0, ⟨183⟩), (1, ⟨186⟩)]),
   ("TIME", .byArity [(0, ⟨184⟩), (1, ⟨210⟩)]),
   ("TRANSLATE", .byArity [(3, ⟨137⟩), (4, ⟨481⟩)]),
   ("TIMESTAMP", .byOptionalArg 0 ⟨212⟩ ⟨185⟩),
   ("ST_COLLECT", .byOptionalArg 1 ⟨413⟩ ⟨520⟩),
   ("ST_MAKELINE", .byOptionalArg 1 ⟨453⟩ ⟨523⟩),
   ("ST_UNION", .byOptionalArg 1 ⟨482⟩ ⟨524⟩)]

/-- The spellings of the groups. -/
def familyBindings : List (String × Binding) :=
  families.flatMap fun f => f.alternatives.map fun a => (a.1, .byAlternative f)

/-- The canonical names, each with the entry it stands for. -/
def canonicalBindings : List (String × Binding) :=
  catalogEntries.map fun e => (e.canonicalName, .fixed e.id)

/-- All rules; the first one of a spelling counts. -/
def bindings : List (String × Binding) :=
  shapedBindings ++ familyBindings ++ canonicalBindings

/-- The rule of a spelling in upper case. -/
def bindingOfUpper? (spelling : String) : Option Binding :=
  bindings.lookup spelling

/-- The rule of a spelling. -/
def bindingOf? (token : String) : Option Binding :=
  bindingOfUpper? (Text.upper token)

/-- The spelling names a function. -/
def isKnown (token : String) : Bool :=
  (bindingOf? token).isSome

/-- Every function that a spelling can select, whatever the shape of the call. -/
def idsForSpelling (token : String) : List FunctionId :=
  ((bindingOf? token).map Binding.targets).getD []

/-- The group of a spelling. -/
def familyOf? (token : String) : Option Family :=
  match bindingOf? token with
  | some (.byAlternative family) => some family
  | _ => none

/-- The entry of a number. -/
def lookup? (id : FunctionId) : Option CatalogEntry :=
  catalogEntries.find? (·.id = id)

/-- The number is an aggregate's. -/
def isAggregate (id : FunctionId) : Bool :=
  (lookup? id).any CatalogEntry.isAggregate

/-- All spellings, sorted. -/
def spellings : List String :=
  ((bindings.map (·.1)).eraseDups).mergeSort fun a b => decide (a ≤ b)

end SqlNormal
