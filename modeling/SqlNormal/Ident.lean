import SqlNormal.Text.LowerCase
import SqlNormal.Text.Quoted

/-!
# Identifiers

A name as it stands in a statement, with the mark that delimits it if there is one.

* `Ident`;
* `Ident.written`: the name between its marks, as it was found;
* `Ident.folded`: the name that it denotes. Without marks, case does not count.
-/

namespace SqlNormal

/-- A name and its mark. -/
structure Ident where
  value : String
  quote : Option Char
deriving DecidableEq

namespace Ident

/-- The mark that closes a name. -/
def closing (mark : Char) : Char :=
  if mark = '[' then ']' else mark

/-- The name between its marks, taken as it is. -/
def written (i : Ident) : String :=
  match i.quote with
  | some mark => String.singleton mark ++ i.value ++ String.singleton (closing mark)
  | none => i.value

/-- The name that an identifier denotes: without marks in lower case. -/
def folded (i : Ident) : String :=
  if i.quote.isSome then i.value else Text.lowerCase i.value

/-- A path of names as it was written. -/
def path (parts : List Ident) : String :=
  ".".intercalate (parts.map written)

end Ident

end SqlNormal
