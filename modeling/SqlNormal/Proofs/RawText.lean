import SqlNormal.Node.OfTree
import SqlNormal.Proofs.Results
import SqlNormal.Tree.OfText

/-!
# Texts of nodes

The text of a node is put together from the texts of its parts. A name goes into it between its
marks as it was found.

* **`not_ofText_rawText`**: a name with its own mark in it is not read back.
-/

namespace SqlNormal

/-- The name `a"b`. -/
def markedName : Ident :=
  ⟨"a\"b", some Text.doubleQuote⟩

/-- What was read is this name alone. -/
def isName (name : Ident) : Except Failure Tree → Bool
  | .ok (.identifier [i]) => i == name
  | _ => false

theorem ofText_markedName :
    Tree.ofText 256 "\"a\"\"b\"" = .ok (.identifier [markedName]) := by
  have h : isName markedName (Tree.ofText 256 "\"a\"\"b\"") = true := by
    decide +kernel
  unfold isName at h
  split at h
  · rename_i i hread
    rw [hread, eq_of_beq h]
  · cases h

/-- The text of a node is not always read back: a mark within a name is not doubled. -/
theorem not_ofText_rawText :
    ¬ ∀ (sql : String) (t : Tree) (n : Node), Tree.ofText 256 sql = .ok t →
      ({} : Environment).bind t = .ok n → Tree.ofText 256 n.rawText = .ok t := by
  intro h
  have hagain : Tree.ofText 256 (Text.tokenText [.token (Ident.path [markedName])]) =
      .ok (.identifier [markedName]) :=
    h _ _ _ ofText_markedName rfl
  have hraw : Text.tokenText [.token (Ident.path [markedName])] = "\"a\"b\"" := by decide
  have hunreadable : (Tree.ofText 256 "\"a\"b\"").toOption.isSome = false := by
    decide +kernel
  rw [hraw] at hagain
  rw [hagain] at hunreadable
  cases hunreadable

end SqlNormal
