import SqlNormal.Proofs.BesideQueries
import SqlNormal.Proofs.Room
import SqlNormal.Proofs.Splitting

/-!
# Texts with the same tokens

What a text means depends on its tokens alone. Where they stand, and what stands between them, only
shows in errors.

* `Shift.erased`: all tokens at one place; `map_place_of_tokens`: what is read there;
* `alike_treeOfText`, `alike_entriesOfText`: the trees of two texts with the same tokens;
* **`alike_normalize`**: their normal forms.
-/

namespace SqlNormal

namespace Sql

open Reader

/-! ## Reading without places -/

/-- All tokens at one place. -/
def Shift.erased : Shift :=
  ⟨fun _ _ => .start, False⟩

theorem place_erased_of_tokens {tokens tokens' : List Lexeme}
    (h : tokens.map (·.token) = tokens'.map (·.token)) :
    Placed.place Shift.erased.place tokens = Placed.place Shift.erased.place tokens' := by
  have herased (ls : List Lexeme) : Placed.place Shift.erased.place ls =
      (ls.map (·.token)).map fun t => ⟨t, .start⟩ := by
    rw [List.map_map]
    rfl
  rw [herased, herased, h]

/-- What is read depends on the tokens, but for places. -/
theorem map_place_of_tokens {α : Type} [Placed α] {x : Reader α} (hx : Beside .erased x x)
    {tokens tokens' : List Lexeme} (h : tokens.map (·.token) = tokens'.map (·.token)) :
    (x tokens).map (Placed.place Shift.erased.place) =
      (x tokens').map (Placed.place Shift.erased.place) := by
  have hrun (ls : List Lexeme) : x (Placed.place Shift.erased.place ls) =
      (x ls).map (Placed.place Shift.erased.place) :=
    ((hx.run ls nofun).resolve_left And.left).1
  rw [← hrun, ← hrun, place_erased_of_tokens h]

theorem map_place_readText {α : Type} [Placed α] {x : Reader α} (hx : Beside .erased x x)
    {sql sql' : String} (h : tokens? sql = tokens? sql') :
    (readText x sql).map (Placed.place Shift.erased.place) =
      (readText x sql').map (Placed.place Shift.erased.place) := by
  unfold tokens? at h
  unfold readText
  cases htokens : tokenize? sql with
  | none =>
    cases htokens' : tokenize? sql' with
    | none => rfl
    | some tokens' => simp [htokens, htokens'] at h
  | some tokens =>
    cases htokens' : tokenize? sql' with
    | none => simp [htokens, htokens'] at h
    | some tokens' => exact map_place_of_tokens hx (by simpa [htokens, htokens'] using h)

end Sql

open Sql Reader

/-! ## Trees -/

variable {sql sql' : String}

theorem alike_treeOfReading_place (p : Move) (source source' : String)
    (q : Expr × List Lexeme) :
    Alike (treeOfReading source q) (treeOfReading source' (Placed.place p q)) := by
  obtain ⟨e, rest⟩ := q
  cases rest with
  | nil => exact e.alike_toTree_place _ _ _
  | cons l rest => exact alike_throw _ _

theorem alike_treeOfText (h : tokens? sql = tokens? sql') (bound : Nat) :
    Alike (Tree.ofText bound sql) (Tree.ofText bound sql') :=
  alike_bind_of_map (k := fun q => answering (treeOfReading "" q))
    (map_readWithin fun budget => map_place_readText ((beside_rules .erased budget).expr 0) h)
    (fun q => alike_answering (alike_treeOfReading_place _ sql "" q))
    fun q => alike_answering (alike_treeOfReading_place _ sql' "" q)

theorem alike_entriesOfStatements_place (p : Move) (source source' : String)
    (ss : List Statement) : Alike (entriesOfStatements source ss)
      (entriesOfStatements source' (Placed.place p ss)) := by
  match ss with
  | [] => exact alike_throw _ _
  | _ :: _ :: _ => exact alike_throw _ _
  | [.query ⟨.select items, _⟩] =>
    exact alike_mapM_map (fun item => alike_toEntry_place p source source' item) items
  | [.query ⟨.other, _⟩] => exact alike_throw _ _
  | [.explanation _] => exact alike_throw _ _
  | [.other _] => exact alike_throw _ _

theorem map_place_readStatements (h : tokens? sql = tokens? sql') (budget : Nat) :
    (readStatements budget sql).map (Placed.place Shift.erased.place) =
      (readStatements budget sql').map (Placed.place Shift.erased.place) := by
  have hread := map_place_readText (beside_statements .erased budget) h
  have hfirst (x : Except Refusal (List Statement × List Lexeme)) :
      (x.map (·.1)).map (Placed.place Shift.erased.place) =
        (x.map (Placed.place Shift.erased.place)).map (·.1) := by
    cases x <;> rfl
  unfold readStatements
  rw [hfirst, hfirst]
  exact congrArg (Except.map (·.1)) hread

theorem alike_entriesOfText (h : tokens? sql = tokens? sql') (bound : Nat) :
    Alike (entriesOfText bound sql) (entriesOfText bound sql') :=
  alike_bind_of_map (k := fun ss => answering (entriesOfStatements "" ss))
    (map_readWithin fun budget => map_place_readStatements h budget)
    (fun ss => alike_answering (alike_entriesOfStatements_place _ sql "" ss))
    fun ss => alike_answering (alike_entriesOfStatements_place _ sql' "" ss)

/-! ## Normal forms -/

/-- **What a text means depends on its tokens alone.** Two texts with the same tokens have the same
normal form, as an expression and as a query, or none. -/
theorem alike_normalize (h : tokens? sql = tokens? sql') (env : Environment) :
    Alike (env.normalizeExpression sql) (env.normalizeExpression sql') ∧
      Alike (env.normalizeProjection sql) (env.normalizeProjection sql') :=
  ⟨alike_bind (alike_treeOfText h _) fun _ => alike_refl _,
    alike_bind (alike_entriesOfText h _) fun _ => alike_refl _⟩

end SqlNormal
