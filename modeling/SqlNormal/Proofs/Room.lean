import SqlNormal.Normalize
import SqlNormal.Proofs.Results

/-!
# Room for a budget

The budget for reading is the nesting bound with an allowance for what lies around expressions. Only
a budget that fits into a word is ever spent. Without room for it the program stops over every text
alike, and with room over none.

* `readWithin_eq_ok`, `readWithin_eq_overflow`, `ends_readWithin`, `map_readWithin`: reading within
  a bound;
* **`Environment.normalizeExpression_eq_overflow`**,
  **`Environment.normalizeProjection_eq_overflow`**: the bounds under which the program stops;
* `Environment.eq_of_withDepth`: the bounds that are accepted.
-/

namespace SqlNormal

open Sql

section

variable {α : Type} {maxDepth : Nat} {read : Nat → Except Refusal α} {a : α}

/-- What is read on a budget that fits is read within its bound, and nothing else is. -/
theorem readWithin_eq_ok : readWithin maxDepth read = .ok a ↔
    HasRoom maxDepth ∧ read (readingBudget maxDepth) = .ok a := by
  unfold readWithin
  split_ifs with hroom
  · cases read (readingBudget maxDepth) <;> simp [hroom, Except.mapError]
  · exact iff_of_false not_false fun h => hroom h.1

/-- The program stops over a budget that does not fit, and over no other. -/
theorem readWithin_eq_overflow : readWithin maxDepth read = .error .overflow ↔
    ¬HasRoom maxDepth := by
  unfold readWithin
  split_ifs with hroom
  · exact iff_of_false answering_ne_overflow (not_not_intro hroom)
  · exact iff_of_true rfl hroom

theorem ends_readWithin {P : Error → Prop} {Q : α → Prop}
    (hrefused : ∀ refusal, P (Refusal.toError maxDepth refusal))
    (h : ∀ a, read (readingBudget maxDepth) = .ok a → Q a) :
    Ends (Failure.Answers P) Q (readWithin maxDepth read) := by
  unfold readWithin
  refine ends_ite (fun _ => ends_answering ?_) fun _ => ends_throw fun e he => by cases he
  cases hr : read (readingBudget maxDepth) with
  | ok a => exact ends_pure (h a hr)
  | error refusal => exact ends_throw (hrefused refusal)

/-- Two readings that differ in nothing but what is done away with do so within every bound. -/
theorem map_readWithin {p : α → α} {read' : Nat → Except Refusal α}
    (h : ∀ budget, (read budget).map p = (read' budget).map p) :
    (readWithin maxDepth read).map p = (readWithin maxDepth read').map p := by
  have hmap (x : Except Refusal α) (fault : Refusal → Error) :
      (answering (x.mapError fault)).map p = answering ((x.map p).mapError fault) := by
    cases x <;> rfl
  unfold readWithin
  split_ifs
  · rw [hmap, hmap, h]
  · rfl

end

namespace Environment

variable {env : Environment} {sql : String}

/-- **The program stops over an expression** exactly under a bound that leaves no room. -/
theorem normalizeExpression_eq_overflow : env.normalizeExpression sql = .error .overflow ↔
    ¬HasRoom env.config.maxDepth :=
  bind_answering_eq_overflow.trans (bind_answering_eq_overflow.trans readWithin_eq_overflow)

/-- **The program stops over a query** exactly under a bound that leaves no room. -/
theorem normalizeProjection_eq_overflow : env.normalizeProjection sql = .error .overflow ↔
    ¬HasRoom env.config.maxDepth :=
  bind_answering_eq_overflow.trans (bind_answering_eq_overflow.trans readWithin_eq_overflow)

/-- An environment with another bound differs in nothing else, and the bound admits something. -/
theorem eq_of_withDepth {env' : Environment} {bound : Nat} (h : env.withDepth bound = .ok env') :
    env' = { env with config := { env.config with maxDepth := bound } } ∧ 1 ≤ bound := by
  obtain ⟨config, hconfig, henv⟩ := bind_eq_ok.mp h
  obtain ⟨hpos, hconfig⟩ := guard_eq_ok.mp hconfig
  obtain ⟨-, hconfig⟩ := guard_eq_ok.mp hconfig
  rw [pure_eq_ok] at hconfig henv
  subst henv hconfig
  exact ⟨rfl, Nat.pos_of_ne_zero hpos⟩

end Environment

end SqlNormal
