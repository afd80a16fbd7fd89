import SqlNormal.Proofs.Results
import SqlNormal.Sql.Reader.Basic

/-!
# Runs of readers

A reader that is put together from others runs them one after the other. What it gives follows from
what the readers inside it give, whatever tokens it is given.

* `run_bind` and its kin: what a reader does to tokens, step by step;
* `Gives`: a fact about whatever a reader gives;
* `gives_bind`, `gives_ite`: a sequence of two readers, a choice between two;
* `gives_attempt`, `gives_separated`, `gives_repeated`: the combinators of readers.
-/

namespace SqlNormal.Sql

namespace Reader

variable {α β : Type} {s : List Lexeme} {word : String}

/-! ## Steps of readers -/

theorem run_bind (x : Reader α) (f : α → Reader β) :
    (x >>= f) s = (x s).bind fun p => f p.1 p.2 := rfl

theorem run_map (x : Reader α) (f : α → β) : (f <$> x) s = (x s).map fun p => (f p.1, p.2) := by
  show (x s >>= fun p => pure (f p.1, p.2)) = _
  cases x s <;> rfl

theorem run_pure (x : α) : (pure x : Reader α) s = .ok (x, s) := rfl

theorem run_get : (get : Reader (List Lexeme)) s = .ok (s, s) := rfl

theorem run_set (s' : List Lexeme) : (set s' : Reader PUnit) s = .ok (⟨⟩, s') := rfl

theorem run_skip (n : Nat) : skip n s = .ok (⟨⟩, s.drop n) := rfl

theorem run_ite {c : Prop} [Decidable c] (x y : Reader α) :
    (if c then x else y) s = if c then x s else y s := by
  split <;> rfl

/-- The keyword of the next token. -/
def headKey (s : List Lexeme) : String :=
  ((s[0]?).map fun l => l.token.keyword).getD ""

theorem run_keywordAt : keywordAt 0 s = .ok (headKey s, s) := rfl

theorem run_peek : peek s = .ok (s.head?.map (·.token), s) := rfl

theorem run_keyword? (h : headKey s ≠ word) : keyword? word s = .ok (false, s) := by
  simp only [keyword?, peekKeyword, run_bind, run_keywordAt, run_pure, ok_bind,
    beq_false_of_ne h, run_ite, Bool.false_eq_true, if_false]

theorem run_peekSymbol {spelling : String} (h : s.head?.map (·.token) ≠ some (.symbol spelling)) :
    peekSymbol spelling s = .ok (false, s) := by
  simp only [peekSymbol, run_bind, run_peek, ok_bind, run_pure, beq_false_of_ne h]

theorem run_symbol? {spelling : String} (h : s.head?.map (·.token) ≠ some (.symbol spelling)) :
    symbol? spelling s = .ok (false, s) := by
  simp only [symbol?, run_bind, run_peekSymbol h, ok_bind, run_ite, Bool.false_eq_true, if_false,
    run_pure]

theorem run_clause? {r : Reader α} (h : headKey s ≠ word) : clause? word r s = .ok (none, s) := by
  simp only [clause?, run_bind, run_keyword? h, ok_bind, run_ite, Bool.false_eq_true, if_false,
    run_pure]

/-! ## What readers give -/

variable {P Q : α → Prop} {R : β → Prop}

/-- Whatever the reader gives satisfies `P`. -/
def Gives (P : α → Prop) (r : Reader α) : Prop :=
  ∀ tokens x rest, r tokens = .ok (x, rest) → P x

theorem gives_true (r : Reader α) : Gives (fun _ => True) r :=
  fun _ _ _ _ => trivial

theorem gives_pure {x : α} (h : P x) : Gives P (pure x) := by
  rintro tokens _ _ ⟨⟩
  exact h

theorem gives_refuse : Gives P (refuse : Reader α) :=
  nofun

theorem gives_bind {r : Reader α} {f : α → Reader β} (hr : Gives P r)
    (hf : ∀ x, P x → Gives R (f x)) : Gives R (r >>= f) := by
  intro tokens y rest h
  obtain ⟨⟨x, middle⟩, hx, hy⟩ := bind_eq_ok.mp h
  exact hf x (hr tokens x middle hx) middle y rest hy

theorem gives_then {r : Reader α} {f : α → Reader β} (hf : ∀ x, Gives R (f x)) :
    Gives R (r >>= f) :=
  gives_bind (gives_true r) fun x _ => hf x

theorem gives_pure_bind {x : α} {f : α → Reader β} (h : Gives R (f x)) :
    Gives R (pure x >>= f) := by
  rwa [pure_bind]

theorem gives_map {r : Reader α} {f : α → β} (hr : Gives P r) (hf : ∀ x, P x → R (f x)) :
    Gives R (f <$> r) := by
  rw [← bind_pure_comp]
  exact gives_bind hr fun x hx => gives_pure (hf x hx)

theorem gives_ite {c : Prop} [Decidable c] {r₁ r₂ : Reader α} (h₁ : c → Gives P r₁)
    (h₂ : ¬c → Gives P r₂) : Gives P (if c then r₁ else r₂) := by
  split_ifs with h
  · exact h₁ h
  · exact h₂ h

/-! ## Combinators -/

theorem gives_inParens {r : Reader α} (h : Gives P r) : Gives P (inParens r) :=
  gives_then fun _ => gives_bind h fun _ hx => gives_then fun _ => gives_pure hx

theorem gives_clause? {r : Reader α} (word : String) (h : Gives P r) :
    Gives (fun o => ∀ x ∈ o, P x) (clause? word r) := by
  refine gives_then fun _ => gives_ite (fun _ => ?_) fun _ => gives_pure nofun
  refine gives_bind h fun x hx => gives_pure ?_
  rintro _ ⟨⟩
  exact hx

theorem gives_attempt {r : Reader α} (h : Gives P r) :
    Gives (fun o => ∀ x ∈ o, P x) (attempt r) := by
  intro tokens o rest ho x hx
  unfold attempt at ho
  split at ho
  · rename_i hy
    cases ho
    cases hx
    exact h tokens _ _ hy
  · cases ho
    cases hx
  · cases ho

theorem gives_separatedFrom {r : Reader α} (h : Gives P r) (fuel : Nat) :
    Gives (fun xs => ∀ x ∈ xs, P x) (separatedFrom r fuel) := by
  induction fuel with
  | zero => exact gives_refuse
  | succ fuel ih =>
    refine gives_bind h fun x hx => gives_then fun _ => gives_ite (fun _ => ?_) fun _ => ?_
    · refine gives_bind ih fun xs hxs => gives_pure ?_
      simpa using ⟨hx, hxs⟩
    · exact gives_pure (by simpa using hx)

theorem gives_separated {r : Reader α} (h : Gives P r) :
    Gives (fun xs => ∀ x ∈ xs, P x) (separated r) :=
  gives_then fun _ => gives_separatedFrom h _

theorem gives_repeatedFrom {r : Reader (Option α)} (h : Gives (fun o => ∀ x ∈ o, P x) r)
    (fuel : Nat) : Gives (fun xs => ∀ x ∈ xs, P x) (repeatedFrom r fuel) := by
  induction fuel with
  | zero => exact gives_pure nofun
  | succ fuel ih =>
    refine gives_bind h fun o ho => ?_
    cases o with
    | none => exact gives_pure nofun
    | some x =>
      refine gives_bind ih fun xs hxs => gives_pure ?_
      simpa using ⟨ho x rfl, hxs⟩

theorem gives_repeated {r : Reader (Option α)} (h : Gives (fun o => ∀ x ∈ o, P x) r) :
    Gives (fun xs => ∀ x ∈ xs, P x) (repeated r) :=
  gives_then fun _ => gives_repeatedFrom h _

end Reader

end SqlNormal.Sql
