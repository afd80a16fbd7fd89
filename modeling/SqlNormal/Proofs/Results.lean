import Mathlib
import SqlNormal.Error

/-!
# Results of computations that may fail

What a sequence of steps gives if it succeeds, and where it fails if it does not.

* `bind_eq_ok`, `bind_eq_error`: a sequence of two steps;
* `guard_eq_ok`, `mapM_eq_ok_mono`, `forall₂_of_mapM`: guards, and the same step for each of some
  values;
* `Ends`, `ends_bind`: a fact about whatever error a computation ends in, and one about whatever it
  gives;
* `Alike`, `alike_bind`: two computations that give the same, whatever errors they end in;
* `answering_eq_ok`, `ends_answering`, `answer?_eq_none`: answers, and computations without one.
-/

namespace SqlNormal

variable {ε α β γ : Type}

theorem ok_bind (a : α) (f : α → Except ε β) : (Except.ok a).bind f = f a := rfl

@[simp] theorem bind_eq_ok {x : Except ε α} {f : α → Except ε β} {b : β} :
    x >>= f = .ok b ↔ ∃ a, x = .ok a ∧ f a = .ok b := by
  cases x <;> simp [bind, Except.bind]

theorem bind_eq_error {x : Except ε α} {f : α → Except ε β} {e : ε} :
    x >>= f = .error e ↔ x = .error e ∨ ∃ a, x = .ok a ∧ f a = .error e := by
  cases x <;> simp [bind, Except.bind]

@[simp] theorem pure_eq_ok {a b : α} : (pure a : Except ε α) = .ok b ↔ a = b := by
  simp [pure, Except.pure]

@[simp] theorem pure_ne_error {a : α} {e : ε} : (pure a : Except ε α) ≠ .error e :=
  nofun

@[simp] theorem throw_bind {e : ε} {f : α → Except ε β} :
    (throw e >>= f : Except ε β) = throw e := rfl

theorem guard_eq_ok {p : Prop} [Decidable p] {e : ε} {x : Except ε α} {a : α} :
    (if p then throw e else x) = .ok a ↔ ¬ p ∧ x = .ok a := by
  split_ifs with h <;> simp [h]

theorem mapM_eq_ok_mono {f g : α → Except ε β} (h : ∀ a b, f a = .ok b → g a = .ok b)
    {as : List α} {bs : List β} (hf : as.mapM f = .ok bs) : as.mapM g = .ok bs := by
  induction as generalizing bs with
  | nil => exact hf
  | cons a as ih =>
    rw [List.mapM_cons] at hf ⊢
    obtain ⟨b, hb, hrest⟩ := bind_eq_ok.mp hf
    obtain ⟨bs', hbs, hpure⟩ := bind_eq_ok.mp hrest
    exact bind_eq_ok.mpr ⟨b, h a b hb, bind_eq_ok.mpr ⟨bs', ih hbs, hpure⟩⟩

theorem forall₂_of_mapM {f : α → Except ε β} {as : List α} {bs : List β}
    (h : as.mapM f = .ok bs) : List.Forall₂ (fun a b => f a = .ok b) as bs := by
  induction as generalizing bs with
  | nil =>
    obtain rfl : [] = bs := pure_eq_ok.mp h
    exact .nil
  | cons a as ih =>
    rw [List.mapM_cons] at h
    obtain ⟨b, hb, hrest⟩ := bind_eq_ok.mp h
    obtain ⟨bs', hbs, hpure⟩ := bind_eq_ok.mp hrest
    obtain rfl := pure_eq_ok.mp hpure
    exact .cons hb (ih hbs)

/-! ## How a computation ends -/

variable {P : ε → Prop} {Q : α → Prop} {R : β → Prop}

/-- Whatever error the computation ends in satisfies `P`, and whatever it gives satisfies `Q`. -/
def Ends (P : ε → Prop) (Q : α → Prop) (x : Except ε α) : Prop :=
  (∀ e, x = .error e → P e) ∧ ∀ a, x = .ok a → Q a

/-- Whatever error the computation ends in satisfies `P`. -/
abbrev Throws (P : ε → Prop) (x : Except ε α) : Prop :=
  Ends P (fun _ => True) x

theorem ends_pure {a : α} (h : Q a) : Ends P Q (pure a) := by
  refine ⟨nofun, ?_⟩
  rintro _ ⟨⟩
  exact h

theorem ends_throw {e : ε} (h : P e) : Ends P Q (throw e) := by
  refine ⟨?_, nofun⟩
  rintro _ ⟨⟩
  exact h

theorem ends_eq {x : Except ε α} {a : α} (hx : x = .ok a) : Ends P (· = a) x :=
  hx ▸ ends_pure rfl

theorem ends_bind {x : Except ε α} {f : α → Except ε β} (hx : Ends P Q x)
    (hf : ∀ a, Q a → Ends P R (f a)) : Ends P R (x >>= f) := by
  refine ⟨fun e h => ?_, fun b h => ?_⟩
  · rcases bind_eq_error.mp h with h | ⟨a, ha, h⟩
    · exact hx.1 e h
    · exact (hf a (hx.2 a ha)).1 e h
  · obtain ⟨a, ha, h⟩ := bind_eq_ok.mp h
    exact (hf a (hx.2 a ha)).2 b h

theorem ends_map {x : Except ε α} {f : α → β} (hx : Ends P Q x) (hf : ∀ a, Q a → R (f a)) :
    Ends P R (f <$> x) := by
  rw [← bind_pure_comp]
  exact ends_bind hx fun a ha => ends_pure (hf a ha)

theorem ends_ite {p : Prop} [Decidable p] {x y : Except ε α} (hx : p → Ends P Q x)
    (hy : ¬p → Ends P Q y) : Ends P Q (if p then x else y) := by
  split_ifs with h
  · exact hx h
  · exact hy h

theorem ends_mapM {f : α → Except ε β} {xs : List α} (h : ∀ x ∈ xs, Ends P R (f x)) :
    Ends P (fun ys => ∀ y ∈ ys, R y) (xs.mapM f) := by
  induction xs with
  | nil => exact ends_pure nofun
  | cons x xs ih =>
    rw [List.mapM_cons]
    refine ends_bind (h x List.mem_cons_self) fun y hy => ?_
    refine ends_bind (ih fun x hx => h x (List.mem_cons_of_mem _ hx)) fun ys hys => ends_pure ?_
    simpa using ⟨hy, hys⟩

theorem Ends.mono {P' : ε → Prop} {Q' : α → Prop} {x : Except ε α} (h : Ends P Q x)
    (hP : ∀ e, P e → P' e) (hQ : ∀ a, Q a → Q' a) : Ends P' Q' x :=
  ⟨fun e he => hP e (h.1 e he), fun a ha => hQ a (h.2 a ha)⟩

/-! ## Computations that give the same -/

/-- The two computations give the same, or both give nothing. -/
def Alike (x y : Except ε α) : Prop :=
  ∀ a, x = .ok a ↔ y = .ok a

theorem alike_refl (x : Except ε α) : Alike x x :=
  fun _ => Iff.rfl

theorem Alike.symm {x y : Except ε α} (h : Alike x y) : Alike y x :=
  fun a => (h a).symm

theorem Alike.trans {x y z : Except ε α} (h : Alike x y) (h' : Alike y z) : Alike x z :=
  fun a => (h a).trans (h' a)

theorem alike_throw (e e' : ε) : Alike (throw e : Except ε α) (throw e') :=
  fun _ => ⟨nofun, nofun⟩

theorem alike_bind {x y : Except ε α} {f g : α → Except ε β} (h : Alike x y)
    (hfg : ∀ a, Alike (f a) (g a)) : Alike (x >>= f) (y >>= g) := by
  intro b
  rw [bind_eq_ok, bind_eq_ok]
  exact exists_congr fun a => and_congr (h a) (hfg a b)

theorem alike_ite {p : Prop} [Decidable p] {x x' y y' : Except ε α} (hx : Alike x x')
    (hy : Alike y y') : Alike (if p then x else y) (if p then x' else y') := by
  split_ifs
  · exact hx
  · exact hy

theorem alike_mapM_map {f : α → Except ε β} {g : γ → Except ε β} {p : α → γ}
    (h : ∀ a, Alike (f a) (g (p a))) (as : List α) : Alike (as.mapM f) ((as.map p).mapM g) := by
  induction as with
  | nil => exact alike_refl _
  | cons a as ih =>
    rw [List.map_cons, List.mapM_cons, List.mapM_cons]
    exact alike_bind (h a) fun b => alike_bind ih fun bs => alike_refl _

/-- Two computations that differ in what the steps behind them do not look at. -/
theorem alike_bind_of_map {p : α → α} {x y : Except ε α} (h : x.map p = y.map p)
    {f g k : α → Except ε β} (hf : ∀ a, Alike (f a) (k (p a))) (hg : ∀ a, Alike (g a) (k (p a))) :
    Alike (x >>= f) (y >>= g) := by
  cases x with
  | error e =>
    cases y with
    | error e' => exact alike_throw _ _
    | ok b => cases h
  | ok a =>
    cases y with
    | error e' => cases h
    | ok b =>
      have hsame : p a = p b := Except.ok.inj h
      exact (hf a).trans (hsame ▸ (hg b).symm)

/-! ## Answers -/

section

variable {x y : Except Error α} {z : Except Failure α} {a : α} {e : Error}

@[simp] theorem answering_eq_ok : answering x = .ok a ↔ x = .ok a := by
  cases x <;> simp [answering, Except.mapError]

@[simp] theorem answering_eq_answered : answering x = .error (.answered e) ↔ x = .error e := by
  cases x <;> simp [answering, Except.mapError]

theorem answering_ne_overflow : answering x ≠ .error .overflow := by
  cases x <;> simp [answering, Except.mapError]

/-- A step that is answered does not stop the program. -/
theorem bind_answering_eq_overflow {f : α → Except Error β} :
    (z >>= fun a => answering (f a)) = .error .overflow ↔ z = .error .overflow := by
  rw [bind_eq_error]
  refine or_iff_left ?_
  rintro ⟨_, -, h⟩
  exact answering_ne_overflow h

/-- If there is an answer at all, it is an error that satisfies `P`. -/
def Failure.Answers (P : Error → Prop) (f : Failure) : Prop :=
  ∀ e, f = .answered e → P e

theorem ends_answering {P : Error → Prop} (h : Ends P Q x) :
    Ends (Failure.Answers P) Q (answering x) := by
  refine ⟨?_, fun a ha => h.2 a (answering_eq_ok.mp ha)⟩
  rintro _ hx e rfl
  exact h.1 e (answering_eq_answered.mp hx)

theorem alike_answering (h : Alike x y) : Alike (answering x) (answering y) := by
  intro a
  rw [answering_eq_ok, answering_eq_ok]
  exact h a

@[simp] theorem answer?_eq_none : answer? z = none ↔ z = .error .overflow := by
  rcases z with (_ | _) | _ <;> simp [answer?]

end

/-! ## Evaluation -/

/-- The error that a computation ends in. -/
def errorOf? : Except ε α → Option ε
  | .ok _ => none
  | .error e => some e

theorem errorOf?_eq_some {x : Except ε α} {e : ε} : errorOf? x = some e ↔ x = .error e := by
  cases x <;> simp [errorOf?]

theorem toOption_eq_some {x : Except ε α} {a : α} : x.toOption = some a ↔ x = .ok a := by
  cases x <;> simp [Except.toOption]

theorem exists_of_isOk {x : Except ε α} (h : x.isOk = true) : ∃ a, x = .ok a := by
  cases x with
  | ok a => exact ⟨a, rfl⟩
  | error e => cases h

end SqlNormal
