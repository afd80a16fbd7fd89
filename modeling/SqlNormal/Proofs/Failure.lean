import SqlNormal.Proofs.Catalog
import SqlNormal.Proofs.Induction

/-!
# How lowering fails

A tree that is not lowered has a fault at its root, or a part that is not lowered one level below.
Apart from the bound on the levels, the faults are told without a look at the parts.

* `Environment.Fault`: what may be wrong at a form itself;
* `Collaborators.Refuses`: a predicate that the surrounding program does not build;
* `Environment.lowerPart`: the node of a part, one level below;
* **`Environment.lower_error`**: why a tree is not lowered;
* `Environment.lower_error_standard`: why it is not with the standard decisions;
* **`Environment.failure_induction`**: what holds of the faults and of the bound, and passes from a
  part to the whole, holds of every failure.
-/

namespace SqlNormal

namespace Environment

/-- What may be wrong at a form itself. The forms with keywords always find their entry. -/
inductive Fault (env : Environment) : Tree → Error → Prop
  | literal {l e} : env.literal l = .error e → Fault env (.literal l) e
  | identifier {parts e} : env.columnOf parts = .error e → Fault env (.identifier parts) e
  | call {spelling args e} : resolve spelling.keyword (spelling.shape args.length) = .error e →
      Fault env (.call spelling args) e
  | countStar {keyword e} : resolve keyword .ofStar = .error e → Fault env (.countStar keyword) e
  | cast {operand target e} : env.collaborators.resolveType target = .error e →
      Fault env (.cast operand target) e
  | trim {spec characters source} :
      Fault env (.trim (some spec) (some characters) false source)
        (.invariant (.trimWithoutFrom spec.text))
  | extract {fieldToken source e} : fieldOfToken fieldToken = .error e →
      Fault env (.extract fieldToken source) e
  | substring {source length} :
      Fault env (.substring source none (some length) false) (.invariant .substringLength)
  | convert {operand target style} :
      Fault env (.convert operand true target (some style)) (.invariant .convertStyle)

end Environment

/-- The predicate of a comparison or of a condition is not built, although the operands are. -/
inductive Collaborators.Refuses (c : Collaborators) : Error → Prop
  | comparison {op left right e} : op.isPredicate = true → c.comparison op left right = .error e →
      Refuses c e
  | condition {d t lowered e} : c.condition d t lowered = .error e → lowered ≠ .error e →
      Refuses c e

/-- The standard decisions build every predicate. -/
theorem Collaborators.not_refuses_standard {e : Error} : ¬ standard.Refuses e := by
  rintro (⟨hop, h⟩ | ⟨h, hlowered⟩)
  · change predicate _ _ _ = _ at h
    rw [predicate, if_pos hop] at h
    exact pure_ne_error h
  · exact hlowered h

namespace Environment

/-- The node of a part, one level below. -/
def lowerPart (env : Environment) (d : Nat) (t : Tree) : Except Error Node := do
  env.lower (← env.descend d) t

variable {env : Environment} {d : Nat}

theorem lowerPart_error {t : Tree} {e : Error} : env.lowerPart d t = .error e ↔
    (env.config.maxDepth < d + 1 ∧ e = .tooDeep (d + 1) env.config.maxDepth) ∨
      (d + 1 ≤ env.config.maxDepth ∧ env.lower (d + 1) t = .error e) := by
  rw [lowerPart, descend]
  by_cases h : d + 1 ≤ env.config.maxDepth
  · have hlt : ¬ env.config.maxDepth < d + 1 := by omega
    rw [if_pos h]
    simp [h, hlt]
  · have hlt : env.config.maxDepth < d + 1 := by omega
    rw [if_neg h, throw_bind]
    simp [h, hlt, throw, throwThe, MonadExceptOf.throw, eq_comm]

/-! ## Failures of the parts -/

section Parts

variable {P : Error → Prop}

theorem throws_part {β : Type} {t : Tree} {f : Node → Except Error β}
    (ht : Throws P (env.lowerPart d t)) (hf : ∀ n, Throws P (f n)) :
    Throws P (do f (← env.lower (← env.descend d) t)) := by
  have h := ends_bind (f := f) ht fun n _ => hf n
  rwa [lowerPart, bind_assoc] at h

theorem throws_lowerList {ts : List Tree} (h : ∀ t ∈ ts, Throws P (env.lowerPart d t)) :
    Throws P (lower.lowerList env d ts) := by
  induction ts with
  | nil => exact ends_pure trivial
  | cons t ts ih =>
    refine throws_part (h t List.mem_cons_self) fun n => ?_
    exact ends_bind (ih fun t ht => h t (List.mem_cons_of_mem _ ht)) fun _ _ => ends_pure trivial

theorem throws_lowerOption {o : Option Tree} (h : ∀ t ∈ o, Throws P (env.lowerPart d t)) :
    Throws P (lower.lowerOption env d o) := by
  cases o with
  | none => exact ends_pure trivial
  | some t => exact throws_part (h t rfl) fun n => ends_pure trivial

theorem throws_lowerBranches (hrefuses : ∀ e, env.collaborators.Refuses e → P e)
    {tested : Option Node} {bs : List (Tree × Tree)}
    (h : ∀ b ∈ bs, Throws P (env.lowerPart d b.1) ∧ Throws P (env.lowerPart d b.2)) :
    Throws P (lower.lowerBranches env d tested bs) := by
  induction bs with
  | nil => exact ends_pure trivial
  | cons b bs ih =>
    obtain ⟨condition, result⟩ := b
    obtain ⟨hcondition, hresult⟩ := h (condition, result) List.mem_cons_self
    have ih := ih fun b hb => h b (List.mem_cons_of_mem _ hb)
    have hrest : ∀ p : String × Node, Throws P (do
        let r ← env.lower (← env.descend d) result
        let branches ← lower.lowerBranches env d tested bs
        return (⟨p.1, p.2, r⟩ : CaseBranch) :: branches) := fun p =>
      throws_part hresult fun r => ends_bind ih fun _ _ => ends_pure trivial
    cases tested with
    | some operand =>
      refine throws_part hcondition fun value => ?_
      refine ends_bind (Q := fun _ => True) ?_ fun predicate _ => ends_bind (ends_eq rfl) fun p _ =>
        hrest p
      exact ⟨fun e he => hrefuses e (.comparison rfl he), fun _ _ => trivial⟩
    | none =>
      refine ends_bind (Q := fun _ => True) ?_ fun predicate _ => ends_bind (ends_eq rfl) fun p _ =>
        hrest p
      refine ⟨fun e he => ?_, fun _ _ => trivial⟩
      by_cases hlowered : env.lowerPart d condition = .error e
      · exact hcondition.1 e hlowered
      · exact hrefuses e (.condition he hlowered)

end Parts

/-! ## Failures of a tree -/

/-- **Why a tree is not lowered.** -/
theorem lower_error {t : Tree} {e : Error} (h : env.lower d t = .error e) :
    env.Fault t e ∨ env.collaborators.Refuses e ∨ ∃ s ∈ t.parts, env.lowerPart d s = .error e := by
  let P : Error → Prop := fun e =>
    env.Fault t e ∨ env.collaborators.Refuses e ∨ ∃ s ∈ t.parts, env.lowerPart d s = .error e
  suffices hthrows : Throws P (env.lower d t) from hthrows.1 e h
  have part : ∀ s ∈ t.parts, Throws P (env.lowerPart d s) :=
    fun s hs => ⟨fun e he => .inr (.inr ⟨s, hs, he⟩), fun _ _ => trivial⟩
  have own : ∀ {α : Type} {x : Except Error α}, (∀ e, x = .error e → env.Fault t e) →
      Throws P x :=
    fun hx => ⟨fun e he => .inl (hx e he), fun _ _ => trivial⟩
  have hrefuses : ∀ e, env.collaborators.Refuses e → P e := fun e he => .inr (.inl he)
  cases t with
  | literal l => exact own fun e he => .literal he
  | identifier parts => exact own fun e he => .identifier he
  | nested inner => exact throws_part (part _ (by simp)) fun _ => ends_pure trivial
  | binary l op r =>
    refine throws_part (part _ (by simp)) fun a => throws_part (part _ (by simp)) fun b => ?_
    refine ends_ite (fun hop => ?_) fun _ => ends_pure trivial
    refine ends_bind (Q := fun _ => True) ?_ fun _ _ => ends_pure trivial
    exact ⟨fun e he => hrefuses e (.comparison hop he), fun _ _ => trivial⟩
  | unary op operand => exact throws_part (part _ (by simp)) fun _ => ends_pure trivial
  | isNull operand negated => exact throws_part (part _ (by simp)) fun _ => ends_pure trivial
  | call spelling args =>
    refine ends_bind (Q := fun entry =>
      resolve spelling.keyword (spelling.shape args.length) = .ok entry)
      ⟨fun e he => .inl (.call he), fun _ hentry => hentry⟩ fun entry hentry => ?_
    obtain ⟨value, hvalue⟩ := valueOfCall_isOk env hentry
    refine ends_bind (throws_lowerList part) fun _ _ => ?_
    exact ends_bind (ends_eq hvalue) fun _ _ => ends_pure trivial
  | countStar keyword => exact ends_bind (own fun e he => .countStar he) fun _ _ => ends_pure trivial
  | case operand branches otherwise =>
    refine ends_bind (throws_lowerOption fun s hs => part s ?_) fun _ _ => ?_
    · simp_all
    refine ends_bind (throws_lowerBranches hrefuses fun b hb => ?_) fun _ _ => ?_
    · exact ⟨part _ (Tree.mem_parts_case hb).1, part _ (Tree.mem_parts_case hb).2⟩
    refine ends_bind (throws_lowerOption fun s hs => part s ?_) fun _ _ => ends_pure trivial
    simp_all
  | cast operand target =>
    refine throws_part (part _ (by simp)) fun _ => ?_
    exact ends_bind (own fun e he => .cast he) fun _ _ => ends_pure trivial
  | trim spec characters hasFrom source =>
    have hset := throws_lowerOption (o := characters) (d := d) fun s hs => part s (by simp_all)
    obtain ⟨entry, hentry⟩ : ∃ entry,
        resolve "TRIM" (.ofCount (if characters.isSome then 2 else 1)) = .ok entry := by
      cases characters <;> exact ⟨_, rfl⟩
    refine ends_bind (ends_eq hentry) fun _ _ => ?_
    split
    · rename_i hcharacters
      obtain ⟨c, rfl⟩ := Option.isSome_iff_exists.mp hcharacters
      exact ends_throw (.inl .trim)
    · exact ends_bind hset fun _ _ => throws_part (part _ (by simp)) fun _ => ends_pure trivial
    · exact throws_part (part _ (by simp)) fun _ => ends_bind hset fun _ _ => ends_pure trivial
  | extract fieldToken source =>
    refine ends_bind (own fun e he => .extract he) fun field _ => ?_
    exact ends_bind (ends_eq rfl) fun _ _ => throws_part (part _ (by simp)) fun _ => ends_pure trivial
  | substring source start length keywordForm =>
    have hstart := throws_lowerOption (o := start) (d := d) fun s hs => part s (by simp_all)
    have hlength := throws_lowerOption (o := length) (d := d) fun s hs => part s (by simp_all)
    obtain ⟨entry, hentry⟩ : ∃ entry, resolve "SUBSTRING"
        (.ofCount (1 + start.toList.length + length.toList.length)) = .ok entry := by
      cases start <;> cases length <;> exact ⟨_, rfl⟩
    refine ends_ite (fun hbad => ?_) fun _ => ends_bind (ends_eq hentry) fun _ _ => ?_
    · cases keywordForm <;> cases start <;> cases length <;> simp at hbad
      exact ends_throw (.inl .substring)
    · refine throws_part (part _ (by simp)) fun _ => ends_bind hstart fun _ _ => ?_
      exact ends_bind hlength fun _ _ => ends_pure trivial
  | position needle haystack =>
    refine ends_bind (ends_eq rfl) fun _ _ => ?_
    exact throws_part (part _ (by simp)) fun _ => throws_part (part _ (by simp)) fun _ =>
      ends_pure trivial
  | overlay source what start length =>
    have hlength := throws_lowerOption (o := length) (d := d) fun s hs => part s (by simp_all)
    obtain ⟨entry, hentry⟩ : ∃ entry,
        resolve "OVERLAY" (.ofCount (3 + length.toList.length)) = .ok entry := by
      cases length <;> exact ⟨_, rfl⟩
    refine ends_bind (ends_eq hentry) fun _ _ => ?_
    refine throws_part (part _ (by simp)) fun _ => throws_part (part _ (by simp)) fun _ =>
      throws_part (part _ (by simp)) fun _ => ?_
    exact ends_bind hlength fun _ _ => ends_pure trivial
  | convert operand charset target style =>
    have hstyle := throws_lowerOption (o := style) (d := d) fun s hs => part s (by simp_all)
    obtain ⟨entry, hentry⟩ : ∃ entry,
        resolve "CONVERT" (.ofCount (2 + style.toList.length)) = .ok entry := by
      cases style <;> exact ⟨_, rfl⟩
    refine ends_ite (fun hbad => ?_) fun _ => ends_bind (ends_eq hentry) fun _ _ => ?_
    · cases charset <;> cases style <;> simp at hbad
      exact ends_throw (.inl .convert)
    · exact throws_part (part _ (by simp)) fun _ => ends_bind hstyle fun _ _ => ends_pure trivial

/-- Why a tree is not lowered with the standard decisions. -/
theorem lower_error_standard (hstd : env.collaborators = .standard) {t : Tree} {e : Error}
    (h : env.lower d t = .error e) :
    env.Fault t e ∨ ∃ s ∈ t.parts, env.lowerPart d s = .error e := by
  rcases lower_error h with hfault | hrefuses | hpart
  · exact .inl hfault
  · rw [hstd] at hrefuses
    exact absurd hrefuses Collaborators.not_refuses_standard
  · exact .inr hpart

/-! ## Errors of a form -/

theorem temporal_error {α : Type} {typeName text : String} {make : α → Value}
    {read : Except TemporalFault α} {e : Error} (h : temporal typeName text make read = .error e) :
    ∃ fault, e = .type fault := by
  cases read with
  | ok x => cases h
  | error fault =>
    cases h
    exact ⟨_, rfl⟩

theorem resolveType_error {target : CastTarget} {e : Error}
    (h : Collaborators.standard.resolveType target = .error e) : ∃ fault, e = .type fault := by
  cases target with
  | null => cases h
  | named name =>
    change readType name = .error e at h
    unfold readType at h
    split at h
    · cases h
    · cases h
      exact ⟨_, rfl⟩

theorem columnOf_error {parts : List Ident} {e : Error} (h : env.columnOf parts = .error e) :
    parts = [] ∧ e = .invariant .emptyIdentifier := by
  unfold columnOf at h
  split at h
  · rename_i hlast
    cases h
    exact ⟨List.getLast?_eq_none_iff.mp hlast, rfl⟩
  · cases h

/-- A literal is refused for a malformed numeral, or for what its type says of it. -/
theorem literal_error {l : Literal} {e : Error} (h : env.literal l = .error e) :
    (∃ text, l = .number text ∧ Value.ofNumeral? text = none ∧
      e = .invariant (.malformedNumeral text)) ∨ (∃ fault, e = .type fault) ∨
        ∃ target, env.collaborators.resolveType target = .error e := by
  cases l with
  | number text =>
    unfold literal at h
    dsimp only at h
    split at h
    · cases h
    · rename_i hnone
      cases h
      exact .inl ⟨text, rfl, hnone, rfl⟩
  | string s | boolean b | null | interval text => cases h
  | typed typeName text =>
    refine .inr ?_
    simp only [literal, typedLiteral] at h
    split_ifs at h
    · rcases bind_eq_error.mp h with h | ⟨v, -, h⟩
      · exact .inl (temporal_error h)
      · cases h
    · rcases bind_eq_error.mp h with h | ⟨v, -, h⟩
      · exact .inl (temporal_error h)
      · cases h
    · rcases bind_eq_error.mp h with h | ⟨v, -, h⟩
      · exact .inl (temporal_error h)
      · cases h
    · rcases bind_eq_error.mp h with h | ⟨target, -, h⟩
      · exact .inr ⟨_, h⟩
      · cases h

/-- With the standard decisions every type is refused for what its name says. -/
theorem literal_error_standard (hstd : env.collaborators = .standard) {l : Literal} {e : Error}
    (h : env.literal l = .error e) :
    (∃ text, l = .number text ∧ Value.ofNumeral? text = none ∧
      e = .invariant (.malformedNumeral text)) ∨ ∃ fault, e = .type fault := by
  rcases literal_error h with hnumeral | htype | ⟨target, htarget⟩
  · exact .inl hnumeral
  · exact .inr htype
  · rw [hstd] at htarget
    exact .inr (resolveType_error htarget)

theorem fieldOfToken_error {token : String} {e : Error} (h : fieldOfToken token = .error e) :
    e = .invariant (.fieldMarker token) ∨ e = .invariant (.fieldToken token) := by
  unfold fieldOfToken at h
  split at h
  · cases h
    exact .inl rfl
  · dsimp only at h
    split_ifs at h
    · cases h
      exact .inr rfl
    · cases h

/-- No form is too deep by itself. -/
theorem Fault.ne_tooDeep (hstd : env.collaborators = .standard) {t : Tree} {e : Error}
    (h : env.Fault t e) (depth max : Nat) : e ≠ .tooDeep depth max := by
  rintro rfl
  cases h with
  | literal h => rcases literal_error_standard hstd h with ⟨_, _, _, h⟩ | ⟨_, h⟩ <;> cases h
  | identifier h => cases (columnOf_error h).2
  | call h => rcases resolve_error h with h | ⟨_, _, h⟩ <;> cases h
  | countStar h => rcases resolve_error h with h | ⟨_, _, h⟩ <;> cases h
  | cast h =>
    rw [hstd] at h
    obtain ⟨_, h⟩ := resolveType_error h
    cases h
  | extract h => rcases fieldOfToken_error h with h | h <;> cases h

/-! ## Failures at any depth -/

/-- **Induction along failures.** -/
theorem failure_induction (hstd : env.collaborators = .standard) {P : Nat → Tree → Error → Prop}
    (fault : ∀ d t e, env.Fault t e → P d t e)
    (deep : ∀ d t, t.parts ≠ [] → env.config.maxDepth < d + 1 →
      P d t (.tooDeep (d + 1) env.config.maxDepth))
    (part : ∀ d t e, d + 1 ≤ env.config.maxDepth → ∀ s ∈ t.parts, P (d + 1) s e → P d t e)
    {t : Tree} {e : Error}
    (h : env.lower d t = .error e) : P d t e := by
  induction t using Tree.induction generalizing d with
  | step t ih =>
    rcases lower_error_standard hstd h with hfault | ⟨s, hs, he⟩
    · exact fault d t e hfault
    · rcases lowerPart_error.mp he with ⟨hd, rfl⟩ | ⟨hd, he⟩
      · exact deep d t (List.ne_nil_of_mem hs) hd
      · exact part d t e hd s hs (ih s hs he)

end Environment

end SqlNormal
