import SqlNormal.Proofs.Faults

/-!
# Clauses without a normal form

Clauses of expressions and of a projection's items for which trees have no place. Some are refused
wherever they stand. The others are dropped: what is read has the same tree with them and without
them.

* `Clause`, `Clause.isDropped`: the clauses, and those that are dropped;
* `Expr.Has`, `SelectItem.Has`: a clause occurs at some depth;
* `Expr.erased`, `SelectItem.erased`: without the clauses that are dropped;
* `toTree_part`: every part of an expression that has a tree has one itself;
* `Alike`, `alike_toTree`: expressions and their erasures have the same trees;
* **`clauses_of_read`**: what becomes of the clauses of what is read.
-/

namespace SqlNormal.Sql

/-! ## Clauses -/

/-- The clauses that trees have no place for. -/
inductive Clause where
  | starOptions
  | parameters
  | withinGroup
  | nullTreatment
  | filter
  | window
  | argumentClause
  | escape
  | castKind
  | castFormat
  | lastField
  | leadingPrecision
  | fractionPrecision
deriving DecidableEq

/-- The clauses that are dropped and not refused. -/
def Clause.isDropped : Clause → Bool
  | starOptions | parameters | withinGroup | nullTreatment | lastField | leadingPrecision
  | fractionPrecision => true
  | _ => false

/-- A clause of a call beside its arguments. -/
def CallClauses.Has (c : CallClauses) : Clause → Prop
  | .parameters => c.parameters.isSome
  | .withinGroup => c.withinGroup ≠ []
  | .nullTreatment => c.nullTreatment.isSome
  | .filter => c.filter.isSome
  | .window => c.window.isSome
  | _ => False

/-- A clause behind the value of an interval. -/
def IntervalQualifier.Has (q : IntervalQualifier) : Clause → Prop
  | .lastField => q.last.isSome
  | .leadingPrecision => q.leadingPrecision.isSome
  | .fractionPrecision => q.fraction.isSome
  | _ => False

/-- A clause of an expression itself. -/
def Expr.Owns (k : Clause) : Expr → Prop
  | like _ _ _ _ escape => k = .escape ∧ escape.isSome
  | bareCall clauses | queryCall clauses _ => clauses.Has k
  | call clauses _ _ inner => clauses.Has k ∨ k = .argumentClause ∧ inner ≠ []
  | cast kind _ _ format =>
    k = .castKind ∧ (kind = .tryCast ∨ kind = .safeCast) ∨ k = .castFormat ∧ format.isSome
  | interval _ qualifier => qualifier.Has k
  | _ => False

/-- A clause occurs in an expression, at some depth. -/
inductive Expr.Has (k : Clause) : Expr → Prop
  | own {e : Expr} : e.Owns k → Has k e
  | part {s e : Expr} : s ∈ e.parts → Has k s → Has k e

/-- A clause occurs in an item of a projection. -/
def SelectItem.Has (k : Clause) : SelectItem → Prop
  | star options | tableStar _ options => k = .starOptions ∧ options ≠ ""
  | expr e _ => e.Has k

/-! ## Erasure -/

/-- The clauses of a call without those that are dropped. -/
def CallClauses.erased (c : CallClauses) : CallClauses :=
  { c with parameters := none, withinGroup := [], nullTreatment := none }

/-- What stands behind the value of an interval, without the clauses that are dropped. -/
def IntervalQualifier.erased (q : IntervalQualifier) : IntervalQualifier :=
  ⟨q.leading, none, none, none⟩

/-- An expression without the clauses that are dropped. -/
def Expr.erased : Expr → Expr
  | constant c => constant c
  | name ident => name ident
  | path parts => path parts
  | nested inner => nested (erased inner)
  | binary left op right => binary (erased left) op (erased right)
  | unary op operand => unary op (erased operand)
  | isNull operand negated => isNull (erased operand) negated
  | like operand negated any pattern escape =>
    like (erased operand) negated any (erased pattern) escape
  | bareCall clauses => bareCall clauses.erased
  | queryCall clauses query => queryCall clauses.erased query
  | call clauses quantifier args inner =>
    call clauses.erased quantifier (erasedArguments args) inner
  | case operand branches otherwise =>
    case (erasedOption operand) (erasedBranches branches) (erasedOption otherwise)
  | cast kind operand type format => cast kind (erased operand) type format
  | trim spec source what none => trim spec (erased source) (erasedOption what) none
  | trim spec source what (some characters) =>
    trim spec (erased source) (erasedOption what) (some (erasedList characters))
  | extract field source comma => extract field (erased source) comma
  | substring source start length comma =>
    substring (erased source) (erasedOption start) (erasedOption length) comma
  | position needle haystack => position (erased needle) (erased haystack)
  | overlay source what start length =>
    overlay (erased source) (erased what) (erased start) (erasedOption length)
  | convert isTry operand type charset => convert isTry (erased operand) type charset
  | rounding keyword operand scale => rounding keyword (erased operand) scale
  | typed type s => typed type s
  | interval value qualifier => interval (erased value) qualifier.erased
  | other shown => other shown
termination_by structural e => e
where
  /-- Expressions in a row without those clauses. -/
  erasedList : List Expr → List Expr
    | [] => []
    | e :: es => erased e :: erasedList es
  termination_by structural es => es
  /-- Arguments without those clauses. -/
  erasedArguments : List (Argument Expr) → List (Argument Expr)
    | [] => []
    | .expr e :: args => .expr (erased e) :: erasedArguments args
    | .star :: args => .star :: erasedArguments args
    | .other shown :: args => .other shown :: erasedArguments args
  termination_by structural args => args
  /-- The branches of a CASE without those clauses. -/
  erasedBranches : List (Expr × Expr) → List (Expr × Expr)
    | [] => []
    | (condition, result) :: rest => (erased condition, erased result) :: erasedBranches rest
  termination_by structural bs => bs
  /-- An expression that may be absent, without those clauses. -/
  erasedOption : Option Expr → Option Expr
    | none => none
    | some e => some (erased e)
  termination_by structural e => e

/-- An item of a projection without the clauses that are dropped. -/
def SelectItem.erased : SelectItem → SelectItem
  | star _ => star ""
  | tableStar table _ => tableStar table ""
  | expr e name => expr e.erased name

/-! ### What is left -/

theorem CallClauses.has_erased {c : CallClauses} {k : Clause} :
    c.erased.Has k ↔ c.Has k ∧ k.isDropped = false := by
  cases k <;> simp [erased, Has, Clause.isDropped]

theorem IntervalQualifier.has_erased {q : IntervalQualifier} {k : Clause} :
    q.erased.Has k ↔ q.Has k ∧ k.isDropped = false := by
  cases k <;> simp [erased, Has, Clause.isDropped]

theorem Expr.owns_erased {e : Expr} {k : Clause} :
    e.erased.Owns k ↔ e.Owns k ∧ k.isDropped = false := by
  cases e with
  | bareCall clauses | queryCall clauses query => exact CallClauses.has_erased
  | interval value qualifier => exact IntervalQualifier.has_erased
  | call clauses quantifier args inner =>
    simp only [erased, Owns, CallClauses.has_erased]
    cases k <;> simp [Clause.isDropped]
  | like operand negated any pattern escape | cast kind operand type format =>
    cases k <;> simp [erased, Owns, Clause.isDropped]
  | trim spec source what characters => cases characters <;> simp [erased, Owns]
  | _ => simp [erased, Owns]

theorem Argument.exprs_erased (args : List (Argument Expr)) :
    exprs (Expr.erased.erasedArguments args) = (exprs args).map Expr.erased := by
  induction args with
  | nil => rfl
  | cons a args ih => cases a <;> simpa [exprs, Expr.erased.erasedArguments] using ih

namespace Expr

theorem erasedList_eq (es : List Expr) : erased.erasedList es = es.map erased := by
  induction es with
  | nil => rfl
  | cons e es ih => rw [erased.erasedList, ih, List.map_cons]

theorem erasedOption_eq (e : Option Expr) : erased.erasedOption e = e.map erased := by
  cases e <;> rfl

theorem erasedBranches_eq (bs : List (Expr × Expr)) :
    erased.erasedBranches bs = bs.map fun b => (b.1.erased, b.2.erased) := by
  induction bs with
  | nil => rfl
  | cons b bs ih => rw [erased.erasedBranches, ih, List.map_cons]

theorem parts_erased (e : Expr) : e.erased.parts = e.parts.map erased := by
  cases e with
  | call clauses quantifier args inner => exact Argument.exprs_erased args
  | case operand branches otherwise =>
    simp only [erased, parts, erasedOption_eq, erasedBranches_eq, List.map_append,
      List.map_flatMap, List.flatMap_map, Option.toList_map, List.map_cons, List.map_nil]
  | trim spec source what characters =>
    cases characters <;> simp [erased, erasedOption_eq, erasedList_eq, Option.toList_map]
  | substring source start length comma | overlay source what start length =>
    simp [erased, erasedOption_eq, Option.toList_map]
  | _ => simp [erased]

/-- What is left of the clauses of an expression is what is not dropped. -/
theorem has_erased {e : Expr} {k : Clause} : e.erased.Has k ↔ e.Has k ∧ k.isDropped = false := by
  constructor
  · intro h
    generalize he : e.erased = x at h
    induction h generalizing e with
    | own hk =>
      subst he
      obtain ⟨hk, hdropped⟩ := owns_erased.mp hk
      exact ⟨.own hk, hdropped⟩
    | part hs _ ih =>
      subst he
      rw [parts_erased] at hs
      obtain ⟨s, hmem, rfl⟩ := List.mem_map.mp hs
      obtain ⟨hk, hdropped⟩ := ih rfl
      exact ⟨.part hmem hk, hdropped⟩
  · rintro ⟨h, hdropped⟩
    induction h with
    | own hk => exact .own (owns_erased.mpr ⟨hk, hdropped⟩)
    | part hs _ ih =>
      refine .part ?_ ih
      rw [parts_erased]
      exact List.mem_map_of_mem hs

end Expr

theorem SelectItem.has_erased {item : SelectItem} {k : Clause} :
    item.erased.Has k ↔ item.Has k ∧ k.isDropped = false := by
  cases item with
  | star options | tableStar table options =>
    cases k <;> simp [erased, Has, Clause.isDropped]
  | expr e name => exact Expr.has_erased

/-! ## Refused clauses -/

section Refused

variable {source : String}

theorem mem_of_treeArguments {keyword : String} {start : Location} {args : List (Argument Expr)}
    {ts : List Tree} (h : Expr.toTree.treeArguments source keyword start args = .ok ts) :
    ∀ e ∈ Argument.exprs args, ∃ t, e.toTree source = .ok t := by
  induction args generalizing ts with
  | nil => nofun
  | cons a args ih =>
    cases a with
    | expr e =>
      simp only [Expr.toTree.treeArguments, bind_eq_ok] at h
      obtain ⟨t, ht, ts', hts, -⟩ := h
      have hcons : Argument.exprs (.expr e :: args) = e :: Argument.exprs args := rfl
      rw [hcons, List.forall_mem_cons]
      exact ⟨⟨t, ht⟩, ih hts⟩
    | star | other _ => cases h

theorem mem_of_treeOption {o : Option Expr} {t : Option Tree}
    (h : Expr.toTree.treeOption source o = .ok t) : ∀ e ∈ o, ∃ t, e.toTree source = .ok t := by
  cases o with
  | none => nofun
  | some e =>
    simp only [Expr.toTree.treeOption, bind_eq_ok] at h
    obtain ⟨t, ht, -⟩ := h
    rintro _ ⟨⟩
    exact ⟨t, ht⟩

theorem mem_of_treeBranches {bs : List (Expr × Expr)} {ts : List (Tree × Tree)}
    (h : Expr.toTree.treeBranches source bs = .ok ts) :
    ∀ b ∈ bs, (∃ t, b.1.toTree source = .ok t) ∧ ∃ t, b.2.toTree source = .ok t := by
  induction bs generalizing ts with
  | nil => nofun
  | cons b bs ih =>
    simp only [Expr.toTree.treeBranches, bind_eq_ok] at h
    obtain ⟨c, hc, r, hr, ts', hts, -⟩ := h
    rw [List.forall_mem_cons]
    exact ⟨⟨⟨c, hc⟩, ⟨r, hr⟩⟩, ih hts⟩

/-- **Every part of an expression that has a tree has one itself**, or it is a constant. -/
theorem toTree_part {e s : Expr} {t : Tree} (hproper : e.Proper) (h : e.toTree source = .ok t)
    (hs : s ∈ e.parts) : (∃ t, s.toTree source = .ok t) ∨ ∃ c, s = .constant c := by
  cases e with
  | constant _ | name _ | path _ | bareCall _ | queryCall _ _ | typed _ _ | other _ => cases hs
  | nested inner | isNull inner _ | extract _ inner _ =>
    obtain rfl := List.mem_singleton.mp hs
    obtain ⟨t, ht, -⟩ := bind_eq_ok.mp h
    exact .inl ⟨t, ht⟩
  | unary op operand =>
    obtain rfl := List.mem_singleton.mp hs
    obtain ⟨_, -, h⟩ := bind_eq_ok.mp h
    obtain ⟨t, ht, -⟩ := bind_eq_ok.mp h
    exact .inl ⟨t, ht⟩
  | cast kind operand type format =>
    obtain rfl := List.mem_singleton.mp hs
    obtain ⟨_, -, h⟩ := bind_eq_ok.mp h
    obtain ⟨t, ht, -⟩ := bind_eq_ok.mp h
    exact .inl ⟨t, ht⟩
  | rounding keyword operand scale =>
    obtain rfl := List.mem_singleton.mp hs
    obtain ⟨t, ht, -⟩ := bind_eq_ok.mp h
    exact .inl ⟨t, ht⟩
  | interval value qualifier =>
    obtain rfl := List.mem_singleton.mp hs
    obtain ⟨_, hvalue, -⟩ := bind_eq_ok.mp h
    unfold intervalText at hvalue
    split at hvalue
    · exact .inr ⟨_, rfl⟩
    · exact .inr ⟨_, rfl⟩
    · cases hvalue
  | binary left op right =>
    simp only [Expr.toTree, bind_eq_ok] at h
    obtain ⟨l, hl, _, -, r, hr, -⟩ := h
    rcases List.mem_pair.mp hs with rfl | rfl
    · exact .inl ⟨l, hl⟩
    · exact .inl ⟨r, hr⟩
  | position needle haystack =>
    simp only [Expr.toTree, bind_eq_ok] at h
    obtain ⟨n, hn, r, hr, -⟩ := h
    rcases List.mem_pair.mp hs with rfl | rfl
    · exact .inl ⟨n, hn⟩
    · exact .inl ⟨r, hr⟩
  | like operand negated any pattern escape =>
    simp only [Expr.toTree, throw_bind, guard_eq_ok, bind_eq_ok] at h
    obtain ⟨-, l, hl, r, hr, -⟩ := h
    rcases List.mem_pair.mp hs with rfl | rfl
    · exact .inl ⟨l, hl⟩
    · exact .inl ⟨r, hr⟩
  | call clauses quantifier args inner =>
    simp only [Expr.toTree, throw_bind, guard_eq_ok, bind_eq_ok] at h
    obtain ⟨keyword, -, -, h⟩ := h
    split at h
    · cases hs
    · obtain ⟨ts, hts, -⟩ := bind_eq_ok.mp h
      exact .inl (mem_of_treeArguments hts s hs)
  | case operand branches otherwise =>
    simp only [Expr.toTree, throw_bind, guard_eq_ok, bind_eq_ok] at h
    obtain ⟨-, o, ho, bs, hbs, e, he, -⟩ := h
    simp only [Expr.parts, List.mem_append, List.mem_flatMap, Option.mem_toList, List.mem_cons,
      List.not_mem_nil, or_false] at hs
    rcases hs with (hs | ⟨b, hb, rfl | rfl⟩) | hs
    · exact .inl (mem_of_treeOption ho s hs)
    · exact .inl (mem_of_treeBranches hbs b hb).1
    · exact .inl (mem_of_treeBranches hbs b hb).2
    · exact .inl (mem_of_treeOption he s hs)
  | trim spec operand what characters =>
    simp only [Expr.toTree, bind_eq_ok] at h
    obtain ⟨t, ht, h⟩ := h
    simp only [Expr.parts, List.cons_append, List.mem_cons, List.mem_append,
      Option.mem_toList] at hs
    rcases hs with rfl | hs
    · exact .inl ⟨t, ht⟩
    · cases what with
      | some w =>
        obtain ⟨r, hr, -⟩ := bind_eq_ok.mp h
        have hnone : characters = none := by
          cases characters with
          | none => rfl
          | some c => cases (hproper rfl).2
        obtain rfl : w = s := by simpa [hnone] using hs
        exact .inl ⟨r, hr⟩
      | none =>
        rcases characters with _ | _ | ⟨c, _ | ⟨_, _⟩⟩
        · simp at hs
        · simp at hs
        · obtain ⟨r, hr, -⟩ := bind_eq_ok.mp h
          obtain rfl : s = c := by simpa using hs
          exact .inl ⟨r, hr⟩
        · cases h
  | substring operand start length comma =>
    simp only [Expr.toTree, bind_eq_ok] at h
    obtain ⟨t, ht, b, hb, l, hl, -⟩ := h
    simp only [Expr.parts, List.cons_append, List.mem_cons, List.mem_append,
      Option.mem_toList] at hs
    rcases hs with rfl | hs | hs
    · exact .inl ⟨t, ht⟩
    · exact .inl (mem_of_treeOption hb s hs)
    · exact .inl (mem_of_treeOption hl s hs)
  | overlay operand what start length =>
    simp only [Expr.toTree, bind_eq_ok] at h
    obtain ⟨t, ht, w, hw, b, hb, l, hl, -⟩ := h
    simp only [Expr.parts, List.cons_append, List.nil_append, List.mem_cons,
      Option.mem_toList] at hs
    rcases hs with rfl | rfl | rfl | hs
    · exact .inl ⟨t, ht⟩
    · exact .inl ⟨w, hw⟩
    · exact .inl ⟨b, hb⟩
    · exact .inl (mem_of_treeOption hl s hs)
  | convert isTry operand type charset =>
    obtain rfl := List.mem_singleton.mp hs
    simp only [Expr.toTree, throw_bind, guard_eq_ok, bind_eq_ok] at h
    obtain ⟨-, _, -, t, ht, -⟩ := h
    exact .inl ⟨t, ht⟩

theorem isDropped_of_callKeyword {c : CallClauses} {keyword : String} {k : Clause}
    (h : callKeyword c = .ok keyword) (hk : c.Has k) : k.isDropped = true := by
  unfold callKeyword at h
  dsimp only at h
  split_ifs at h with _ hwindow hfilter
  cases k with
  | filter => exact absurd hk hfilter
  | window => exact absurd hk hwindow
  | parameters | withinGroup | nullTreatment => rfl
  | _ => cases hk

/-- An expression that has a tree has no clause of its own but those that are dropped. -/
theorem isDropped_of_owns {e : Expr} {t : Tree} {k : Clause} (h : e.toTree source = .ok t)
    (hk : e.Owns k) : k.isDropped = true := by
  cases e with
  | like operand negated any pattern escape =>
    simp only [Expr.toTree, throw_bind, guard_eq_ok] at h
    exact absurd hk.2 h.1
  | bareCall clauses =>
    obtain ⟨keyword, hkeyword, -⟩ := bind_eq_ok.mp h
    exact isDropped_of_callKeyword hkeyword hk
  | queryCall clauses query =>
    obtain ⟨_, -, h⟩ := bind_eq_ok.mp h
    cases h
  | call clauses quantifier args inner =>
    simp only [Expr.toTree, throw_bind, guard_eq_ok, bind_eq_ok] at h
    obtain ⟨keyword, hkeyword, hinner, -⟩ := h
    rcases hk with hk | ⟨-, hk⟩
    · exact isDropped_of_callKeyword hkeyword hk
    · exact absurd (by simpa using hinner) hk
  | cast kind operand type format =>
    obtain ⟨_, hcast, -⟩ := bind_eq_ok.mp h
    rcases hk with ⟨-, rfl | rfl⟩ | ⟨-, hformat⟩
    · cases hcast
    · cases hcast
    · obtain ⟨f, rfl⟩ := Option.isSome_iff_exists.mp hformat
      cases kind <;> cases hcast
  | interval value qualifier =>
    cases k with
    | lastField | leadingPrecision | fractionPrecision => rfl
    | _ => cases hk
  | _ => cases hk

/-- **A formed expression that has a tree has no clause, at any depth, but those that are
dropped.** -/
theorem isDropped_of_has {e : Expr} (he : e.Formed) {t : Tree} {k : Clause}
    (h : e.toTree source = .ok t) (hk : e.Has k) : k.isDropped = true := by
  induction hk generalizing t with
  | own hk => exact isDropped_of_owns h hk
  | @part s e hs hk ih =>
    obtain ⟨hproper, hparts⟩ := he
    rcases toTree_part hproper h hs with ⟨t, ht⟩ | ⟨c, rfl⟩
    · exact ih (hparts s hs) ht
    · cases hk with
      | own hk => cases hk
      | part hs _ => cases hs

end Refused

/-! ## Dropped clauses -/

section Dropped

variable {source : String}

theorem alike_intervalText (value : Expr) : Alike (intervalText value) (intervalText value.erased) := by
  cases value with
  | constant c => exact alike_refl _
  | trim spec operand what characters => cases characters <;> exact alike_throw _ _
  | _ => exact alike_throw _ _

theorem erasedArguments_eq_star {args : List (Argument Expr)} :
    Expr.erased.erasedArguments args = [.star] ↔ args = [.star] := by
  rcases args with _ | ⟨_ | _ | _, _ | ⟨_ | _ | _, _⟩⟩ <;> simp [Expr.erased.erasedArguments]

theorem alike_treeArguments (keyword : String) (start : Location) {args : List (Argument Expr)}
    (h : ∀ e ∈ Argument.exprs args, Alike (e.toTree source) (e.erased.toTree source)) :
    Alike (Expr.toTree.treeArguments source keyword start args)
      (Expr.toTree.treeArguments source keyword start (Expr.erased.erasedArguments args)) := by
  induction args with
  | nil => exact alike_refl _
  | cons a args ih =>
    cases a with
    | expr e =>
      have hcons : Argument.exprs (.expr e :: args) = e :: Argument.exprs args := rfl
      rw [hcons, List.forall_mem_cons] at h
      exact alike_bind h.1 fun t => alike_bind (ih h.2) fun ts => alike_refl _
    | star | other _ => exact alike_throw _ _

theorem alike_treeOption {o : Option Expr}
    (h : ∀ e ∈ o, Alike (e.toTree source) (e.erased.toTree source)) :
    Alike (Expr.toTree.treeOption source o)
      (Expr.toTree.treeOption source (Expr.erased.erasedOption o)) := by
  cases o with
  | none => exact alike_refl _
  | some e => exact alike_bind (h e rfl) fun t => alike_refl _

theorem alike_treeBranches {bs : List (Expr × Expr)}
    (h : ∀ b ∈ bs, Alike (b.1.toTree source) (b.1.erased.toTree source) ∧
      Alike (b.2.toTree source) (b.2.erased.toTree source)) :
    Alike (Expr.toTree.treeBranches source bs)
      (Expr.toTree.treeBranches source (Expr.erased.erasedBranches bs)) := by
  induction bs with
  | nil => exact alike_refl _
  | cons b bs ih =>
    rw [List.forall_mem_cons] at h
    obtain ⟨⟨hc, hr⟩, hbs⟩ := h
    exact alike_bind hc fun c => alike_bind hr fun r => alike_bind (ih hbs) fun ts => alike_refl _

/-- **A formed expression and its erasure have the same tree**, or none both. -/
theorem alike_toTree {e : Expr} (he : e.Formed) :
    Alike (e.toTree source) (e.erased.toTree source) := by
  induction he with
  | @intro e _ _ ih =>
    cases e with
    | constant _ | name _ | path _ | bareCall _ | typed _ _ => exact alike_refl _
    | other _ => exact alike_refl _
    | queryCall clauses query => exact alike_refl _
    | nested inner | isNull inner _ | extract _ inner _ =>
      exact alike_bind (ih inner (by simp)) fun t => alike_refl _
    | binary left op right =>
      exact alike_bind (ih left (by simp)) fun l => alike_bind (alike_refl _) fun o =>
        alike_bind (ih right (by simp)) fun r => alike_refl _
    | unary op operand =>
      exact alike_bind (alike_refl _) fun o => alike_bind (ih operand (by simp)) fun t =>
        alike_refl _
    | like operand negated any pattern escape =>
      exact alike_ite (alike_refl _) <| alike_bind (ih operand (by simp)) fun l =>
        alike_bind (ih pattern (by simp)) fun r => alike_refl _
    | call clauses quantifier args inner =>
      have hargs (keyword : String) := alike_treeArguments keyword clauses.start ih
      refine alike_bind (alike_refl _) fun keyword => alike_ite (alike_refl _) ?_
      by_cases hstar : args = [.star]
      · subst hstar
        exact alike_refl _
      · -- neither match takes its first case
        have hstar' := mt erasedArguments_eq_star.mp hstar
        split
        · exact absurd rfl hstar
        · exact alike_bind (hargs keyword) fun ts => alike_refl _
    | case operand branches otherwise =>
      have hoperand := alike_treeOption (o := operand) fun s hs => ih s (by simp_all)
      have hotherwise := alike_treeOption (o := otherwise) fun s hs => ih s (by simp_all)
      have hbranches : Alike (Expr.toTree.treeBranches source branches)
          (Expr.toTree.treeBranches source (Expr.erased.erasedBranches branches)) :=
        alike_treeBranches fun b hb => ⟨ih b.1 (by simp; grind), ih b.2 (by simp; grind)⟩
      have hempty : (Expr.erased.erasedBranches branches).isEmpty = branches.isEmpty := by
        cases branches <;> rfl
      simp only [Expr.erased, Expr.toTree, hempty]
      exact alike_ite (alike_refl _) <| alike_bind hoperand fun o => alike_bind hbranches fun bs =>
        alike_bind hotherwise fun e => alike_refl _
    | cast kind operand type format =>
      exact alike_bind (alike_refl _) fun _ => alike_bind (ih operand (by simp)) fun t =>
        alike_refl _
    | trim spec operand what characters =>
      cases what with
      | some w =>
        cases characters <;>
          exact alike_bind (ih operand (by simp)) fun t => alike_bind (ih w (by simp)) fun r =>
            alike_refl _
      | none =>
        rcases characters with _ | _ | ⟨c, _ | ⟨_, _⟩⟩
        · exact alike_bind (ih operand (by simp)) fun t => alike_refl _
        · exact alike_bind (ih operand (by simp)) fun t => alike_refl _
        · exact alike_bind (ih operand (by simp)) fun t => alike_bind (ih c (by simp)) fun r =>
            alike_refl _
        · exact alike_bind (ih operand (by simp)) fun t => alike_throw _ _
    | substring operand start length comma =>
      have hstart := alike_treeOption (o := start) fun s hs => ih s (by simp_all)
      have hlength := alike_treeOption (o := length) fun s hs => ih s (by simp_all)
      exact alike_bind (ih operand (by simp)) fun t => alike_bind hstart fun b =>
        alike_bind hlength fun l => alike_refl _
    | position needle haystack =>
      exact alike_bind (ih needle (by simp)) fun n => alike_bind (ih haystack (by simp)) fun h =>
        alike_refl _
    | overlay operand what start length =>
      have hlength := alike_treeOption (o := length) fun s hs => ih s (by simp_all)
      exact alike_bind (ih operand (by simp)) fun t => alike_bind (ih what (by simp)) fun w =>
        alike_bind (ih start (by simp)) fun b => alike_bind hlength fun l => alike_refl _
    | convert isTry operand type charset =>
      exact alike_ite (alike_refl _) <| alike_bind (alike_refl _) fun p =>
        alike_bind (ih operand (by simp)) fun t => alike_refl _
    | rounding keyword operand scale =>
      exact alike_bind (ih operand (by simp)) fun t => alike_refl _
    | interval value qualifier =>
      exact alike_bind (alike_intervalText value) fun s => alike_refl _

end Dropped

/-! ## Items and texts -/

theorem isDropped_of_item {source : String} {item : SelectItem} {entry : SelectEntry} {k : Clause}
    (hitem : item.Formed) (h : item.toEntry source = .ok entry) (hk : item.Has k) :
    k.isDropped = true := by
  cases item with
  | star options | tableStar table options =>
    obtain ⟨rfl, -⟩ := hk
    rfl
  | expr e name =>
    obtain ⟨t, ht, -⟩ := bind_eq_ok.mp h
    exact isDropped_of_has hitem ht hk

theorem alike_toEntry {source : String} {item : SelectItem} (hitem : item.Formed) :
    Alike (item.toEntry source) (item.erased.toEntry source) := by
  cases item with
  | star options | tableStar table options => exact alike_refl _
  | expr e name => exact alike_bind (alike_toTree hitem) fun t => alike_refl _

/-- What succeeds only with clauses that are dropped fails, for any other one, with an error of the
input. -/
theorem error_of_not_dropped {α : Type} {x : Except Error α} {Q : α → Prop} (hx : Blameless Q x)
    {k : Clause} (hk : k.isDropped = false) (hok : ∀ a, x = .ok a → k.isDropped = true) :
    ∃ e, x = .error e ∧ e.isProgramming = false := by
  cases h : x with
  | ok a => exact absurd (hok a h) (by simp [hk])
  | error e => exact ⟨e, rfl, hx.1 e h⟩

/-- **What becomes of the clauses of what is read.** With a clause that is not dropped, an item of a
projection and an expression are refused, at whatever depth it stands, and no fault of the program
is to blame. The clauses that are dropped leave no trace: without them the item and the expression
give the same. -/
theorem clauses_of_read (budget : Nat) (sql : String) :
    (∀ statements items text, readStatements budget sql = .ok statements →
      .query ⟨.select items, text⟩ ∈ statements → ∀ item ∈ items,
        (∀ k, item.Has k → k.isDropped = false →
          ∃ e, item.toEntry sql = .error e ∧ e.isProgramming = false) ∧
        (∀ k, item.erased.Has k ↔ item.Has k ∧ k.isDropped = false) ∧
        ∀ entry, item.toEntry sql = .ok entry ↔ item.erased.toEntry sql = .ok entry) ∧
    ∀ e rest, readExpr budget sql = .ok (e, rest) →
      (∀ k, e.Has k → k.isDropped = false →
        ∃ err, e.toTree sql = .error err ∧ err.isProgramming = false) ∧
      (∀ k, e.erased.Has k ↔ e.Has k ∧ k.isDropped = false) ∧
      ∀ t, e.toTree sql = .ok t ↔ e.erased.toTree sql = .ok t := by
  refine ⟨fun statements items text h hquery item hitem => ?_, fun e rest h => ?_⟩
  · have hformed : item.Formed := formed_of_readStatements h _ hquery _ rfl _ rfl item hitem
    refine ⟨fun k hk hdropped => ?_, fun k => SelectItem.has_erased, alike_toEntry hformed⟩
    exact error_of_not_dropped (blameless_toEntry hformed) hdropped fun entry hentry =>
      isDropped_of_item hformed hentry hk
  · have hformed := formed_of_readExpr h
    refine ⟨fun k hk hdropped => ?_, fun k => Expr.has_erased, alike_toTree hformed⟩
    exact error_of_not_dropped (blameless_toTree hformed) hdropped fun t ht =>
      isDropped_of_has hformed ht hk

/-- A projection of all columns but one. -/
def starText : String :=
  "SELECT * EXCEPT (a) FROM t"

/-- What was read is one query, of all columns with these options. -/
def isStarQuery (options : String) : Except Refusal (List Statement) → Bool
  | .ok [.query ⟨.select [.star found], _⟩] => found == options
  | _ => false

theorem read_starText : ∃ text, readStatements 66 starText =
    .ok [.query ⟨.select [.star " EXCEPT (a)"], text⟩] := by
  have h : isStarQuery " EXCEPT (a)" (readStatements 66 starText) = true := by
    decide +kernel
  unfold isStarQuery at h
  split at h
  · rename_i options text hread
    rw [hread, eq_of_beq h]
    exact ⟨text, rfl⟩
  · cases h

/-- The exception of the column is lost. -/
theorem clauses_of_starText : ∃ statements items text item,
    readStatements 66 starText = .ok statements ∧
    .query ⟨.select items, text⟩ ∈ statements ∧ item ∈ items ∧ item.Has .starOptions ∧
    ¬item.erased.Has .starOptions ∧
    ∀ entry, item.toEntry starText = .ok entry ↔ item.erased.toEntry starText = .ok entry := by
  obtain ⟨text, hread⟩ := read_starText
  have hhas : (SelectItem.star " EXCEPT (a)").Has .starOptions := ⟨rfl, by decide⟩
  obtain ⟨-, herased, hsame⟩ := (clauses_of_read 66 starText).1 _ _ text hread
    (List.mem_singleton_self _) _ (List.mem_singleton_self _)
  refine ⟨_, _, text, _, hread, List.mem_singleton_self _, List.mem_singleton_self _, hhas, ?_,
    hsame⟩
  rw [herased]
  exact fun h => Bool.noConfusion h.2

/-- Not every clause makes a difference where it is not refused. -/
theorem starOptions_makes_no_difference :
    ¬ ∀ (budget : Nat) (sql : String) (statements : List Statement) (items : List SelectItem)
      (text : String) (item : SelectItem) (k : Clause),
      readStatements budget sql = .ok statements → .query ⟨.select items, text⟩ ∈ statements →
      item ∈ items → item.Has k →
      ∀ entry, item.toEntry sql = .ok entry → item.erased.toEntry sql ≠ .ok entry := by
  intro h
  obtain ⟨text, hread⟩ := read_starText
  have hhas : (SelectItem.star " EXCEPT (a)").Has .starOptions := ⟨rfl, by decide⟩
  exact h 66 starText _ _ text _ .starOptions hread (List.mem_singleton_self _)
    (List.mem_singleton_self _) hhas .wildcard rfl rfl

end SqlNormal.Sql
