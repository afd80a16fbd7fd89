import SqlNormal.Proofs.Surroundings

/-!
# Simple and searched forms of a CASE

A simple CASE compares one operand with the value of each branch. It abbreviates the searched CASE
in which every branch writes the comparison out, an operator on either side kept in parentheses.

* `Tree.isOperation`, `Tree.wrapped`: the operands that get parentheses;
* `searchedBranches`: the branches with their comparisons written out;
* `Node.withoutRawTexts`: a node with its texts forgotten;
* `Environment.map_bind_wrapped`: parentheses that are written and those that a CASE puts;
* `Environment.map_lowerBranches_searched`: the branches beside each other;
* `Environment.results_of_bind`: what the branches of a CASE give;
* **`bind_simpleCase`**: both forms beside each other.
-/

namespace SqlNormal

/-! ## The searched form -/

/-- The tree is that of an operator or a test, whatever parentheses stand around it. -/
def Tree.isOperation : Tree → Bool
  | nested inner => isOperation inner
  | binary _ _ _ | unary _ _ | isNull _ _ => true
  | _ => false

/-- An operand of a comparison: an operator gets parentheses. -/
def Tree.wrapped (t : Tree) : Tree :=
  if t.isOperation then .nested t else t

/-- The branches of a simple CASE with their comparisons written out. -/
def searchedBranches (operand : Tree) (branches : List (Tree × Tree)) : List (Tree × Tree) :=
  branches.map fun b => (.binary operand.wrapped .eq b.1.wrapped, b.2)

/-- The node without its texts. -/
def Node.withoutRawTexts : Node → Node :=
  Node.seen false id

theorem Node.toSql_withoutRawTexts (n : Node) : n.withoutRawTexts.toSql = n.toSql := by
  induction n using Node.induction with
  | step n ih =>
    have hlabels (l : Labels) : (l.seen false).parenthesized = l.parenthesized := rfl
    have hplaced (c : Node) (op : Operator) (last : Bool) (text : String) :
        placed op last (c.seen false id) text = placed op last c text := by
      cases c <;> rfl
    rw [withoutRawTexts, seen_eq]
    exact toSql_rebuild hlabels ih fun c _ => hplaced c

/-! ### Levels -/

theorem Tree.height_le_wrapped (t : Tree) : t.height ≤ t.wrapped.height := by
  unfold wrapped
  split_ifs
  · rw [height]
    omega
  · exact Nat.le_refl _

/-- What stands in the searched form is within a bound for all of it. -/
theorem height_of_searched {operand : Tree} {branches : List (Tree × Tree)}
    {otherwise : Option Tree} {m : Nat}
    (h : (Tree.case none (searchedBranches operand branches) otherwise).height ≤ m) :
    (∀ b ∈ branches, operand.wrapped.height + 2 ≤ m ∧ b.1.wrapped.height + 2 ≤ m ∧
      b.2.height + 1 ≤ m) ∧ ∀ e ∈ otherwise, e.height + 1 ≤ m := by
  obtain ⟨m, rfl⟩ : ∃ k, m = k + 1 := by
    have hpos := (Tree.case none (searchedBranches operand branches) otherwise).height_pos
    exact ⟨m - 1, by omega⟩
  have hparts := Tree.height_le_iff.mp h
  refine ⟨fun b hb => ?_, fun e he => ?_⟩
  · have hmem : (Tree.binary operand.wrapped .eq b.1.wrapped, b.2) ∈
        searchedBranches operand branches := List.mem_map.mpr ⟨b, hb, rfl⟩
    have hcase := @Tree.mem_parts_case none otherwise _ _ hmem
    have hcondition : (Tree.binary operand.wrapped .eq b.1.wrapped).height ≤ m :=
      hparts _ hcase.1
    have hresult : b.2.height ≤ m := hparts _ hcase.2
    rw [Tree.height] at hcondition
    omega
  · have hotherwise : e.height ≤ m := hparts e (by simp [Option.mem_def.mp he])
    omega

namespace Environment

variable {env : Environment}

/-! ## Operators -/

variable (hstd : env.collaborators = .standard)
include hstd

/-- An operator or a test is lowered to an operation, and nothing else is. -/
theorem isOperation_of_lower {d : Nat} {t : Tree} {n : Node} (h : env.lower d t = .ok n) :
    n.isOperation = t.isOperation := by
  refine lower_induction (P := fun _ t n => n.isOperation = t.isOperation) hstd ?_ h
  intro d t n hstep
  cases hstep with
  | literal h =>
    obtain ⟨v, -, -, ⟨labels, rfl⟩ | ⟨labels, target, rfl⟩⟩ := forms_of_literal h
    · rfl
    · rfl
  | identifier h =>
    obtain ⟨labels, own, -, rfl⟩ := column_of_columnOf h
    rfl
  | @nested inner n h =>
    have hinner : n.isOperation = inner.isOperation := h.2
    rw [Tree.isOperation, ← hinner]
    cases n <;> rfl
  | @call spelling args entry params value hentry hparams hvalue =>
    unfold spelledCall
    split_ifs <;> rfl
  | _ => rfl

/-! ## Comparisons -/

/-- A part within the bound is lowered like a whole tree. -/
theorem lowerPart_eq_bind {t : Tree} (h : t.height + 1 ≤ env.config.maxDepth) :
    env.lowerPart 1 t = env.bind t := by
  have hpos := t.height_pos
  have hdescend : env.descend 1 = .ok 2 := if_pos (by omega)
  rw [lowerPart, hdescend]
  exact lower_level hstd (by omega) (by omega)

/-- Parentheses that are written and those that a CASE puts look the same. -/
theorem map_bind_wrapped {t : Tree} (h : t.wrapped.height ≤ env.config.maxDepth) :
    (env.bind t.wrapped).map (Node.seen false id) =
      (env.bind t).map fun n => (compared n).seen false id := by
  cases ht : t.isOperation with
  | true =>
    have hwrapped : t.wrapped = .nested t := if_pos ht
    have hheight : t.height + 1 ≤ env.config.maxDepth := by
      rw [hwrapped, Tree.height] at h
      exact h
    have hbind : env.bind (.nested t) = env.bind t >>= fun n => pure ((n.inParens).withText
        (Text.tokenText [.token "(", .token n.rawText, .token ")"])) := by
      rw [← lowerPart_eq_bind hstd hheight, ← bind_lowerPart]
      rfl
    rw [hwrapped, hbind]
    cases hn : env.bind t with
    | error e => rfl
    | ok n =>
      have hop : n.isOperation = true := by
        rw [isOperation_of_lower hstd hn, ht]
      have hcompared : compared n = n.inParens := if_pos hop
      refine congrArg Except.ok ?_
      show _ = (compared n).seen false id
      rw [hcompared]
      cases n <;> rfl
  | false =>
    have hwrapped : t.wrapped = t := if_neg (by simp [ht])
    rw [hwrapped]
    cases hn : env.bind t with
    | error e => rfl
    | ok n =>
      have hop : n.isOperation = false := by
        rw [isOperation_of_lower hstd hn, ht]
      have hcompared : compared n = n := if_neg (by simp [hop])
      refine congrArg Except.ok ?_
      show _ = (compared n).seen false id
      rw [hcompared]

/-- A comparison that is written out, part by part. -/
theorem bind_equation {left right : Tree} (hleft : left.height + 1 ≤ env.config.maxDepth)
    (hright : right.height + 1 ≤ env.config.maxDepth) :
    env.bind (.binary left .eq right) =
      env.bind left >>= fun l => env.bind right >>= fun r =>
        Collaborators.predicate .eq l r >>= fun p => pure (p.withText
          (Text.tokenText [.token l.rawText, .token Operator.eq.text, .token r.rawText])) := by
  rw [← lowerPart_eq_bind hstd hleft, ← lowerPart_eq_bind hstd hright, bind, lower]
  simp only [bind_lowerPart, hstd]
  rfl

/-- A comparison that is written out looks like the one that a simple CASE makes. -/
theorem map_bind_comparison {operand value : Tree} {n : Node} (hn : env.bind operand = .ok n)
    (hoperand : operand.wrapped.height + 1 ≤ env.config.maxDepth)
    (hvalue : value.wrapped.height + 1 ≤ env.config.maxDepth) :
    (env.bind (.binary operand.wrapped .eq value.wrapped)).map (Node.seen false id) =
      (env.bind value >>= fun v => Collaborators.predicate .eq (compared n) (compared v)).map
        (Node.seen false id) := by
  have hsame : (env.bind operand.wrapped).map (Node.seen false id) =
      (Except.ok (compared n)).map (Node.seen false id) := by
    rw [map_bind_wrapped hstd (by omega), hn]
    rfl
  rw [bind_equation hstd hoperand hvalue]
  show _ = (Except.ok (compared n) >>= fun c =>
    env.bind value >>= fun v => Collaborators.predicate .eq c (compared v)).map (Node.seen false id)
  refine map_bind hsame fun l c _ hc hlook => ?_
  refine map_bind (map_bind_wrapped hstd (t := value) (by omega)) fun r v _ _ hr => ?_
  rw [← bind_pure (Collaborators.predicate .eq c (compared v))]
  refine map_bind (Collaborators.seen_predicate .eq hlook hr) fun p p' _ _ hp => ?_
  have hsame : p'.withText p'.rawText = p' := by
    cases p' <;> rfl
  refine congrArg Except.ok ?_
  rw [Node.seen_withText (t := p'.rawText) hp nofun, hsame]

/-! ## Branches -/

/-- The first branch with its comparison written out, and those behind it. -/
theorem lowerBranches_searched {operand value result : Tree} {bs : List (Tree × Tree)}
    (hoperand : operand.wrapped.height + 2 ≤ env.config.maxDepth)
    (hvalue : value.wrapped.height + 2 ≤ env.config.maxDepth) :
    lower.lowerBranches env 1 none (searchedBranches operand ((value, result) :: bs)) =
      env.bind (.binary operand.wrapped .eq value.wrapped) >>= fun p =>
        env.lowerPart 1 result >>= fun r =>
          lower.lowerBranches env 1 none (searchedBranches operand bs) >>= fun cs =>
            pure (⟨p.rawText, p, r⟩ :: cs) := by
  have hcondition : (Tree.binary operand.wrapped .eq value.wrapped).height + 1 ≤
      env.config.maxDepth := by
    rw [Tree.height]
    omega
  rw [← lowerPart_eq_bind hstd hcondition]
  simp only [searchedBranches, List.map_cons, lower.lowerBranches, bind_lowerPart, hstd]
  rfl

/-- The branches of a simple CASE look like those with their comparisons written out. -/
theorem map_lowerBranches_searched {operand : Tree} {n : Node} (hn : env.bind operand = .ok n)
    {bs : List (Tree × Tree)}
    (h : ∀ b ∈ bs, operand.wrapped.height + 2 ≤ env.config.maxDepth ∧
      b.1.wrapped.height + 2 ≤ env.config.maxDepth ∧ b.2.height + 1 ≤ env.config.maxDepth) :
    (lower.lowerBranches env 1 (some (compared n)) bs).map (List.map (CaseBranch.seen false id)) =
      (lower.lowerBranches env 1 none (searchedBranches operand bs)).map
        (List.map (CaseBranch.seen false id)) := by
  induction bs with
  | nil => rfl
  | cons b bs ih =>
    obtain ⟨value, result⟩ := b
    rw [List.forall_mem_cons] at h
    obtain ⟨⟨hoperand, hvalue, hresult⟩, hbs⟩ := h
    have ih := ih hbs
    have hvalue : value.wrapped.height + 2 ≤ env.config.maxDepth := hvalue
    have hvaluePart : env.lowerPart 1 value = env.bind value := by
      have hle := value.height_le_wrapped
      exact lowerPart_eq_bind hstd (by omega)
    let rest (tested : Option Node) (branches : List (Tree × Tree)) (p : String × Node) :
        Except Error (List CaseBranch) :=
      env.lowerPart 1 result >>= fun r =>
        lower.lowerBranches env 1 tested branches >>= fun cs => pure (⟨p.1, p.2, r⟩ :: cs)
    have hrest (p p' : String × Node) (hp : p.2.seen false id = p'.2.seen false id) :
        (rest (some (compared n)) bs p).map (List.map (CaseBranch.seen false id)) =
          (rest none (searchedBranches operand bs) p').map
            (List.map (CaseBranch.seen false id)) := by
      refine map_bind_same fun r _ => map_bind ih fun cs cs' _ _ hcs => congrArg Except.ok ?_
      have hbranch : CaseBranch.seen false id ⟨p.1, p.2, r⟩ =
          CaseBranch.seen false id ⟨p'.1, p'.2, r⟩ := by
        simp only [CaseBranch.seen, hp]
        rfl
      rw [List.map_cons, List.map_cons, hbranch, hcs]
    have hsimple : lower.lowerBranches env 1 (some (compared n)) ((value, result) :: bs) =
        (env.bind value >>= fun v =>
          Collaborators.predicate .eq (compared n) (compared v) >>= fun p =>
            pure (v.rawText, p)) >>= rest (some (compared n)) bs := by
      rw [← hvaluePart]
      simp only [lower.lowerBranches, bind_lowerPart, hstd, bind_assoc]
      rfl
    have hpredicate : (env.bind value >>= fun v =>
          Collaborators.predicate .eq (compared n) (compared v) >>= fun p =>
            pure (v.rawText, p)).map (fun q : String × Node => q.2.seen false id) =
        (env.bind (.binary operand.wrapped .eq value.wrapped)).map (Node.seen false id) := by
      rw [map_bind_comparison hstd hn (by omega) (by omega)]
      refine map_bind_same fun v _ => ?_
      cases Collaborators.predicate .eq (compared n) (compared v) <;> rfl
    rw [hsimple, lowerBranches_searched hstd hoperand hvalue]
    exact map_bind hpredicate fun p p' _ _ hp => hrest p (p'.rawText, p') hp

/-- Where the operand has no node, the first comparison has none for the same reason. -/
theorem lowerBranches_searched_error {operand : Tree} {e : Error} (he : env.bind operand = .error e)
    {bs : List (Tree × Tree)} (hne : bs ≠ [])
    (h : ∀ b ∈ bs, operand.wrapped.height + 2 ≤ env.config.maxDepth ∧
      b.1.wrapped.height + 2 ≤ env.config.maxDepth ∧ b.2.height + 1 ≤ env.config.maxDepth) :
    lower.lowerBranches env 1 none (searchedBranches operand bs) = .error e := by
  obtain ⟨b, rest, rfl⟩ := List.exists_cons_of_ne_nil hne
  obtain ⟨hoperand, hvalue, -⟩ := h b List.mem_cons_self
  have hwrapped : env.bind operand.wrapped = .error e := by
    have hsame := map_bind_wrapped hstd (t := operand) (by omega)
    rw [he] at hsame
    cases hl : env.bind operand.wrapped with
    | error e' =>
      rw [hl] at hsame
      exact hsame
    | ok l =>
      rw [hl] at hsame
      cases hsame
  rw [lowerBranches_searched hstd hoperand hvalue,
    bind_equation hstd (by omega) (by omega), hwrapped]
  rfl

/-- What a CASE gives stands in its node as it was written: the results in order, and the ELSE. -/
theorem results_of_bind {operand otherwise : Option Tree} {branches : List (Tree × Tree)} {n : Node}
    (h : env.bind (.case operand branches otherwise) = .ok n) :
    ∃ labels lowered final, n = .case labels lowered final ∧
      List.Forall₂ (fun b c => env.bind b.2 = .ok c.2) branches lowered ∧
      Option.Rel (fun e m => env.bind e = .ok m) otherwise final := by
  have part {t : Tree} {m : Node} (ht : env.Part env.Lowers 1 t m) : env.bind t = .ok m := by
    obtain ⟨hbound, hlower⟩ := ht
    have hheight := height_le_of_lower hstd hbound hlower
    have hsame : env.lower 1 t = env.lower 2 t := lower_level hstd (by omega) (by omega)
    rw [bind, hsame]
    exact hlower
  have hstep := step_of_lower hstd h
  cases hstep with
  | @case _ _ _ tested lowered final _ hlowered hfinal =>
    refine ⟨_, _, final, rfl, ?_, rel_mono hfinal fun e _ m => part⟩
    refine List.forall₂_map_right_iff.mpr (forall₂_mono hlowered fun b _ c hc => ?_)
    obtain ⟨v, -, -, -, hresult⟩ := hc
    exact part hresult

/-! ## Both forms -/

/-- The simple CASE looks like the searched one. -/
theorem map_bind_simpleCase {operand : Tree} {branches : List (Tree × Tree)}
    {otherwise : Option Tree} (hne : branches ≠ [])
    (hbound : (Tree.case none (searchedBranches operand branches) otherwise).height ≤
      env.config.maxDepth) :
    (env.bind (.case (some operand) branches otherwise)).map Node.withoutRawTexts =
      (env.bind (.case none (searchedBranches operand branches) otherwise)).map
        Node.withoutRawTexts := by
  obtain ⟨hbranches, -⟩ := height_of_searched hbound
  have hoperand : operand.height + 1 ≤ env.config.maxDepth := by
    obtain ⟨b, hb⟩ := List.exists_mem_of_ne_nil branches hne
    have hle := operand.height_le_wrapped
    have hb := hbranches b hb
    omega
  let rest (tested : Option Node) (bs : List (Tree × Tree)) : Except Error Node :=
    lower.lowerBranches env 1 (tested.map compared) bs >>= fun cs =>
      lower.lowerOption env 1 otherwise >>= fun final => pure (caseOf tested cs final)
  have hsimple : env.bind (.case (some operand) branches otherwise) =
      env.bind operand >>= fun n => rest (some n) branches := by
    rw [← lowerPart_eq_bind hstd hoperand, bind, lower, lower.lowerOption]
    simp only [bind_lowerPart, bind_assoc, pure_bind]
    rfl
  have hsearched : env.bind (.case none (searchedBranches operand branches) otherwise) =
      rest none (searchedBranches operand branches) := rfl
  rw [hsimple, hsearched]
  cases hn : env.bind operand with
  | error e =>
    have hfirst := lowerBranches_searched_error hstd hn hne hbranches
    show _ = (lower.lowerBranches env 1 none (searchedBranches operand branches) >>= _).map _
    rw [hfirst]
    rfl
  | ok n =>
    show (rest (some n) branches).map _ = _
    refine map_bind (map_lowerBranches_searched hstd hn hbranches) fun cs cs' _ _ hcs => ?_
    refine map_bind_same fun final _ => congrArg Except.ok ?_
    exact Node.seen_caseOf (fun htexts => by cases htexts) hcs rfl

end Environment

/-- **A simple CASE is the searched CASE that it abbreviates.** Within the bound of the longer form
both have the same node apart from its texts, or the same error; they are written in the same way;
and the node holds what the branches give in their order, and the ELSE. -/
theorem bind_simpleCase (config : Config) (session : Session) (operand : Tree)
    (branches : List (Tree × Tree)) (otherwise : Option Tree) (hne : branches ≠ [])
    (hbound : (Tree.case none (searchedBranches operand branches) otherwise).height ≤
      config.maxDepth) :
    let env : Environment := { config := config, session := session }
    let simple := env.bind (.case (some operand) branches otherwise)
    let searched := env.bind (.case none (searchedBranches operand branches) otherwise)
    simple.map Node.withoutRawTexts = searched.map Node.withoutRawTexts ∧
    simple.map Node.toSql = searched.map Node.toSql ∧
    ∀ n, simple = .ok n → ∃ labels lowered final, n = .case labels lowered final ∧
      List.Forall₂ (fun b c => env.bind b.2 = .ok c.2) branches lowered ∧
      Option.Rel (fun e m => env.bind e = .ok m) otherwise final := by
  intro env simple searched
  have hstd : env.collaborators = .standard := rfl
  have hsame : simple.map Node.withoutRawTexts = searched.map Node.withoutRawTexts :=
    Environment.map_bind_simpleCase hstd hne hbound
  have hsql (x : Except Error Node) :
      x.map Node.toSql = (x.map Node.withoutRawTexts).map Node.toSql := by
    cases x with
    | error e => rfl
    | ok n => exact congrArg Except.ok n.toSql_withoutRawTexts.symm
  refine ⟨hsame, ?_, fun n hn => Environment.results_of_bind hstd hn⟩
  rw [hsql, hsame, ← hsql]

/-- The sum `a + b`. -/
def sumOfTwo : Tree :=
  .binary (.identifier [⟨"a", none⟩]) .plus (.identifier [⟨"b", none⟩])

/-- `WHEN 3 THEN 'three' WHEN (c IS NULL) THEN d`. -/
def sumBranches : List (Tree × Tree) :=
  [(.literal (.number "3"), .literal (.string "three")),
    (.nested (.isNull (.identifier [⟨"c", none⟩]) false), .identifier [⟨"d", none⟩])]

/-- A CASE of a sum, beside the comparisons that it abbreviates. -/
theorem bind_sumCase : ∃ n m,
    ({} : Environment).bind (.case (some sumOfTwo) sumBranches none) = .ok n ∧
    ({} : Environment).bind (.case none (searchedBranches sumOfTwo sumBranches) none) = .ok m ∧
    n.withoutRawTexts = m.withoutRawTexts ∧ n.rawText ≠ m.rawText ∧
    n.toSql = "CASE WHEN (a + b) = 3 THEN 'three' WHEN (a + b) = (c IS NULL) THEN d END" ∧
    m.toSql = n.toSql := by
  obtain ⟨hsame, hsql, -⟩ := bind_simpleCase {} {} sumOfTwo sumBranches none (by decide) (by decide)
  refine ⟨_, _, rfl, rfl, Except.ok.inj hsame, ?_, ?_, (Except.ok.inj hsql).symm⟩
  · decide +kernel
  · decide +kernel

end SqlNormal
