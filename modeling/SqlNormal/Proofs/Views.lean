import SqlNormal.Proofs.Capabilities

/-!
# Views of a node

Whoever plans the execution of a node asks which of its functions a backend lacks, whether it
aggregates, and whether it aggregates distinct values. All these views look at the same nodes, and
the last one finds what stood in the tree: only the operand of a simple CASE without branches leaves
nothing behind in the node.

* `Capabilities.pairwise_unsupported`: the functions that a backend lacks, in the order in which
  they first occur;
* `Tree.UsedIn`: what occurs in a tree and is not lost;
* `Environment.hasDistinctAggregate_iff`: distinct values are aggregated in a node exactly if a call
  of them is used in its tree;
* **`views_agree`**: the views of a node beside each other.
-/

namespace SqlNormal

/-! ## Nodes in order -/

namespace Node

theorem mem_preorder_iff {m n : Node} : m ∈ n.preorder ↔ m.Within n := by
  induction n using Node.induction with
  | step n ih =>
    rw [preorder_eq, List.mem_cons, List.mem_flatMap, within_iff]
    exact or_congr_right (exists_congr fun c => and_congr_right fun hc => ih c hc)

theorem mem_functionIds_iff {id : FunctionId} {n : Node} :
    id ∈ n.functionIds ↔ ∃ m : Node, m.Within n ∧ m.functionId? = some id := by
  simp only [functionIds_eq_filterMap, List.mem_filterMap, mem_preorder_iff]

end Node

/-! ## Functions that are not in a set -/

namespace Capabilities

theorem distinct_filter (p : FunctionId → Bool) (ids : List FunctionId) :
    distinct (ids.filter p) = (distinct ids).filter p := by
  induction ids with
  | nil => rfl
  | cons x xs ih =>
    by_cases hx : p x = true
    · rw [List.filter_cons_of_pos hx, distinct, distinct, ih, List.filter_cons_of_pos hx,
        List.filter_comm]
    · rw [List.filter_cons_of_neg hx, distinct, ih, List.filter_cons_of_neg hx, List.filter_comm]
      refine (List.filter_eq_self.mpr fun y hy => ?_).symm
      have hy : p y = true := List.of_mem_filter hy
      exact decide_eq_true fun hyx => hx (hyx ▸ hy)

/-- The numbers without repetition stand in the order of their first places. -/
theorem pairwise_distinct (ids : List FunctionId) :
    (distinct ids).Pairwise fun a b => ids.idxOf a < ids.idxOf b := by
  induction ids with
  | nil => exact .nil
  | cons x xs ih =>
    have hbehind : ∀ a ∈ (distinct xs).filter (· ≠ x), (x :: xs).idxOf a = xs.idxOf a + 1 := by
      intro a ha
      have hne : a ≠ x := by simpa using List.of_mem_filter ha
      exact List.idxOf_cons_ne xs hne.symm
    refine .cons (fun a ha => ?_) ?_
    · rw [List.idxOf_cons_self, hbehind a ha]
      exact Nat.succ_pos _
    · refine (ih.filter _).imp_of_mem fun {a b} ha hb hab => ?_
      rw [hbehind a ha, hbehind b hb]
      exact Nat.succ_lt_succ hab

variable {c : Capabilities} {n : Node}

theorem unsupported_eq_filter : c.unsupported n = (distinct n.functionIds).filter fun id =>
    !c.supports id :=
  distinct_filter _ _

theorem mem_unsupported_iff {id : FunctionId} :
    id ∈ c.unsupported n ↔ id ∈ n.functionIds ∧ c.supports id = false := by
  rw [unsupported_eq_filter, List.mem_filter, mem_distinct, Bool.not_eq_true']

theorem nodup_unsupported : (c.unsupported n).Nodup :=
  nodup_distinct _

/-- The functions that are not in a set stand in the order in which they first occur. -/
theorem pairwise_unsupported : (c.unsupported n).Pairwise fun a b =>
    n.functionIds.idxOf a < n.functionIds.idxOf b := by
  rw [unsupported_eq_filter]
  exact (pairwise_distinct n.functionIds).filter _

theorem unsupported_eq_nil_iff : c.unsupported n = [] ↔ c.canExecute n = true := by
  simp only [List.eq_nil_iff_forall_not_mem, mem_unsupported_iff, not_and, Bool.not_eq_false,
    canExecute, List.all_eq_true]

end Capabilities

/-! ## What is used of a tree -/

namespace Tree

/-- The parts that a node is made of: all but the operand of a simple CASE without branches. -/
def usedParts : Tree → List Tree
  | case _ [] otherwise => otherwise.toList
  | t => t.parts

/-- The tree occurs in another one, or is it, and is not lost on the way. -/
def UsedIn : Tree → Tree → Prop :=
  Relation.ReflTransGen fun s t => s ∈ t.usedParts

theorem mem_parts_of_usedParts {s t : Tree} (h : s ∈ t.usedParts) : s ∈ t.parts := by
  unfold usedParts at h
  split at h
  · simpa using Or.inr h
  · exact h

theorem mem_parts_cases {s t : Tree} (h : s ∈ t.parts) :
    s ∈ t.usedParts ∨ ∃ otherwise, t = .case (some s) [] otherwise := by
  unfold usedParts
  split
  · rename_i operand otherwise
    rcases List.mem_append.mp h with h | h
    · obtain rfl : operand = some s := by simpa using h
      exact .inr ⟨otherwise, rfl⟩
    · exact .inl h
  · exact .inl h

theorem usedIn_iff {s t : Tree} : s.UsedIn t ↔ s = t ∨ ∃ u ∈ t.usedParts, s.UsedIn u := by
  rw [UsedIn, Relation.ReflTransGen.cases_tail_iff]
  constructor
  · rintro (rfl | ⟨u, hs, hu⟩)
    · exact .inl rfl
    · exact .inr ⟨u, hu, hs⟩
  · rintro (rfl | ⟨u, hu, hs⟩)
    · exact .inl rfl
    · exact .inr ⟨u, hs, hu⟩

/-- **What is lost of a tree**: the operands of simple CASEs without branches, with all that occurs
in them. -/
theorem within_iff_usedIn {s t : Tree} : s.Within t ↔ s.UsedIn t ∨
    ∃ operand otherwise, Within (.case (some operand) [] otherwise) t ∧ s.Within operand := by
  constructor
  · intro h
    induction h with
    | refl => exact .inl .refl
    | @tail u t hs hu ih =>
      rcases ih with hused | ⟨operand, otherwise, hcase, hoperand⟩
      · rcases mem_parts_cases hu with hu | ⟨otherwise, rfl⟩
        · exact .inl (hused.tail hu)
        · exact .inr ⟨u, otherwise, .refl, hs⟩
      · exact .inr ⟨operand, otherwise, hcase.tail hu, hoperand⟩
  · rintro (hused | ⟨operand, otherwise, hcase, hs⟩)
    · exact Relation.ReflTransGen.mono (fun _ _ => mem_parts_of_usedParts) _ _ hused
    · have hpart : operand ∈ (case (some operand) [] otherwise).parts := by simp
      exact (hs.tail hpart).trans hcase

/-! ### Calls with a quantifier -/

section Quantified

variable {keyword : String} {shape : CallShape}

theorem mem_traceList {site : Site} {ts : List Tree} :
    site ∈ trace.traceList ts ↔ ∃ t ∈ ts, site ∈ t.trace := by
  induction ts with
  | nil => simp [trace.traceList]
  | cons t ts ih => simp [trace.traceList, ih]

theorem mem_traceOption {site : Site} {t : Option Tree} :
    site ∈ trace.traceOption t ↔ ∃ s ∈ t, site ∈ s.trace := by
  cases t <;> simp [trace.traceOption]

theorem mem_traceBranches {site : Site} {operand : List Site} {bs : List (Tree × Tree)} :
    site ∈ trace.traceBranches operand bs ↔
      (bs ≠ [] ∧ site ∈ operand) ∨ ∃ b ∈ bs, site ∈ b.1.trace ∨ site ∈ b.2.trace := by
  induction bs with
  | nil => simp [trace.traceBranches]
  | cons b bs ih =>
    simp only [trace.traceBranches, List.mem_append, ih, List.exists_mem_cons_iff]
    by_cases hsite : site ∈ operand
    · simp [hsite]
    · simp [hsite, or_assoc]

theorem exists_mem_branchParts {p : Tree → Prop} {bs : List (Tree × Tree)} :
    (∃ s ∈ bs.flatMap fun b => [b.1, b.2], p s) ↔ ∃ b ∈ bs, p b.1 ∨ p b.2 := by
  constructor
  · rintro ⟨s, hs, hp⟩
    obtain ⟨b, hb, hs⟩ := List.mem_flatMap.mp hs
    rcases List.mem_pair.mp hs with rfl | rfl
    · exact ⟨b, hb, .inl hp⟩
    · exact ⟨b, hb, .inr hp⟩
  · rintro ⟨b, hb, hp | hp⟩
    · exact ⟨b.1, List.mem_flatMap.mpr ⟨b, hb, by simp⟩, hp⟩
    · exact ⟨b.2, List.mem_flatMap.mpr ⟨b, hb, by simp⟩, hp⟩

/-- A call with a quantifier is met at its own tree or in a part that is used. -/
theorem mem_trace_iff (hquantifier : shape.quantifier.isSome) {t : Tree} :
    .call keyword shape ∈ t.trace ↔
      (∃ spelling args, t = .call spelling args ∧ keyword = spelling.keyword ∧
        shape = spelling.shape args.length) ∨
      ∃ u ∈ t.usedParts, .call keyword shape ∈ u.trace := by
  have hform (word : String) (argc : Nat) :
      Site.call keyword shape ≠ .call word (.ofCount argc) := by
    rintro ⟨⟩
    cases hquantifier
  have hstar (word : String) : Site.call keyword shape ≠ .call word .ofStar := by
    rintro ⟨⟩
    cases hquantifier
  cases t with
  | case operand branches otherwise =>
    cases branches with
    | nil => simp [trace, usedParts, mem_traceBranches, mem_traceOption]
    | cons b bs =>
      simp only [trace, usedParts, parts, List.mem_append, mem_traceBranches, mem_traceOption,
        or_and_right, exists_or, exists_mem_branchParts, Option.mem_toList, Option.mem_def]
      simp
  | trim spec characters hasFrom source =>
    cases hasFrom <;> simp [trace, usedParts, hform, mem_traceOption, or_comm]
  | substring source start length keywordForm =>
    simp [trace, usedParts, hform, mem_traceOption, or_and_right, exists_or]
  | _ => simp [trace, usedParts, hform, hstar, mem_traceList, mem_traceOption]

/-- The calls with a quantifier that are met in a tree are those that are used. -/
theorem mem_trace_iff_usedIn (hquantifier : shape.quantifier.isSome) {t : Tree} :
    .call keyword shape ∈ t.trace ↔ ∃ spelling args, UsedIn (.call spelling args) t ∧
      keyword = spelling.keyword ∧ shape = spelling.shape args.length := by
  induction t using Tree.induction with
  | step t ih =>
    rw [mem_trace_iff hquantifier]
    constructor
    · rintro (⟨spelling, args, rfl, hsite⟩ | ⟨u, hu, hmem⟩)
      · exact ⟨spelling, args, .refl, hsite⟩
      · obtain ⟨spelling, args, hused, hsite⟩ := (ih u (mem_parts_of_usedParts hu)).mp hmem
        exact ⟨spelling, args, hused.tail hu, hsite⟩
    · rintro ⟨spelling, args, hused, hsite⟩
      rcases usedIn_iff.mp hused with rfl | ⟨u, hu, hused⟩
      · exact .inl ⟨spelling, args, rfl, hsite⟩
      · exact .inr ⟨u, hu, (ih u (mem_parts_of_usedParts hu)).mpr ⟨spelling, args, hused, hsite⟩⟩

end Quantified

end Tree

/-! ## Calls of a tree and calls of its node -/

/-- The call of a node stands for a call of distinct values in a tree. -/
structure CallHead.StandsFor (head : CallHead) (spelling : CallSpelling) (args : List Tree) :
    Prop where
  name : head.name = Text.upper spelling.keyword
  distinct : head.distinct = true
  aggregate : head.isAggregate = true
  found : ∃ entry, resolve spelling.keyword (spelling.shape args.length) = .ok entry ∧
    entry.id = head.id

theorem CallHead.StandsFor.of_note {head : CallHead} {spelling : CallSpelling}
    {args : List Tree} (hquantifier : spelling.quantifier = some .distinct)
    (h : (Site.call spelling.keyword (spelling.shape args.length)).note? = some head.note) :
    head.StandsFor spelling args := by
  obtain ⟨entry, hentry, hnote⟩ := Option.map_eq_some_iff.mp h
  have hentry := toOption_eq_some.mp hentry
  obtain ⟨hid, hname, hdistinct⟩ : entry.id = head.id ∧ Text.upper spelling.keyword = head.name ∧
      (spelling.quantifier == some .distinct) = head.distinct := by
    simpa [note, CallSpelling.shape] using hnote
  have haggregate : head.isAggregate = true := by
    rw [CallHead.isAggregate, ← hid]
    exact isAggregate_of_resolve hentry (by simp [CallSpelling.shape, hquantifier])
  exact ⟨hname.symm, by simp [← hdistinct, hquantifier], haggregate, entry, hentry, hid⟩

section Lowered

variable {env : Environment} (hstd : env.collaborators = .standard) {d : Nat} {t : Tree} {n : Node}
include hstd

/-- Every call of distinct values that is used in a tree has a call in its node. -/
theorem Environment.exists_call_of_usedIn (h : env.lower d t = .ok n) {spelling : CallSpelling}
    {args : List Tree} (hused : Tree.UsedIn (.call spelling args) t)
    (hquantifier : spelling.quantifier = some .distinct) :
    ∃ head ∈ n.calls, head.StandsFor spelling args := by
  let shape := spelling.shape args.length
  have hsome : shape.quantifier.isSome := by simp [shape, CallSpelling.shape, hquantifier]
  have hsite : .call spelling.keyword shape ∈ t.trace :=
    (Tree.mem_trace_iff_usedIn hsome).mpr ⟨spelling, args, hused, rfl, rfl⟩
  have hmem : (Site.call spelling.keyword shape).note? ∈
      n.calls.map fun head => some head.note := by
    rw [calls_lower hstd h]
    exact List.mem_map_of_mem (List.mem_filter.mpr ⟨hsite, rfl⟩)
  obtain ⟨head, hhead, hnote⟩ := List.mem_map.mp hmem
  exact ⟨head, hhead, .of_note hquantifier hnote.symm⟩

/-- Every call of distinct values in a node stands for one that is used in its tree. -/
theorem Environment.exists_usedIn_of_call (h : env.lower d t = .ok n) {head : CallHead}
    (hhead : head ∈ n.calls) (hdistinct : head.distinct = true) :
    ∃ spelling args, Tree.UsedIn (.call spelling args) t ∧
      spelling.quantifier = some .distinct ∧ head.StandsFor spelling args := by
  have hmem : some head.note ∈ t.callSites.map Site.note? := by
    rw [← calls_lower hstd h]
    exact List.mem_map_of_mem hhead
  obtain ⟨site, hsite, hnote⟩ := List.mem_map.mp hmem
  obtain ⟨hsite, hcall⟩ := List.mem_filter.mp hsite
  cases site with
  | literal l | path parts => cases hcall
  | call keyword shape =>
    have hquantifier : shape.quantifier = some .distinct := by
      obtain ⟨entry, -, hsame⟩ := Option.map_eq_some_iff.mp hnote
      obtain ⟨-, -, hsame⟩ := Note.call.inj hsame
      exact eq_of_beq (hsame.trans hdistinct)
    have hsome : shape.quantifier.isSome := by simp [hquantifier]
    obtain ⟨spelling, args, hused, rfl, rfl⟩ := (Tree.mem_trace_iff_usedIn hsome).mp hsite
    exact ⟨spelling, args, hused, hquantifier, .of_note hquantifier hnote⟩

/-- A node aggregates distinct values exactly if a call of distinct values is used in its tree. -/
theorem Environment.hasDistinctAggregate_iff (h : env.lower d t = .ok n) :
    n.hasDistinctAggregate = true ↔ ∃ spelling args, Tree.UsedIn (.call spelling args) t ∧
      spelling.quantifier = some .distinct := by
  rw [Node.hasDistinctAggregate, List.any_eq_true]
  constructor
  · rintro ⟨head, hhead, hboth⟩
    obtain ⟨hdistinct, -⟩ := Bool.and_eq_true_iff.mp hboth
    obtain ⟨spelling, args, hused, hquantifier, -⟩ := exists_usedIn_of_call hstd h hhead hdistinct
    exact ⟨spelling, args, hused, hquantifier⟩
  · rintro ⟨spelling, args, hused, hquantifier⟩
    obtain ⟨head, hhead, hstands⟩ := exists_call_of_usedIn hstd h hused hquantifier
    exact ⟨head, hhead, Bool.and_eq_true_iff.mpr ⟨hstands.distinct, hstands.aggregate⟩⟩

end Lowered

/-! ## The views -/

/-- **The views of a node.** The functions that a backend lacks are those in the node that it does
not support, each once and in the order in which they first occur; there are none exactly if it can
execute the node. The node aggregates exactly if one of its functions is an aggregate. It aggregates
distinct values exactly if such a call is used in the tree that it was bound from, and its calls of
distinct values are just those. All that occurs in the tree is used, but what stands in the operand
of a simple CASE without branches. -/
theorem views_agree (n : Node) (c : Capabilities) :
    (n.functionIds = n.preorder.filterMap Node.functionId? ∧
      (c.unsupported n).Nodup ∧
      (∀ id, id ∈ c.unsupported n ↔
        (∃ m : Node, m.Within n ∧ m.functionId? = some id) ∧ c.supports id = false) ∧
      ((c.unsupported n).Pairwise fun a b =>
        n.functionIds.idxOf a < n.functionIds.idxOf b) ∧
      (c.unsupported n = [] ↔ c.canExecute n = true)) ∧
    (n.containsAggregate = true ↔ ∃ id ∈ n.functionIds, isAggregate id = true) ∧
    ∀ config session t, ({ config := config, session := session } : Environment).bind t = .ok n →
      (n.hasDistinctAggregate = true ↔ ∃ spelling args, Tree.UsedIn (.call spelling args) t ∧
        spelling.quantifier = some .distinct) ∧
      (∀ spelling args, Tree.UsedIn (.call spelling args) t →
        spelling.quantifier = some .distinct →
        ∃ labels head params, Node.Within (.call labels head params) n ∧
          head.StandsFor spelling args) ∧
      (∀ labels head params, Node.Within (.call labels head params) n → head.distinct = true →
        ∃ spelling args, Tree.UsedIn (.call spelling args) t ∧
          spelling.quantifier = some .distinct ∧ head.StandsFor spelling args) ∧
      ∀ s : Tree, s.Within t ↔ s.UsedIn t ∨ ∃ operand otherwise,
        Tree.Within (.case (some operand) [] otherwise) t ∧ s.Within operand := by
  refine ⟨⟨n.functionIds_eq_filterMap, Capabilities.nodup_unsupported, fun id => ?_,
    Capabilities.pairwise_unsupported, Capabilities.unsupported_eq_nil_iff⟩, ?_, ?_⟩
  · rw [Capabilities.mem_unsupported_iff, Node.mem_functionIds_iff]
  · simp [Node.containsAggregate, Node.functionIds, CallHead.isAggregate]
  · intro config session t h
    refine ⟨Environment.hasDistinctAggregate_iff rfl h, fun spelling args hused hquantifier => ?_,
      fun labels head params hcall hdistinct => ?_, fun s => Tree.within_iff_usedIn⟩
    · obtain ⟨head, hhead, hstands⟩ := Environment.exists_call_of_usedIn rfl h hused hquantifier
      obtain ⟨labels, params, hcall⟩ := Node.mem_calls_iff.mp hhead
      exact ⟨labels, head, params, hcall, hstands⟩
    · exact Environment.exists_usedIn_of_call rfl h
        (Node.mem_calls_iff.mpr ⟨labels, params, hcall⟩) hdistinct

/-- `CASE COUNT(DISTINCT a) ELSE ABS(SUM(DISTINCT a)) END`. -/
def emptyCase : Tree :=
  let a : Tree := .identifier [⟨"a", none⟩]
  .case (some (.call ⟨"COUNT", none, some .distinct, true⟩ [a])) []
    (some (.call (.plain "ABS") [.call ⟨"SUM", none, some .distinct, true⟩ [a]]))

/-- A backend of SUM alone lacks only ABS: the distinct COUNT is lost. -/
theorem views_of_emptyCase : ∃ n c, ({} : Environment).bind emptyCase = .ok n ∧
    Capabilities.ofNames ["sum"] = .ok c ∧ c.unsupported n = [.abs] ∧
    ((c.unsupported n).Nodup ∧ (c.unsupported n = [] ↔ c.canExecute n = true)) ∧
    (n.containsAggregate = true ↔ ∃ id ∈ n.functionIds, isAggregate id = true) ∧
    n.hasDistinctAggregate = true ∧
    (n.hasDistinctAggregate = true ↔ ∃ spelling args,
      Tree.UsedIn (.call spelling args) emptyCase ∧ spelling.quantifier = some .distinct) ∧
    n.calls.map (·.name) = ["ABS", "SUM"] := by
  obtain ⟨n, hn, hids, hdistinct, hnames⟩ : ∃ n, ({} : Environment).bind emptyCase = .ok n ∧
      n.functionIds = [.abs, .sum] ∧ n.hasDistinctAggregate = true ∧
      n.calls.map (·.name) = ["ABS", "SUM"] := ⟨_, rfl, rfl, rfl, rfl⟩
  obtain ⟨c, hc, hsum⟩ : ∃ c, Capabilities.ofNames ["sum"] = .ok c ∧ c.ids = [.sum] :=
    ⟨_, rfl, by decide +kernel⟩
  obtain ⟨⟨-, hnodup, -, -, hempty⟩, haggregate, hviews⟩ := views_agree n c
  have hlacks : c.unsupported n = [.abs] := by
    have hother : FunctionId.abs ≠ .sum := by decide
    rw [Capabilities.unsupported, hids]
    simp [Capabilities.supports, hsum, hother, Capabilities.distinct]
  exact ⟨n, c, hn, hc, hlacks, ⟨hnodup, hempty⟩, haggregate, hdistinct, (hviews {} {} _ hn).1,
    hnames⟩

end SqlNormal
