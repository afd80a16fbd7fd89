import Mathlib
import SqlNormal.Proofs.Catalog
import SqlNormal.Proofs.Trace

/-!
# Calls that are found again

A call keeps the number of its function and forgets how it was written. What it does keep is enough
to find the entry again: its name, its quantifier and its parameters have the shape of the call that
was resolved.

* `Tree.Within`, `Node.Within`: what occurs in a tree or a node;
* `CallHead.shape`: the shape of a call, read off its head and its parameters;
* `CallHead.Kept`, `Node.AllKept`: a call finds its entry again, and so does every call of a node;
* `Environment.Step.lowered`: one step of lowering keeps it;
* **`resolve_of_bind`**: every call of what was bound is found again.
-/

namespace SqlNormal

/-! ## What occurs in a tree or a node -/

/-- The tree occurs in another one, or is it. -/
def Tree.Within : Tree → Tree → Prop :=
  Relation.ReflTransGen fun s t => s ∈ t.parts

/-- The node occurs in another one, or is it. -/
def Node.Within : Node → Node → Prop :=
  Relation.ReflTransGen fun m n => m ∈ n.children

theorem Node.within_iff {m n : Node} : m.Within n ↔ m = n ∨ ∃ c ∈ n.children, m.Within c := by
  rw [Within, Relation.ReflTransGen.cases_tail_iff]
  constructor
  · rintro (rfl | ⟨c, hm, hc⟩)
    · exact .inl rfl
    · exact .inr ⟨c, hc, hm⟩
  · rintro (rfl | ⟨c, hc, hm⟩)
    · exact .inl rfl
    · exact .inr ⟨c, hm, hc⟩

/-- The calls of a node are those that occur in it. -/
theorem Node.mem_calls_iff {head : CallHead} {n : Node} :
    head ∈ n.calls ↔ ∃ labels params, Within (.call labels head params) n := by
  induction n using Node.induction with
  | step n ih =>
    rw [calls_eq, List.mem_append, List.mem_flatMap]
    constructor
    · rintro (hown | ⟨c, hc, hmem⟩)
      · cases n with
        | call labels own params =>
          obtain rfl : head = own := by simpa [callHead?] using hown
          exact ⟨labels, params, .refl⟩
        | _ => cases hown
      · obtain ⟨labels, params, hcall⟩ := (ih c hc).mp hmem
        exact ⟨labels, params, within_iff.mpr (.inr ⟨c, hc, hcall⟩)⟩
    · rintro ⟨labels, params, hcall⟩
      rcases within_iff.mp hcall with rfl | ⟨c, hc, hcall⟩
      · exact .inl (by simp [callHead?])
      · exact .inr ⟨c, hc, (ih c hc).mpr ⟨labels, params, hcall⟩⟩

/-! ## The shape of a call -/

namespace CallHead

/-- The number of arguments. Keywords do not count, but the field of an EXTRACT and the target of a
CONVERT are an argument each. -/
def argc (head : CallHead) (params : List Node) : Nat :=
  params.countP (fun p => !p.isKeyword) +
    if (head.name = "EXTRACT" ∨ head.name = "CONVERT") ∧ params.any Node.isKeyword then 1 else 0

/-- The quantifier in front of the arguments. -/
def quantifier? (head : CallHead) : Option SetQuantifier :=
  if head.distinct then some .distinct else if head.all then some .all else none

/-- A head that notes a quantifier shows it. -/
theorem quantifier?_eq {head : CallHead} {q : Option SetQuantifier}
    (hdistinct : head.distinct = (q == some .distinct)) (hall : head.all = (q == some .all)) :
    head.quantifier? = q := by
  rw [quantifier?, hdistinct, hall]
  rcases q with _ | _ | _ <;> rfl

/-- The head of a call of a star shows the star. -/
theorem isCountStar_eq {head : CallHead} {token : String} {shape : CallShape} {entry : CatalogEntry}
    (h : resolve token shape = .ok entry) (hid : head.id = entry.id) :
    head.isCountStar = shape.star := by
  rw [isCountStar, hid, Bool.eq_iff_iff, decide_eq_true_iff]
  exact resolve_countStar_iff h

/-- The shape of a call, read off its head and its parameters. -/
def shape (head : CallHead) (params : List Node) : CallShape :=
  { argc := head.argc params, quantifier := head.quantifier?, star := head.isCountStar }

end CallHead

/-- What a call keeps of the one that was resolved: it finds its entry again, and nothing is noted on
it that its entry does not admit. -/
structure CallHead.Kept (head : CallHead) (params : List Node) : Prop where
  found : ∃ entry, resolve head.name (head.shape params) = .ok entry ∧ entry.id = head.id ∧
    (head.sessionValue.isSome → entry.functionClass = .session)
  single : ¬(head.distinct ∧ head.all)
  aggregate : head.distinct ∨ head.all → head.isAggregate

theorem CallHead.Kept.of_resolve {head : CallHead} {params : List Node} {entry : CatalogEntry}
    (h : resolve head.name (head.shape params) = .ok entry) (hid : entry.id = head.id)
    (hsession : head.sessionValue.isSome → entry.functionClass = .session)
    (hsingle : ¬(head.distinct ∧ head.all)) : head.Kept params := by
  refine ⟨⟨entry, h, hid, hsession⟩, hsingle, fun hquantifier => ?_⟩
  rw [isAggregate, ← hid]
  refine isAggregate_of_resolve h ?_
  rcases hquantifier with hdistinct | hall
  · simp [shape, quantifier?, hdistinct]
  · by_cases hdistinct : head.distinct <;> simp [shape, quantifier?, hdistinct, hall]

/-- Every call that occurs in the node keeps what it was resolved by. -/
def Node.AllKept (n : Node) : Prop :=
  ∀ labels head params, Within (.call labels head params) n → head.Kept params

/-- The place of the spelling in its group is left out, or it is the right one. -/
def CallSpelling.Placed (s : CallSpelling) : Prop :=
  s.alternative = none ∨ s.alternative = (familyOf? s.keyword).bind (·.alternativeOf? s.keyword)

/-- Every spelling that occurs in the tree has its place. -/
def Tree.AllPlaced (t : Tree) : Prop :=
  ∀ spelling args, Within (.call spelling args) t → spelling.Placed

theorem Tree.AllPlaced.part {s t : Tree} (h : t.AllPlaced) (hs : s ∈ t.parts) : s.AllPlaced :=
  fun spelling args hcall => h spelling args (hcall.tail hs)

namespace Node

theorem allKept_iff {n : Node} : n.AllKept ↔
    (∀ labels head params, n = .call labels head params → head.Kept params) ∧
      ∀ c ∈ n.children, c.AllKept := by
  constructor
  · intro h
    refine ⟨fun labels head params hn => ?_, fun c hc labels head params hcall => ?_⟩
    · exact h labels head params (within_iff.mpr (.inl hn.symm))
    · exact h labels head params (within_iff.mpr (.inr ⟨c, hc, hcall⟩))
  · rintro ⟨hown, hparts⟩ labels head params hcall
    rcases within_iff.mp hcall with hn | ⟨c, hc, hcall⟩
    · exact hown labels head params hn.symm
    · exact hparts c hc labels head params hcall

@[simp] theorem allKept_constant {labels : Labels} {value : Value} :
    (constant labels value).AllKept :=
  allKept_iff.mpr (by simp [children])

@[simp] theorem allKept_column {labels : Labels} {qualifier : List String} {name : String} :
    (column labels qualifier name).AllKept :=
  allKept_iff.mpr (by simp [children])

@[simp] theorem allKept_keyword {word : String} : (keyword word).AllKept :=
  allKept_constant

@[simp] theorem allKept_call {labels : Labels} {head : CallHead} {params : List Node} :
    (call labels head params).AllKept ↔ head.Kept params ∧ ∀ p ∈ params, p.AllKept := by
  rw [allKept_iff]
  exact and_congr_left' ⟨fun h => h _ _ _ rfl, fun h => by rintro _ _ _ ⟨⟩; exact h⟩

@[simp] theorem allKept_cast {labels : Labels} {operand : Node} {target : SqlType} :
    (cast labels operand target).AllKept ↔ operand.AllKept := by
  rw [allKept_iff]
  simp [children]

@[simp] theorem allKept_operation {labels : Labels} {op : Operator} {operands : List Node} :
    (operation labels op operands).AllKept ↔ ∀ o ∈ operands, o.AllKept := by
  rw [allKept_iff]
  simp [children]

@[simp] theorem allKept_case {labels : Labels} {branches : List (Node × Node)}
    {otherwise : Option Node} : (case labels branches otherwise).AllKept ↔
      (∀ b ∈ branches, b.1.AllKept ∧ b.2.AllKept) ∧ ∀ n, otherwise = some n → n.AllKept := by
  rw [allKept_iff]
  simp only [children, List.mem_append, List.mem_flatMap, List.mem_cons, List.not_mem_nil,
    or_false, Option.mem_toList]
  constructor
  · rintro ⟨-, h⟩
    refine ⟨fun b hb => ⟨?_, ?_⟩, fun n hn => h n (.inr hn)⟩
    · exact h b.1 (.inl ⟨b, hb, .inl rfl⟩)
    · exact h b.2 (.inl ⟨b, hb, .inr rfl⟩)
  · rintro ⟨hbranches, hotherwise⟩
    refine ⟨fun _ _ _ h => Node.noConfusion h, ?_⟩
    rintro n (⟨b, hb, rfl | rfl⟩ | hn)
    · exact (hbranches b hb).1
    · exact (hbranches b hb).2
    · exact hotherwise n hn

@[simp] theorem allKept_relabel {f : Labels → Labels} {n : Node} :
    (n.relabel f).AllKept ↔ n.AllKept := by
  cases n with
  | columns labels qualifier =>
    rw [allKept_iff, allKept_iff (n := columns labels qualifier)]
    simp [relabel, children]
  | _ => simp [relabel]

@[simp] theorem allKept_compared {n : Node} : (compared n).AllKept ↔ n.AllKept := by
  unfold compared inParens
  split_ifs <;> simp

theorem allKept_clause {word : String} {n : Option Node} (h : ∀ m ∈ n, m.AllKept) :
    ∀ m ∈ clause word n, m.AllKept := by
  cases n with
  | none => nofun
  | some n => simpa [clause] using h

/-! ## Keywords among parameters -/

@[simp] theorem isKeyword_keyword {word : String} : (keyword word).isKeyword = true := rfl

@[simp] theorem isKeyword_relabel {f : Labels → Labels} {n : Node} :
    (n.relabel f).isKeyword = n.isKeyword := by
  cases n <;> rfl

end Node

/-- What lowering a tree keeps. A node that stands for a tree is no keyword. -/
structure Lowered (t : Tree) (n : Node) : Prop where
  notKeyword : n.isKeyword = false
  allKept : t.AllPlaced → n.AllKept

namespace Environment

variable {env : Environment} {d : Nat}

/-- What is known of a part. -/
abbrev LoweredPart (env : Environment) (d : Nat) : Tree → Node → Prop :=
  env.Part (fun _ => Lowered) d

theorem allKept_of_rel {t : Option Tree} {n : Option Node}
    (h : Option.Rel (env.LoweredPart d) t n) (ht : ∀ s ∈ t, s.AllPlaced) : ∀ m ∈ n, m.AllKept := by
  intro m hm
  obtain ⟨s, hs, hpart⟩ := source_of_rel h hm
  exact hpart.2.allKept (ht s hs)

theorem countP_of_rel {t : Option Tree} {n : Option Node}
    (h : Option.Rel (env.LoweredPart d) t n) :
    n.toList.countP (fun p => !p.isKeyword) = t.toList.length := by
  cases h with
  | none => rfl
  | some h => simp [h.2.notKeyword]

theorem countP_clause {word : String} {n : Option Node} :
    (clause word n).countP (fun p => !p.isKeyword) =
      n.toList.countP (fun p => !p.isKeyword) := by
  cases n <;> simp [clause]

/-- The predicate of a branch and its result keep what they were resolved by. -/
theorem allKept_of_branches {tested : Option Node} {bs : List (Tree × Tree)} {cs : List CaseBranch}
    (h : List.Forall₂ (env.BranchOf (fun _ => Lowered) d tested) bs cs)
    (hbs : ∀ b ∈ bs, b.1.AllPlaced ∧ b.2.AllPlaced) (htested : ∀ m, tested = some m → m.AllKept) :
    ∀ c ∈ cs, c.predicate.AllKept ∧ c.result.AllKept := by
  intro c hc
  obtain ⟨b, hb, v, hv, -, hpredicate, hresult⟩ := source_of_forall₂ h hc
  refine ⟨?_, hresult.2.allKept (hbs b hb).2⟩
  rw [hpredicate]
  have hv := hv.2.allKept (hbs b hb).1
  cases tested with
  | none => exact hv
  | some operand => simpa [predicateOf, hv] using htested operand rfl

theorem countP_trimParams {spec : Option TrimSpec} {set : Option Node} {hasFrom : Bool} {n : Node}
    (hn : n.isKeyword = false) :
    (trimParams spec set hasFrom n).countP (fun p => !p.isKeyword) =
      set.toList.countP (fun p => !p.isKeyword) + 1 := by
  cases spec <;> cases hasFrom <;> simp [trimParams, hn, Nat.add_comm]

theorem allKept_trimParams {spec : Option TrimSpec} {set : Option Node} {hasFrom : Bool} {n : Node}
    (hset : ∀ m, set = some m → m.AllKept) (hn : n.AllKept) :
    ∀ p ∈ trimParams spec set hasFrom n, p.AllKept := by
  cases spec <;> cases hasFrom <;> simpa [trimParams, or_imp, forall_and, hn] using hset

theorem forall_of_forall₂ {ts : List Tree} {ns : List Node}
    (h : List.Forall₂ (env.LoweredPart d) ts ns) :
    (∀ n ∈ ns, n.isKeyword = false) ∧ ((∀ t ∈ ts, t.AllPlaced) → ∀ n ∈ ns, n.AllKept) := by
  refine ⟨fun n hn => ?_, fun ht n hn => ?_⟩
  · obtain ⟨t, -, hpart⟩ := source_of_forall₂ h hn
    exact hpart.2.notKeyword
  · obtain ⟨t, hmem, hpart⟩ := source_of_forall₂ h hn
    exact hpart.2.allKept (ht t hmem)

/-! ## One step -/

/-- A head that notes nothing keeps what its call was resolved by. -/
theorem kept_newHead {keyword : String} {form : Bool} {argc : Nat} {star : Bool}
    {entry : CatalogEntry} {params : List Node}
    (hentry : resolve keyword { argc := argc, star := star } = .ok entry)
    (hargc : (env.newHead entry.id keyword form).argc params = argc) :
    (env.newHead entry.id keyword form).Kept params := by
  have hstar : (env.newHead entry.id keyword form).isCountStar = star :=
    CallHead.isCountStar_eq hentry rfl
  have hshape : (env.newHead entry.id keyword form).shape params =
      { argc := argc, star := star } := by
    rw [CallHead.shape, hargc, hstar]
    rfl
  have hresolve : resolve (env.newHead entry.id keyword form).name
      ((env.newHead entry.id keyword form).shape params) = .ok entry := by
    rw [hshape]
    exact resolve_of_upper (Text.upper_upper keyword).symm hentry
  exact .of_resolve hresolve rfl (fun h => Bool.noConfusion h) (fun h => Bool.noConfusion h.1)

theorem argc_newHead {id : FunctionId} {keyword : String} {form : Bool} {params : List Node}
    (h : ¬(Text.upper keyword = "EXTRACT" ∨ Text.upper keyword = "CONVERT")) :
    (env.newHead id keyword form).argc params = params.countP (fun p => !p.isKeyword) := by
  rw [CallHead.argc, if_neg fun hp => h hp.1, Nat.add_zero]

/-- The head of a call in a row of arguments keeps what its call was resolved by. -/
theorem kept_head {spelling : CallSpelling} {params : List Node} {entry : CatalogEntry}
    {value : Option Value} (hplaced : spelling.Placed)
    (hentry : resolve spelling.keyword (spelling.shape params.length) = .ok entry)
    (hvalue : env.valueOfCall entry = .ok value) (hparams : ∀ p ∈ params, p.isKeyword = false) :
    ({ env.newHead entry.id spelling.keyword false with
        parenthesized := spelling.parenthesized
        distinct := spelling.quantifier == some .distinct
        all := spelling.quantifier == some .all
        sessionValue := value } : CallHead).Kept params := by
  set head : CallHead := { env.newHead entry.id spelling.keyword false with
    parenthesized := spelling.parenthesized
    distinct := spelling.quantifier == some .distinct
    all := spelling.quantifier == some .all
    sessionValue := value } with hhead
  have hargc : head.argc params = params.length := by
    have hany : params.any Node.isKeyword = false := by simpa using hparams
    have hcount : params.countP (fun p => !p.isKeyword) = params.length :=
      List.countP_eq_length.mpr fun p hp => by simp [hparams p hp]
    simp [CallHead.argc, hcount, hany]
  have hquantifier : head.quantifier? = spelling.quantifier := CallHead.quantifier?_eq rfl rfl
  have hstar : head.isCountStar = false := CallHead.isCountStar_eq hentry rfl
  have hshape : head.shape params =
      { spelling.shape params.length with alternative := none } := by
    rw [CallHead.shape, hargc, hquantifier, hstar]
    rfl
  have hresolve : resolve head.name (head.shape params) = .ok entry := by
    rw [hshape]
    exact resolve_of_upper (Text.upper_upper spelling.keyword).symm
      (resolve_of_alternative hplaced hentry)
  refine .of_resolve hresolve rfl ?_ ?_
  · intro hsome
    by_contra hclass
    rw [valueOfCall, if_neg hclass] at hvalue
    cases hvalue
    cases hsome
  · rcases hq : spelling.quantifier with _ | _ | _ <;> simp [hhead, hq]

theorem lowered_form {t : Tree} {keyword : String} {form : Bool} {argc : Nat}
    {entry : CatalogEntry} {params : List Node}
    (hentry : resolve keyword (.ofCount argc) = .ok entry)
    (hargc : (env.newHead entry.id keyword form).argc params = argc)
    (hparams : t.AllPlaced → ∀ p ∈ params, p.AllKept) :
    Lowered t (env.formCall entry keyword form params) :=
  ⟨rfl, fun ht => Node.allKept_call.mpr ⟨kept_newHead hentry hargc, hparams ht⟩⟩

theorem lowered_literal {l : Literal} {n : Node} (h : env.literal l = .ok n) :
    Lowered (.literal l) n := by
  obtain ⟨v, -, hk, ⟨labels, rfl⟩ | ⟨labels, target, rfl⟩⟩ := forms_of_literal h
  · exact ⟨hk, fun _ => Node.allKept_constant⟩
  · exact ⟨rfl, fun _ => by simp [Node.ofValue]⟩

/-- **One step of lowering.** What it makes of its parts keeps what it was resolved by. -/
theorem Step.lowered {t : Tree} {n : Node} (h : env.Step (fun _ => Lowered) d t n) :
    Lowered t n := by
  have part {s : Tree} {m : Node} (hs : s ∈ t.parts) (h : env.LoweredPart d s m)
      (ht : t.AllPlaced) : m.AllKept := h.2.allKept (ht.part hs)
  have option {o : Option Tree} {m : Option Node} (h : Option.Rel (env.LoweredPart d) o m)
      (hs : ∀ s ∈ o, s ∈ t.parts) (ht : t.AllPlaced) : ∀ x, m = some x → x.AllKept :=
    allKept_of_rel h fun s hmem => ht.part (hs s hmem)
  cases h with
  | literal h => exact lowered_literal h
  | identifier h =>
    obtain ⟨labels, own, -, rfl⟩ := column_of_columnOf h
    exact ⟨rfl, fun _ => Node.allKept_column⟩
  | nested h =>
    refine ⟨?_, fun ht => ?_⟩
    · simpa [Node.withText, Node.inParens] using h.2.notKeyword
    · simpa [Node.withText, Node.inParens] using part (by simp) h ht
  | binary ha hb =>
    refine ⟨rfl, fun ht => ?_⟩
    simp [operationOf, part (by simp) ha ht, part (by simp) hb ht]
  | unary h | isNull h =>
    refine ⟨rfl, fun ht => ?_⟩
    simp [operationOf, part (by simp) h ht]
  | call hentry hparams hvalue =>
    rename_i spelling args entry params value
    obtain ⟨hkeyword, hkept⟩ := forall_of_forall₂ hparams
    rw [hparams.length_eq] at hentry
    have hnode : ∀ labels, (Tree.call spelling args).AllPlaced → (Node.call labels _ params).AllKept :=
      fun labels ht => Node.allKept_call.mpr
        ⟨kept_head (ht spelling args .refl) hentry hvalue hkeyword,
          hkept fun s hs => ht.part hs⟩
    unfold spelledCall callOf
    split_ifs
    · exact ⟨rfl, hnode _⟩
    · exact ⟨rfl, hnode _⟩
  | countStar hentry =>
    refine ⟨rfl, fun _ => Node.allKept_call.mpr ⟨kept_newHead hentry ?_, by simp⟩⟩
    simp [CallHead.argc]
  | case htested hbranches hfinal =>
    refine ⟨rfl, fun ht => ?_⟩
    have htested' := option htested (by simp +contextual) ht
    have hfinal' := option hfinal (by simp +contextual) ht
    have hbranches' := allKept_of_branches hbranches
      (fun b hb => ⟨ht.part (Tree.mem_parts_case hb).1, ht.part (Tree.mem_parts_case hb).2⟩)
      (by simpa using htested')
    rw [caseOf, Node.allKept_case]
    exact ⟨by simpa using hbranches', hfinal'⟩
  | cast h htype =>
    refine ⟨rfl, fun ht => ?_⟩
    simp [part (by simp) h ht]
  | trimFrom hentry hset h | trimPlain _ hentry hset h =>
    have hargc (o : Option Tree) : o.toList.length + 1 = if o.isSome then 2 else 1 := by
      cases o <;> rfl
    refine lowered_form hentry ?_ fun ht => ?_
    · rw [argc_newHead (by decide), countP_trimParams h.2.notKeyword, countP_of_rel hset]
      exact hargc _
    · exact allKept_trimParams (option hset (by simp +contextual) ht) (part (by simp) h ht)
  | extract hfield hentry h =>
    refine lowered_form hentry ?_ fun ht => ?_
    · have hname : Text.upper "EXTRACT" = "EXTRACT" := by decide
      simp [CallHead.argc, newHead, hname, h.2.notKeyword]
    · simp [part (by simp) h ht]
  | substring hguard hentry h hfirst hcount =>
    rename_i source start length keywordForm entry n first count
    have hfirst' := countP_of_rel hfirst
    have hcount' := countP_of_rel hcount
    refine lowered_form hentry ?_ fun ht => ?_
    · rw [argc_newHead (by decide)]
      cases keywordForm <;>
        simp [List.countP_append, countP_clause, hfirst', hcount', h.2.notKeyword] <;> omega
    · have hn := part (by simp) h ht
      have hfirst := option hfirst (by simp +contextual) ht
      have hcount := option hcount (by simp +contextual) ht
      cases keywordForm with
      | false => simpa [hn, or_imp, forall_and] using ⟨hfirst, hcount⟩
      | true =>
        simpa [hn, or_imp, forall_and] using
          ⟨Node.allKept_clause hfirst, Node.allKept_clause hcount⟩
  | position hentry hn hh =>
    refine lowered_form hentry ?_ fun ht => ?_
    · rw [argc_newHead (by decide)]
      simp [hn.2.notKeyword, hh.2.notKeyword]
    · simp [part (by simp) hn ht, part (by simp) hh ht]
  | overlay hentry hn hr hs hl =>
    have hlength := countP_of_rel hl
    refine lowered_form hentry ?_ fun ht => ?_
    · rw [argc_newHead (by decide)]
      simp [countP_clause, hlength, hn.2.notKeyword, hr.2.notKeyword, hs.2.notKeyword]
      omega
    · simpa [part (by simp) hn ht, part (by simp) hr ht, part (by simp) hs ht] using
        Node.allKept_clause (option hl (by simp +contextual) ht)
  | convert hguard hentry hn hs =>
    rename_i operand charset target style entry n s
    have hstyle := countP_of_rel hs
    refine lowered_form hentry ?_ fun ht => ?_
    · have hname : Text.upper "CONVERT" = "CONVERT" := by decide
      cases charset <;> simp [CallHead.argc, newHead, hname, hn.2.notKeyword, hstyle] <;> omega
    · have hn := part (by simp) hn ht
      have hs := option hs (by simp +contextual) ht
      cases charset <;> simpa [hn] using hs

theorem lowered_of_lower (hstd : env.collaborators = .standard) {t : Tree} {n : Node}
    (h : env.lower d t = .ok n) : Lowered t n :=
  lower_induction (P := fun _ => Lowered) hstd (fun _ _ _ h => h.lowered) h

end Environment

/-- **Every call of what was bound is found again.** The shape that its head and its parameters
show finds the entry whose number it carries; the quantifiers exclude each other and belong to
aggregates, and a session value belongs to an entry that the session answers. -/
theorem resolve_of_bind (config : Config) (session : Session) (t : Tree) (n : Node)
    (hplaced : ∀ spelling args, Tree.Within (.call spelling args) t →
      spelling.alternative = none ∨
        spelling.alternative = (familyOf? spelling.keyword).bind (·.alternativeOf? spelling.keyword))
    (h : ({ config := config, session := session } : Environment).bind t = .ok n)
    (labels : Labels) (head : CallHead) (params : List Node)
    (hcall : Node.Within (.call labels head params) n) :
    ∃ entry, resolve head.name (head.shape params) = .ok entry ∧ entry.id = head.id ∧
      ¬(head.distinct ∧ head.all) ∧ (head.distinct ∨ head.all → entry.isAggregate) ∧
      (head.sessionValue.isSome → entry.functionClass = .session) := by
  have hkept := (Environment.lowered_of_lower rfl h).allKept hplaced labels head params hcall
  obtain ⟨entry, hentry, hid, hsession⟩ := hkept.found
  refine ⟨entry, hentry, hid, hkept.single, fun hquantifier => ?_, hsession⟩
  have haggregate := hkept.aggregate hquantifier
  obtain ⟨b, -, -, hlookup, -⟩ := resolve_eq_ok.mp hentry
  rw [CallHead.isAggregate, ← hid, isAggregate, hlookup] at haggregate
  exact haggregate

/-- `stddev_pop(DISTINCT a)`, with the place of its spelling among the deviations. -/
def deviation : Tree :=
  .call ⟨"stddev_pop", some 1, some .distinct, true⟩ [.identifier [⟨"a", none⟩]]

/-- The deviation is found again without its place, by its name and its quantifier. -/
theorem resolve_of_deviation : ∃ labels head params,
    ({} : Environment).bind deviation = .ok (.call labels head params) ∧
    head.name = "STDDEV_POP" ∧ head.shape params = { argc := 1, quantifier := some .distinct } ∧
    ∃ entry, resolve head.name (head.shape params) = .ok entry ∧ entry.id = head.id ∧
      ¬(head.distinct ∧ head.all) ∧ (head.distinct ∨ head.all → entry.isAggregate) ∧
      (head.sessionValue.isSome → entry.functionClass = .session) := by
  refine ⟨_, _, _, rfl, rfl, rfl, resolve_of_bind {} {} deviation _ ?_ rfl _ _ _ .refl⟩
  intro spelling args hcall
  rcases hcall.cases_tail with hroot | ⟨c, hcall, hc⟩
  · cases hroot
    exact .inr rfl
  · obtain rfl := List.mem_singleton.mp hc
    rcases hcall.cases_tail with hname | ⟨_, _, hnone⟩
    · cases hname
    · cases hnone

end SqlNormal
