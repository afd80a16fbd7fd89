import SqlNormal.Proofs.FormPhrases
import SqlNormal.Proofs.Surroundings

/-!
# Texts of nodes that are read again

The text of a node is read as a tree, and the tree has a node of its own. That node has the same
text, and the same functions and columns are met in it; values and what is noted on the nodes inside
may differ.

* `Node.levels`: the levels that the text of a node takes, parentheses that an operand gets
  included;
* `Node.references`: the functions and columns that are met in a node;
* `Node.Echoes`: a node that has the text of another one and its functions and columns;
* `Environment.Yields`, `Rereads`, **`Node.Rereads`**: trees that are lowered, and texts of nodes
  that are read again;
* `Node.Rereads.nested`, `Node.Rereads.before`, `Node.Rereads.between`, `Node.Rereads.after`: nodes
  in parentheses and operators.
-/

namespace SqlNormal

open Sql (Token Spells AfterOperand)
open Sql.Reader (Phrase Whole operatorTokens map_keyToken)
open Climbing (FollowsSign)

/-! ## Levels -/

/-- The levels of what may stand in parentheses. -/
def Labels.levels (l : Labels) (k : Nat) : Nat :=
  if l.parenthesized then k + 1 else k

theorem Labels.levels_le (l : Labels) (k : Nat) : l.levels k ≤ k + 1 := by
  unfold levels
  split
  · exact Nat.le_refl _
  · exact Nat.le_succ k

namespace Node

/-- The operator at the root. -/
def operator? : Node → Option Operator
  | operation _ op _ => some op
  | _ => none

/-- The name of a column. -/
def own? : Node → Option String
  | column _ _ name => some name
  | _ => none

/-- The node gets parentheses as an operand. -/
def isWrapped (op : Operator) (last : Bool) (n : Node) : Bool :=
  !n.labels.parenthesized && n.operator?.any fun inner => needsParens op inner last

theorem placed_eq (op : Operator) (last : Bool) (n : Node) (text : String) :
    placed op last n text = if n.isWrapped op last then SqlNormal.inParens text else text := by
  cases n <;> simp [placed, isWrapped, operator?, labels]

/-- The levels that the text of a node takes. An operand that gets parentheses takes one more. -/
def levels : Node → Nat
  | constant l _ | column l _ _ | columns l _ => l.levels 1
  | call l _ params => l.levels (levelsList params + 1)
  | case l branches otherwise =>
    l.levels (max (levelsBranches branches) (levelsOption otherwise) + 1)
  | cast l operand _ => l.levels (levels operand + 1)
  | operation l op operands => l.levels (levelsOperands op true operands + 1)
termination_by structural n => n
where
  /-- The levels of the deepest of some nodes. -/
  levelsList : List Node → Nat
    | [] => 0
    | n :: ns => max (levels n) (levelsList ns)
  termination_by structural ns => ns
  /-- The levels of a node that may be absent. -/
  levelsOption : Option Node → Nat
    | none => 0
    | some n => levels n
  termination_by structural n => n
  /-- The levels of the deepest node of branches. -/
  levelsBranches : List (Node × Node) → Nat
    | [] => 0
    | (predicate, result) :: rest =>
      max (max (levels predicate) (levels result)) (levelsBranches rest)
  termination_by structural bs => bs
  /-- The levels of the deepest operand at its place. -/
  levelsOperands (op : Operator) (first : Bool) : List Node → Nat
    | [] => 0
    | n :: ns =>
      max (if n.isWrapped op (!first && ns.isEmpty) then levels n + 1 else levels n)
        (levelsOperands op false ns)
  termination_by structural ns => ns

/-! ### Parentheses -/

variable {n : Node}

theorem inParens_of_parenthesized (h : n.labels.parenthesized = true) : n.inParens = n := by
  cases n with
  | constant l _ | column l _ _ | columns l _ | call l _ _ | case l _ _ | cast l _ _
  | operation l _ _ =>
    obtain ⟨_, _, parenthesized, _⟩ := l
    obtain rfl : parenthesized = true := h
    rfl

theorem toSql_inParens (h : n.labels.parenthesized = false) :
    n.inParens.toSql = SqlNormal.inParens n.toSql := by
  cases n with
  | case l branches otherwise =>
    replace h : l.parenthesized = false := h
    cases otherwise <;> simp [inParens, relabel, toSql, wrap, h]
  | _ =>
    simp only [labels] at h
    simp [inParens, relabel, toSql, wrap, h]

theorem levels_inParens (h : n.labels.parenthesized = false) :
    n.inParens.levels = n.levels + 1 := by
  cases n <;> simp only [labels] at h <;> simp [inParens, relabel, levels, Labels.levels, h]

theorem levels_withText (n : Node) (text : String) : (n.withText text).levels = n.levels := by
  cases n <;> rfl

theorem levels_withName (n : Node) (name : Option String) :
    (n.withName name).levels = n.levels := by
  cases n <;> rfl

theorem parenthesized_inParens (n : Node) : n.inParens.labels.parenthesized = true := by
  cases n <;> rfl

theorem operator?_relabel (f : Labels → Labels) (n : Node) :
    (n.relabel f).operator? = n.operator? := by
  cases n <;> rfl

theorem own?_relabel (f : Labels → Labels) (n : Node) : (n.relabel f).own? = n.own? := by
  cases n <;> rfl

/-! ### How tightly a text holds together -/

/-- The level below which everything holds together. -/
def closedLevel : Nat := 50

/-- The level below which the text of a node is read as a whole. -/
def bindLevel (n : Node) : Nat :=
  if n.labels.parenthesized then closedLevel
  else n.operator?.elim closedLevel fun op =>
    if op.fixity = .before then closedLevel else op.level

/-- The level up to which something goes on from the text of a node as a whole. -/
def edgeLevel (n : Node) : Nat :=
  if n.labels.parenthesized then closedLevel
  else n.operator?.elim closedLevel fun op =>
    if op.fixity = .after then closedLevel else op.level

end Node

open Node (closedLevel)

theorem Operator.level_lt (op : Operator) : 0 < op.level ∧ op.level < closedLevel := by
  cases op <;> decide

theorem Node.bindLevel_pos (n : Node) : 0 < n.bindLevel := by
  have hclosed : 0 < closedLevel := by decide
  unfold bindLevel
  split
  · exact hclosed
  · cases n.operator? with
    | none => exact hclosed
    | some op =>
      rw [Option.elim_some]
      split
      · exact hclosed
      · exact op.level_lt.1

/-- An operand that gets no parentheses holds together at its place. -/
theorem level_of_needsParens {op inner : Operator} {last : Bool}
    (h : needsParens op inner last = false) :
    op.level ≤ (if inner.fixity = .before then closedLevel else inner.level) ∧
      op.level ≤ (if inner.fixity = .after then closedLevel else inner.level) ∧
      (op.fixity = .before ∨ last = true →
        op.level < if inner.fixity = .before then closedLevel else inner.level) := by
  have hall : ∀ op ∈ Operator.all, ∀ inner ∈ Operator.all, ∀ last,
      needsParens op inner last = false →
      op.level ≤ (if inner.fixity = .before then closedLevel else inner.level) ∧
        op.level ≤ (if inner.fixity = .after then closedLevel else inner.level) ∧
        (op.fixity = .before ∨ last = true →
          op.level < if inner.fixity = .before then closedLevel else inner.level) := by
    decide +kernel
  exact hall op op.mem_all inner inner.mem_all last h

/-! ## What is met -/

/-- The mark is a value's. -/
def Mark.isValue : Mark → Bool
  | value _ => true
  | _ => false

namespace Node

/-- The functions and columns that are met in a node. -/
def references (n : Node) : List Mark :=
  n.trace.filter fun m => !m.isValue

theorem references_eq (n : Node) : n.references =
    (n.mark?.toList.filter fun m => !m.isValue) ++ n.children.flatMap references := by
  rw [references, trace_eq, List.filter_append, List.filter_flatMap]
  rfl

@[simp] theorem references_constant (l : Labels) (v : Value) : (constant l v).references = [] := by
  cases hv : v.isKeyword <;> simp [references_eq, mark?, children, hv, Mark.isValue]

@[simp] theorem references_column (l : Labels) (qualifier : List String) (name : String) :
    (column l qualifier name).references = [.column qualifier name] := by
  simp [references_eq, mark?, children, Mark.isValue]

@[simp] theorem references_call (l : Labels) (head : CallHead) (params : List Node) :
    (call l head params).references = .call head.id :: params.flatMap references := by
  simp [references_eq (call _ _ _), mark?, children, Mark.isValue]

@[simp] theorem references_cast (l : Labels) (operand : Node) (target : SqlType) :
    (cast l operand target).references = operand.references := by
  simp [references_eq (cast _ _ _), mark?, children]

@[simp] theorem references_operation (l : Labels) (op : Operator) (operands : List Node) :
    (operation l op operands).references = operands.flatMap references := by
  simp [references_eq (operation _ _ _), mark?, children]

@[simp] theorem references_case (l : Labels) (branches : List (Node × Node))
    (otherwise : Option Node) : (case l branches otherwise).references =
      (branches.flatMap fun b => b.1.references ++ b.2.references) ++
        otherwise.toList.flatMap references := by
  simp [references_eq (case _ _ _), mark?, children, List.flatMap_assoc]

@[simp] theorem references_relabel (f : Labels → Labels) (n : Node) :
    (n.relabel f).references = n.references := by
  rw [references_eq, references_eq n]
  cases n <;> rfl

/-- The functions of a node are among its references. -/
theorem functionIds_of_references {m n : Node} (h : m.references = n.references) :
    m.functionIds = n.functionIds := by
  have hcalls (n : Node) : n.functionIds.map Mark.call = n.references.filter Mark.isCall := by
    rw [functionIds_eq, references, List.filter_filter]
    refine List.filter_congr fun mark _ => ?_
    cases mark <;> rfl
  have hmap : m.functionIds.map Mark.call = n.functionIds.map Mark.call := by
    rw [hcalls, hcalls, h]
  exact List.map_injective_iff.mpr (fun _ _ => Mark.call.inj) hmap

/-- A node that stands for another one: it has the text of that node, as an operand as well, and the
same functions and columns are met in it. -/
structure Echoes (m n : Node) : Prop where
  toSql : m.toSql = n.toSql
  references : m.references = n.references
  parenthesized : m.labels.parenthesized = n.labels.parenthesized
  operator : m.operator? = n.operator?
  own : m.own? = n.own?

theorem Echoes.placed {m n : Node} (h : m.Echoes n) (op : Operator) (last : Bool) :
    Node.placed op last m m.toSql = Node.placed op last n n.toSql := by
  rw [placed_eq, placed_eq, isWrapped, isWrapped, h.parenthesized, h.operator, h.toSql]

theorem Echoes.inParens {m n : Node} (h : m.Echoes n) : m.inParens.Echoes n.inParens := by
  refine ⟨?_, ?_, ?_, ?_, ?_⟩
  · cases hn : n.labels.parenthesized with
    | true =>
      rw [inParens_of_parenthesized hn, inParens_of_parenthesized (h.parenthesized.trans hn),
        h.toSql]
    | false => rw [toSql_inParens hn, toSql_inParens (h.parenthesized.trans hn), h.toSql]
  · rw [Node.inParens, Node.inParens, references_relabel, references_relabel, h.references]
  · rw [parenthesized_inParens, parenthesized_inParens]
  · rw [Node.inParens, Node.inParens, operator?_relabel, operator?_relabel, h.operator]
  · rw [Node.inParens, Node.inParens, own?_relabel, own?_relabel, h.own]

theorem Echoes.refl (n : Node) : n.Echoes n :=
  ⟨rfl, rfl, rfl, rfl, rfl⟩

theorem Echoes.trans {m n k : Node} (h : m.Echoes n) (h' : n.Echoes k) : m.Echoes k where
  toSql := h.toSql.trans h'.toSql
  references := h.references.trans h'.references
  parenthesized := h.parenthesized.trans h'.parenthesized
  operator := h.operator.trans h'.operator
  own := h.own.trans h'.own

/-- What is noted on a node beside its parentheses does not matter. -/
theorem echoes_relabel {f : Labels → Labels} (hf : ∀ l, (f l).parenthesized = l.parenthesized)
    (n : Node) : (n.relabel f).Echoes n where
  toSql := by
    have hrebuild : n.relabel f = n.rebuild f id id := by
      cases n <;> simp [Node.relabel, rebuild]
    rw [hrebuild, toSql_rebuild (k := id) hf (fun _ _ => rfl) fun _ _ _ _ _ => rfl]
  references := references_relabel f n
  parenthesized := by cases n <;> exact hf _
  operator := operator?_relabel f n
  own := own?_relabel f n

theorem echoes_withText (n : Node) (text : String) : (n.withText text).Echoes n :=
  echoes_relabel (f := fun l => { l with rawText := text }) (fun _ => rfl) n

/-- An operator with the texts and the references of other operands. -/
theorem echoes_operation {l l' : Labels} (hl : l.parenthesized = l'.parenthesized) {op : Operator}
    {ms ns : List Node}
    (htexts : toSql.sqlOperands op true ms = toSql.sqlOperands op true ns)
    (hreferences : ms.flatMap references = ns.flatMap references) :
    (operation l op ms).Echoes (operation l' op ns) where
  toSql := by rw [toSql, toSql, htexts, wrap, wrap, hl]
  references := by rw [references_operation, references_operation, hreferences]
  parenthesized := hl
  operator := rfl
  own := rfl

end Node

/-! ## Texts that are read again -/

namespace Environment

variable {env : Environment} {P Q : Node → Prop} {s t : Tree} {d : Nat}

/-- The tree is lowered at every level from which it stays within the bound. -/
def Yields (env : Environment) (t : Tree) (Q : Node → Prop) : Prop :=
  ∀ d, d + t.height ≤ env.config.maxDepth + 1 → ∃ m, env.lower d t = .ok m ∧ Q m

/-- A part of a tree within the bound is lowered. -/
theorem Yields.part (h : env.Yields s Q) (hs : s ∈ t.parts)
    (hd : d + t.height ≤ env.config.maxDepth + 1) : ∃ m, env.Part env.Lowers d s m ∧ Q m := by
  have hlt := Tree.height_lt_of_mem_parts hs
  have hpos := s.height_pos
  obtain ⟨m, hm, hQ⟩ := h (d + 1) (by omega)
  exact ⟨m, ⟨by omega, hm⟩, hQ⟩

/-- A tree is lowered if a step is taken at every level. -/
theorem Yields.of_step (hstd : env.collaborators = .standard)
    (h : ∀ d, d + t.height ≤ env.config.maxDepth + 1 → ∃ m, env.Step env.Lowers d t m ∧ Q m) :
    env.Yields t Q := by
  intro d hd
  obtain ⟨m, hm, hQ⟩ := h d hd
  exact ⟨m, lower_of_step hstd hm, hQ⟩

theorem Yields.mono (h : env.Yields t P) (hPQ : ∀ m, P m → Q m) : env.Yields t Q := by
  intro d hd
  obtain ⟨m, hm, hP⟩ := h d hd
  exact ⟨m, hm, hPQ m hP⟩

/-- The text is read as a tree of no more than so many levels, which holds together that tightly and
yields such a node. -/
structure Rereads (env : Environment) (text : String) (levels bind edge : Nat) (Q : Node → Prop) :
    Prop where
  sign : FollowsSign text
  read : ∃ tokens t, Spells AfterOperand text.toList tokens ∧ Phrase tokens t bind edge ∧
    t.height ≤ levels ∧ env.Yields t Q

end Environment

namespace Node

variable {env : Environment} {n : Node}

/-- The text of the node is read again as a node that stands for it. -/
def Rereads (env : Environment) (n : Node) : Prop :=
  env.Rereads n.toSql n.levels n.bindLevel n.edgeLevel (·.Echoes n)

/-- How tightly an operand has to hold together at a place of an operator. -/
structure Fits (op : Operator) (last : Bool) (bind edge : Nat) : Prop where
  le_bind : op.level ≤ bind
  le_edge : op.level ≤ edge
  lt_bind : op.fixity = .before ∨ last = true → op.level < bind

theorem fits_closed {op : Operator} {last : Bool} : Fits op last closedLevel closedLevel :=
  ⟨op.level_lt.2.le, op.level_lt.2.le, fun _ => op.level_lt.2⟩

/-- A node that gets no parentheses fits. -/
theorem fits_of_isWrapped {op : Operator} {last : Bool} (h : n.isWrapped op last = false) :
    Fits op last n.bindLevel n.edgeLevel := by
  unfold bindLevel edgeLevel
  unfold isWrapped at h
  split
  · exact fits_closed
  · rename_i hopen
    cases hop : n.operator? with
    | none => exact fits_closed
    | some inner =>
      have hneeds : needsParens op inner last = false := by simpa [hopen, hop] using h
      obtain ⟨hbind, hedge, hlast⟩ := level_of_needsParens hneeds
      exact ⟨hbind, hedge, hlast⟩

section Forms

variable (hstd : env.collaborators = .standard)
include hstd

/-- A node in parentheses. -/
theorem Rereads.inParens (h : n.Rereads env) :
    env.Rereads (SqlNormal.inParens n.toSql) (n.levels + 1) closedLevel closedLevel
      (·.Echoes n.inParens) := by
  obtain ⟨-, tokens, t, hspells, hphrase, hheight, hyields⟩ := h
  refine ⟨Climbing.followsSign_inParens _, _, .nested t, Climbing.spells_inParens hspells,
    (hphrase.nested n.bindLevel_pos).phrase, ?_, .of_step hstd fun d hd => ?_⟩
  · exact Tree.height_le_iff.mpr (by simpa using hheight)
  · obtain ⟨m, hm, hecho⟩ := hyields.part (by simp) hd
    exact ⟨_, .nested hm, (echoes_withText _ _).trans hecho.inParens⟩

/-- An operand at its place. -/
theorem Rereads.placed (h : n.Rereads env) (op : Operator) (last : Bool) : ∃ bind edge,
    Fits op last bind edge ∧ env.Rereads (Node.placed op last n n.toSql)
      (if n.isWrapped op last then n.levels + 1 else n.levels) bind edge fun m =>
        Node.placed op last m m.toSql = Node.placed op last n n.toSql ∧
          m.references = n.references := by
  rw [placed_eq]
  cases hwrapped : n.isWrapped op last with
  | false =>
    refine ⟨_, _, fits_of_isWrapped hwrapped, h.sign, ?_⟩
    obtain ⟨tokens, t, hspells, hphrase, hheight, hyields⟩ := h.read
    refine ⟨tokens, t, hspells, hphrase, hheight,
      hyields.mono fun m hecho => ⟨?_, hecho.references⟩⟩
    rw [hecho.placed, placed_eq, hwrapped]
  | true =>
    have hopen : n.labels.parenthesized = false := by
      rw [isWrapped, Bool.and_eq_true] at hwrapped
      simpa using hwrapped.1
    obtain ⟨hsign, tokens, t, hspells, hphrase, hheight, hyields⟩ := h.inParens hstd
    refine ⟨_, _, fits_closed, hsign, tokens, t, hspells, hphrase, hheight,
      hyields.mono fun m hecho => ⟨?_, ?_⟩⟩
    · have hclosed : m.isWrapped op last = false := by
        rw [isWrapped, hecho.parenthesized, parenthesized_inParens]
        rfl
      rw [placed_eq, hclosed, hecho.toSql, toSql_inParens hopen, if_neg Bool.false_ne_true,
        if_pos rfl]
    · rw [hecho.references, Node.inParens, references_relabel]

/-- A node in parentheses, whatever its text is noted as. -/
theorem Rereads.nested (h : n.Rereads env) : n.inParens.Rereads env := by
  cases hn : n.labels.parenthesized with
  | true => rwa [inParens_of_parenthesized hn]
  | false =>
    have hclosed : n.inParens.bindLevel = closedLevel ∧ n.inParens.edgeLevel = closedLevel := by
      rw [bindLevel, edgeLevel, parenthesized_inParens, if_pos rfl, if_pos rfl]
      exact ⟨rfl, rfl⟩
    rw [Node.Rereads, toSql_inParens hn, levels_inParens hn, hclosed.1, hclosed.2]
    exact h.inParens hstd

variable {l : Labels} (hl : l.parenthesized = false) {op : Operator}
include hl

/-- An operator in front of its operand. -/
theorem Rereads.before (hop : op.fixity = .before) (h : n.Rereads env) :
    (operation l op [n]).Rereads env := by
  obtain ⟨bind, edge, hfits, hsign, tokens, t, hspells, hphrase, hheight, hyields⟩ :=
    h.placed hstd op false
  have htext : (operation l op [n]).toSql = signed op (Node.placed op false n n.toSql) := by
    rw [Climbing.toSql_before l hop, wrap, hl]
    rfl
  have hlevels : (operation l op [n]).bindLevel = closedLevel ∧
      (operation l op [n]).edgeLevel = op.level := by
    simp [bindLevel, edgeLevel, labels, operator?, hl, hop]
  rw [Node.Rereads, htext, hlevels.1, hlevels.2]
  refine ⟨Climbing.followsSign_signed hop _, _, .unary op t,
    Climbing.spells_signed hop hsign hspells, ?_, ?_, .of_step hstd fun d hd => ?_⟩
  · have hlt : op.level < bind := hfits.lt_bind (.inl hop)
    rw [Climbing.tokensOf, map_keyToken]
    cases op with
    | not => exact (hphrase.not hlt hfits.le_edge).phrase
    | negate => exact (hphrase.sign (.inl rfl) hlt hfits.le_edge).phrase
    | identity => exact (hphrase.sign (.inr rfl) hlt hfits.le_edge).phrase
    | _ => cases hop
  · have hparts : (operation l op [n]).levels =
        (if n.isWrapped op false then n.levels + 1 else n.levels) + 1 := by
      simp [levels, levels.levelsOperands, Labels.levels, hl]
    rw [hparts]
    exact Tree.height_le_iff.mpr (by simpa using hheight)
  · obtain ⟨m, hm, hplaced, hreferences⟩ := hyields.part (by simp) hd
    refine ⟨_, .unary hm, echoes_operation hl.symm ?_ (by simpa using hreferences)⟩
    exact congrArg ([·]) hplaced

/-- An operator between its operands. -/
theorem Rereads.between (hop : op.fixity = .between) {a b : Node} (ha : a.Rereads env)
    (hb : b.Rereads env) : (operation l op [a, b]).Rereads env := by
  obtain ⟨bind, edge, hfits, hsign, tokens, x, hspells, hphrase, hheight, hyields⟩ :=
    ha.placed hstd op false
  obtain ⟨bind', edge', hfits', -, tokens', y, hspells', hphrase', hheight', hyields'⟩ :=
    hb.placed hstd op true
  have htext : (operation l op [a, b]).toSql = Node.placed op false a a.toSql ++
      (" " ++ op.text ++ " ") ++ Node.placed op true b b.toSql := by
    rw [Climbing.toSql_between l hop, wrap, hl]
    rfl
  have hlevels : (operation l op [a, b]).bindLevel = min op.level bind ∧
      (operation l op [a, b]).edgeLevel = op.level := by
    rw [Nat.min_eq_left hfits.le_bind]
    simp [bindLevel, edgeLevel, labels, operator?, hl, hop]
  rw [Node.Rereads, htext, hlevels.1, hlevels.2]
  refine ⟨?_, _, .binary x op y, Climbing.spells_between op hspells hspells', ?_, ?_,
    .of_step hstd fun d hd => ?_⟩
  · rw [String.append_assoc]
    exact hsign.append _
  · rw [Climbing.tokensOf, map_keyToken]
    exact hphrase.between hop hphrase' hfits.le_edge (hfits'.lt_bind (.inr rfl)) hfits'.le_edge
  · have hparts : (operation l op [a, b]).levels =
        max (if a.isWrapped op false then a.levels + 1 else a.levels)
          (if b.isWrapped op true then b.levels + 1 else b.levels) + 1 := by
      simp [levels, levels.levelsOperands, Labels.levels, hl]
    rw [hparts, Tree.height_le_iff]
    simpa using ⟨.inl hheight, .inr hheight'⟩
  · obtain ⟨m, hm, hplaced, hreferences⟩ := hyields.part (by simp) hd
    obtain ⟨m', hm', hplaced', hreferences'⟩ := hyields'.part (by simp) hd
    refine ⟨_, .binary hm hm', echoes_operation hl.symm ?_ (by simp [hreferences, hreferences'])⟩
    exact congrArg₂ ([·, ·]) hplaced hplaced'

/-- An operator behind its operand. -/
theorem Rereads.after {negated : Bool} (h : n.Rereads env) :
    (operation l (if negated then .isNotNull else .isNull) [n]).Rereads env := by
  set op : Operator := if negated then .isNotNull else .isNull with hdef
  obtain ⟨hop, hlevel⟩ : op.fixity = .after ∧ op.level = Operator.isNull.level := by
    cases negated <;> exact ⟨rfl, rfl⟩
  obtain ⟨bind, edge, hfits, hsign, tokens, t, hspells, hphrase, hheight, hyields⟩ :=
    h.placed hstd op false
  have htext : (operation l op [n]).toSql =
      Node.placed op false n n.toSql ++ " " ++ op.text := by
    rw [Climbing.toSql_after l hop, wrap, hl]
    rfl
  have hlevels : (operation l op [n]).bindLevel = min Operator.isNull.level bind ∧
      (operation l op [n]).edgeLevel = closedLevel := by
    rw [← hlevel, Nat.min_eq_left hfits.le_bind]
    simp [bindLevel, edgeLevel, labels, operator?, hl, hop]
  rw [Node.Rereads, htext, hlevels.1, hlevels.2]
  refine ⟨?_, _, .isNull t negated, Climbing.spells_after op hspells, ?_, ?_,
    .of_step hstd fun d hd => ?_⟩
  · rw [String.append_assoc]
    exact hsign.append _
  · rw [Climbing.tokensOf, map_keyToken]
    exact hphrase.isNull (hlevel.symm.trans_le hfits.le_edge)
  · have hparts : (operation l op [n]).levels =
        (if n.isWrapped op false then n.levels + 1 else n.levels) + 1 := by
      simp [levels, levels.levelsOperands, Labels.levels, hl]
    rw [hparts]
    exact Tree.height_le_iff.mpr (by simpa using hheight)
  · obtain ⟨m, hm, hplaced, hreferences⟩ := hyields.part (by simp) hd
    refine ⟨_, .isNull hm, echoes_operation hl.symm ?_ (by simpa using hreferences)⟩
    exact congrArg ([·]) hplaced

end Forms

end Node

end SqlNormal
