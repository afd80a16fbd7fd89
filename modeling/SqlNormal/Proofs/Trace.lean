import SqlNormal.Node.Calls
import SqlNormal.Proofs.Induction

/-!
# Lowering loses nothing

On the way through a tree one meets calls, literals and names; on the way through a node, functions,
values and columns. Lowering takes what is met in a tree to what is met in its node, in the same
order and without a loss. Only the operand of a simple CASE is met more than once: in front of the
value of every branch.

* `Site`, `Tree.trace`: what is met in a tree; a TRIM with `FROM` has its characters first;
* `Mark`, `Node.trace`: what is met in a node, its keywords apart;
* `Site.mark?`: the mark of a site by itself;
* `Node.preorder`: the nodes that occur in a node, in the order in which they begin;
* `Note`, `notes_lower`: with the name and the quantifier of every call, what is met in a node is
  what is met in its tree;
* **`trace_lower`**, **`calls_lower`**: the same for the marks, and for the calls alone;
* **`leaves_and_calls_of_bind`**: leaves and functions.
-/

namespace SqlNormal

/-! ## What is met -/

/-- A call, a literal or a path of names of a tree. -/
inductive Site where
  | call (keyword : String) (shape : CallShape)
  | literal (l : Literal)
  | path (parts : List Ident)

/-- A function, a value or a column of a node. -/
inductive Mark where
  | call (id : FunctionId)
  | value (v : Value)
  | column (qualifier : List String) (name : String)
deriving DecidableEq

/-- The site is a call. -/
def Site.isCall : Site → Bool
  | call _ _ => true
  | _ => false

/-- The mark is a function's. -/
def Mark.isCall : Mark → Bool
  | call _ => true
  | _ => false

/-- The value that a literal denotes. A literal of a type without values of its own is a text. -/
def Literal.value? : Literal → Option Value
  | number text => Value.ofNumeral? text
  | string s => some (.varchar s)
  | boolean b => some (.boolean b)
  | null => some .null
  | interval text => some (.interval text)
  | typed typeName text =>
    if Text.upper typeName = "DATE" then (Date.read text.toList).toOption.map .date
    else if Text.upper typeName = "TIME" then (Time.read text.toList).toOption.map .time
    else if Text.upper typeName = "TIMESTAMP" then
      (Timestamp.read text.toList).toOption.map .timestamp
    else some (.varchar text)

/-- The mark of a site. -/
def Site.mark? : Site → Option Mark
  | call keyword shape => (resolve keyword shape).toOption.map fun e => .call e.id
  | literal l => l.value?.map .value
  | path parts => parts.getLast?.map fun own => .column (parts.dropLast.map Ident.folded) own.folded

/-- The sites of a tree in the order in which they are written. -/
def Tree.trace : Tree → List Site
  | literal l => [.literal l]
  | identifier parts => [.path parts]
  | nested inner => trace inner
  | binary left _ right => trace left ++ trace right
  | unary _ operand => trace operand
  | isNull operand _ => trace operand
  | call spelling args => .call spelling.keyword (spelling.shape args.length) :: traceList args
  | countStar keyword => [.call keyword .ofStar]
  | case operand branches otherwise =>
    traceBranches (traceOption operand) branches ++ traceOption otherwise
  | cast operand _ => trace operand
  | trim _ characters hasFrom source =>
    .call "TRIM" (.ofCount (if characters.isSome then 2 else 1)) ::
      (if hasFrom then traceOption characters ++ trace source
        else trace source ++ traceOption characters)
  | extract _ source => .call "EXTRACT" (.ofCount 2) :: trace source
  | substring source start length _ =>
    .call "SUBSTRING" (.ofCount (1 + start.toList.length + length.toList.length)) ::
      (trace source ++ traceOption start ++ traceOption length)
  | position needle haystack => .call "POSITION" (.ofCount 2) :: (trace needle ++ trace haystack)
  | overlay source replacement start length =>
    .call "OVERLAY" (.ofCount (3 + length.toList.length)) ::
      (trace source ++ trace replacement ++ trace start ++ traceOption length)
  | convert operand _ _ style =>
    .call "CONVERT" (.ofCount (2 + style.toList.length)) :: (trace operand ++ traceOption style)
termination_by structural t => t
where
  /-- The sites of trees in a row. -/
  traceList : List Tree → List Site
    | [] => []
    | t :: ts => trace t ++ traceList ts
  termination_by structural ts => ts
  /-- The sites of a tree that may be absent. -/
  traceOption : Option Tree → List Site
    | none => []
    | some t => trace t
  termination_by structural t => t
  /-- The sites of the branches of a CASE; those of its operand stand before each value. -/
  traceBranches (operand : List Site) : List (Tree × Tree) → List Site
    | [] => []
    | (condition, result) :: rest =>
      operand ++ trace condition ++ trace result ++ traceBranches operand rest
  termination_by structural bs => bs

/-- The literals and names of a tree. -/
def Tree.leaves (t : Tree) : List Site :=
  t.trace.filter fun s => !s.isCall

/-- The calls of a tree. -/
def Tree.callSites (t : Tree) : List Site :=
  t.trace.filter Site.isCall

namespace Node

/-- The mark of a node itself. A keyword has none. -/
def mark? : Node → Option Mark
  | constant _ value => if value.isKeyword then none else some (.value value)
  | column _ qualifier name => some (.column qualifier name)
  | call _ head _ => some (.call head.id)
  | _ => none

/-- The marks of a node, its own before those of its parts. -/
def trace : Node → List Mark
  | constant l value => (constant l value).mark?.toList
  | column l qualifier name => (column l qualifier name).mark?.toList
  | columns _ _ => []
  | call _ head params => .call head.id :: traceList params
  | case _ branches otherwise => traceBranches branches ++ traceOption otherwise
  | cast _ operand _ => trace operand
  | operation _ _ operands => traceList operands
termination_by structural n => n
where
  /-- The marks of nodes in a row. -/
  traceList : List Node → List Mark
    | [] => []
    | n :: ns => trace n ++ traceList ns
  termination_by structural ns => ns
  /-- The marks of a node that may be absent. -/
  traceOption : Option Node → List Mark
    | none => []
    | some n => trace n
  termination_by structural n => n
  /-- The marks of the branches of a CASE. -/
  traceBranches : List (Node × Node) → List Mark
    | [] => []
    | (predicate, result) :: rest => trace predicate ++ trace result ++ traceBranches rest
  termination_by structural bs => bs

/-- The values and columns of a node. -/
def leaves (n : Node) : List Mark :=
  n.trace.filter fun m => !m.isCall

/-! ## Nodes in order -/

/-- The nodes that occur in a node, each before its parts. -/
def preorder (n : Node) : List Node :=
  n :: n.children.attach.flatMap fun m => m.1.preorder
termination_by sizeOf n
decreasing_by exact sizeOf_lt_of_mem_children m.2

theorem preorder_eq (n : Node) : n.preorder = n :: n.children.flatMap preorder := by
  rw [preorder]
  congr 1
  exact List.flatMap_subtype (g := preorder) (fun m _ => rfl) |>.trans (by simp)

/-- What is read off each node is read off a node before its parts. -/
theorem filterMap_preorder {α : Type} (f : Node → Option α) (n : Node) :
    n.preorder.filterMap f =
      (f n).toList ++ n.children.flatMap fun m => m.preorder.filterMap f := by
  rw [preorder_eq, List.filterMap_cons, List.filterMap_flatMap]
  cases f n <;> rfl

theorem traceList_eq (ns : List Node) : trace.traceList ns = ns.flatMap trace := by
  induction ns with
  | nil => rfl
  | cons n ns ih => rw [trace.traceList, ih, List.flatMap_cons]

theorem traceOption_eq (n : Option Node) : trace.traceOption n = n.toList.flatMap trace := by
  cases n <;> simp [trace.traceOption]

theorem trace_eq (n : Node) : n.trace = n.mark?.toList ++ n.children.flatMap trace := by
  cases n with
  | constant l v | column l q c | columns l q => simp [trace, mark?, children]
  | call l head ns => simp [trace, mark?, children, traceList_eq]
  | cast l m t => simp [trace, mark?, children]
  | operation l op ns => simp [trace, mark?, children, traceList_eq]
  | case l bs o =>
    have hbs : trace.traceBranches bs = (bs.flatMap fun b => [b.1, b.2]).flatMap trace := by
      induction bs with
      | nil => rfl
      | cons b bs ih => simp [trace.traceBranches, ih]
    simp [trace, mark?, children, hbs, traceOption_eq]

theorem calls_eq (n : Node) : n.calls = n.callHead?.toList ++ n.children.flatMap calls := by
  have hlist (ns : List Node) : calls.callsList ns = ns.flatMap calls := by
    induction ns with
    | nil => rfl
    | cons n ns ih => rw [calls.callsList, ih, List.flatMap_cons]
  cases n with
  | constant l v | column l q c | columns l q => simp [calls, callHead?, children]
  | call l head ns => simp [calls, callHead?, children, hlist]
  | cast l m t => simp [calls, callHead?, children]
  | operation l op ns => simp [calls, callHead?, children, hlist]
  | case l bs o =>
    have hbs : calls.callsBranches bs = (bs.flatMap fun b => [b.1, b.2]).flatMap calls := by
      induction bs with
      | nil => rfl
      | cons b bs ih => simp [calls.callsBranches, ih]
    cases o <;> simp [calls, callHead?, children, hbs]

theorem trace_eq_filterMap (n : Node) : n.trace = n.preorder.filterMap mark? := by
  induction n using Node.induction with
  | step n ih => rw [trace_eq, filterMap_preorder, List.flatMap_congr ih]

/-- Calls are met where the nodes are. -/
theorem calls_eq_filterMap (n : Node) : n.calls = n.preorder.filterMap callHead? := by
  induction n using Node.induction with
  | step n ih => rw [calls_eq, filterMap_preorder, List.flatMap_congr ih]

theorem functionIds_eq_filterMap (n : Node) :
    n.functionIds = n.preorder.filterMap functionId? := by
  rw [functionIds, calls_eq_filterMap, List.map_filterMap]
  rfl

end Node

/-! ## Notes -/

/-- A function with the name and the quantifier of its call, a value or a column of a node. -/
inductive Note where
  | call (id : FunctionId) (name : String) (distinct : Bool)
  | value (v : Value)
  | column (qualifier : List String) (name : String)

/-- The note of a call. -/
def CallHead.note (head : CallHead) : Note :=
  .call head.id head.name head.distinct

/-- The mark that the note is of. -/
def Note.mark : Note → Mark
  | call id _ _ => .call id
  | value v => .value v
  | column qualifier name => .column qualifier name

/-- The note is a call's. -/
def Note.isCall : Note → Bool
  | call _ _ _ => true
  | _ => false

theorem Note.isCall_mark (m : Note) : m.mark.isCall = m.isCall := by
  cases m <;> rfl

/-- The note of a site. -/
def Site.note? : Site → Option Note
  | call keyword shape => (resolve keyword shape).toOption.map fun e =>
      .call e.id (Text.upper keyword) (shape.quantifier == some .distinct)
  | literal l => l.value?.map .value
  | path parts => parts.getLast?.map fun own => .column (parts.dropLast.map Ident.folded) own.folded

theorem Site.map_mark_note? (s : Site) : s.note?.map Note.mark = s.mark? := by
  cases s <;> simp [note?, mark?, Function.comp_def, Note.mark]

namespace Node

/-- The note of a node itself. A keyword has none. -/
def note? : Node → Option Note
  | constant _ value => if value.isKeyword then none else some (.value value)
  | column _ qualifier name => some (.column qualifier name)
  | call _ head _ => some head.note
  | _ => none

/-- The notes of a node, its own before those of its parts. -/
def notes (n : Node) : List Note :=
  n.preorder.filterMap note?

theorem trace_eq_notes (n : Node) : n.trace = n.notes.map Note.mark := by
  have hmark (m : Node) : m.mark? = m.note?.map Note.mark := by
    cases m with
    | constant l v => cases hv : v.isKeyword <;> simp [mark?, note?, hv, Note.mark]
    | _ => rfl
  rw [trace_eq_filterMap, notes, List.map_filterMap]
  exact List.filterMap_congr fun m _ => hmark m

/-- The notes of calls. -/
theorem calls_notes (n : Node) : n.calls.map CallHead.note = n.notes.filter Note.isCall := by
  have hcall (m : Node) : m.callHead?.map CallHead.note = m.note?.filter Note.isCall := by
    cases m with
    | constant l v =>
      cases hv : v.isKeyword <;> simp [callHead?, note?, hv, Option.filter, Note.isCall]
    | _ => rfl
  rw [calls_eq_filterMap, notes, List.map_filterMap, List.filter_filterMap]
  exact List.filterMap_congr fun m _ => hcall m

/-- The functions of a node are the marks of its calls. -/
theorem functionIds_eq (n : Node) : n.functionIds.map Mark.call = n.trace.filter Mark.isCall := by
  have hkind : Mark.isCall ∘ Note.mark = Note.isCall := funext Note.isCall_mark
  rw [trace_eq_notes, List.filter_map, hkind, ← calls_notes, functionIds, List.map_map,
    List.map_map]
  rfl

theorem notes_eq (n : Node) : n.notes = n.note?.toList ++ n.children.flatMap notes :=
  filterMap_preorder note? n

@[simp] theorem notes_constant (l : Labels) {v : Value} (hv : v.isKeyword = false) :
    (constant l v).notes = [.value v] := by
  simp [notes_eq, note?, children, hv]

@[simp] theorem notes_column (l : Labels) (qualifier : List String) (name : String) :
    (column l qualifier name).notes = [.column qualifier name] := by
  simp [notes_eq, note?, children]

@[simp] theorem notes_call (l : Labels) (head : CallHead) (params : List Node) :
    (call l head params).notes = head.note :: params.flatMap notes := by
  simp [notes_eq, note?, children]

@[simp] theorem notes_cast (l : Labels) (operand : Node) (target : SqlType) :
    (cast l operand target).notes = operand.notes := by
  simp [notes_eq, note?, children]

@[simp] theorem notes_operation (l : Labels) (op : Operator) (operands : List Node) :
    (operation l op operands).notes = operands.flatMap notes := by
  simp [notes_eq, note?, children]

@[simp] theorem notes_case (l : Labels) (branches : List (Node × Node)) (otherwise : Option Node) :
    (case l branches otherwise).notes =
      (branches.flatMap fun b => b.1.notes ++ b.2.notes) ++ otherwise.toList.flatMap notes := by
  simp [notes_eq, note?, children, List.flatMap_assoc]

@[simp] theorem notes_relabel (f : Labels → Labels) (n : Node) : (n.relabel f).notes = n.notes := by
  rw [notes_eq, notes_eq n]
  cases n <;> rfl

@[simp] theorem notes_compared (n : Node) : (compared n).notes = n.notes := by
  unfold compared inParens
  split_ifs <;> simp

@[simp] theorem notes_keyword (word : String) : (keyword word).notes = [] := by
  simp [keyword, ofValue, notes_eq, note?, children, Value.isKeyword]

theorem notes_clause (word : String) (n : Option Node) :
    (clause word n).flatMap notes = n.toList.flatMap notes := by
  cases n <;> simp [clause]

theorem notes_predicateOf (tested : Option Node) (v : Node) :
    (predicateOf tested v).notes = tested.toList.flatMap notes ++ v.notes := by
  cases tested <;> simp [predicateOf]

end Node

/-! ## Lowering -/

/-- The sites of a tree become the notes of a node. -/
def Noted (t : Tree) (n : Node) : Prop :=
  n.notes.map some = t.trace.map Site.note?

section Steps

variable {env : Environment} {d : Nat}

theorem noted_option {t : Option Tree} {n : Option Node}
    (h : Option.Rel (env.Part (fun _ => Noted) d) t n) :
    (n.toList.flatMap Node.notes).map some = (Tree.trace.traceOption t).map Site.note? := by
  cases h with
  | none => rfl
  | @some t n h =>
    have hn : n.notes.map some = t.trace.map Site.note? := h.2
    simpa [Tree.trace.traceOption] using hn

theorem noted_list {ts : List Tree} {ns : List Node}
    (h : List.Forall₂ (env.Part (fun _ => Noted) d) ts ns) :
    (ns.flatMap Node.notes).map some = (Tree.trace.traceList ts).map Site.note? := by
  induction h with
  | nil => rfl
  | cons h _ ih => rw [List.flatMap_cons, Tree.trace.traceList, List.map_append, List.map_append,
      h.2, ih]

theorem noted_branches {tested : Option Node} {sites : List Site}
    (ht : (tested.toList.flatMap Node.notes).map some = sites.map Site.note?)
    {bs : List (Tree × Tree)} {cs : List CaseBranch}
    (h : List.Forall₂ (env.BranchOf (fun _ => Noted) d tested) bs cs) :
    (cs.flatMap fun b => b.predicate.notes ++ b.result.notes).map some =
      (Tree.trace.traceBranches sites bs).map Site.note? := by
  induction h with
  | nil => rfl
  | @cons b c bs cs h _ ih =>
    obtain ⟨v, hv, -, hp, hr⟩ := h
    have hv : v.notes.map some = b.1.trace.map Site.note? := hv.2
    have hr : c.result.notes.map some = b.2.trace.map Site.note? := hr.2
    obtain ⟨condition, result⟩ := b
    simp only [List.flatMap_cons, Tree.trace.traceBranches, List.map_append, ih, hp,
      Node.notes_predicateOf, ht, hv, hr]

/-- A call in front of its parameters. -/
theorem noted_call {keyword : String} {shape : CallShape} {sites : List Site}
    {entry : CatalogEntry} {head : CallHead} {params : List Node} (labels : Labels)
    (hentry : resolve keyword shape = .ok entry)
    (hhead : head.note =
      .call entry.id (Text.upper keyword) (shape.quantifier == some .distinct))
    (hparams : (params.flatMap Node.notes).map some = sites.map Site.note?) :
    (Node.call labels head params).notes.map some =
      (.call keyword shape :: sites).map Site.note? := by
  have hsite : (Site.call keyword shape).note? = some head.note := by
    rw [Site.note?, hentry, hhead]
    rfl
  rw [Node.notes_call, List.map_cons, List.map_cons, hsite, hparams]

theorem noted_form {t : Tree} {keyword : String} {argc : Nat} {sites : List Site}
    {entry : CatalogEntry} {form : Bool} {params : List Node}
    (hentry : resolve keyword (.ofCount argc) = .ok entry)
    (ht : t.trace = .call keyword (.ofCount argc) :: sites)
    (hps : (params.flatMap Node.notes).map some = sites.map Site.note?) :
    Noted t (env.formCall entry keyword form params) := by
  rw [Noted, ht]
  exact noted_call _ hentry rfl hps

theorem isKeyword_ofNumeral? {text : String} {v : Value} (h : Value.ofNumeral? text = some v) :
    v.isKeyword = false := by
  unfold Value.ofNumeral? at h
  split at h
  · obtain rfl := Option.some.inj h
    rfl
  · dsimp only at h
    split at h
    · obtain rfl := Option.some.inj h
      rfl
    · obtain ⟨x, -, rfl⟩ := Option.map_eq_some_iff.mp h
      rfl

theorem temporal_eq_ok {α : Type} {typeName text : String} {make : α → Value}
    {read : Except TemporalFault α} {v : Value} :
    Environment.temporal typeName text make read = .ok v ↔ read.toOption.map make = some v := by
  cases read <;> simp [Environment.temporal, Except.toOption]

/-- A literal becomes a constant; of a type without values of its own it becomes a cast. -/
theorem forms_of_literal {l : Literal} {n : Node} (h : env.literal l = .ok n) :
    ∃ v, l.value? = some v ∧ v.isKeyword = false ∧
      ((∃ labels, n = .constant labels v) ∨
        ∃ labels target, n = .cast labels (.ofValue v) target) := by
  cases l with
  | number text =>
    unfold Environment.literal at h
    dsimp only at h
    cases hv : Value.ofNumeral? text with
    | none => simp [hv] at h
    | some v =>
      rw [hv] at h
      obtain rfl := pure_eq_ok.mp h
      exact ⟨v, hv, isKeyword_ofNumeral? hv, .inl ⟨_, rfl⟩⟩
  | string s | boolean b | null | interval text =>
    obtain rfl := pure_eq_ok.mp h
    exact ⟨_, rfl, rfl, .inl ⟨_, rfl⟩⟩
  | typed typeName text =>
    simp only [Environment.literal, Environment.typedLiteral] at h
    split_ifs at h with hdate htime hstamp
    · obtain ⟨v, hv, h⟩ := bind_eq_ok.mp h
      obtain rfl := pure_eq_ok.mp h
      obtain ⟨x, hx, rfl⟩ := Option.map_eq_some_iff.mp (temporal_eq_ok.mp hv)
      exact ⟨_, by simp [Literal.value?, hdate, hx], rfl, .inl ⟨_, rfl⟩⟩
    · obtain ⟨v, hv, h⟩ := bind_eq_ok.mp h
      obtain rfl := pure_eq_ok.mp h
      obtain ⟨x, hx, rfl⟩ := Option.map_eq_some_iff.mp (temporal_eq_ok.mp hv)
      exact ⟨_, by simp [Literal.value?, htime, hx], rfl, .inl ⟨_, rfl⟩⟩
    · obtain ⟨v, hv, h⟩ := bind_eq_ok.mp h
      obtain rfl := pure_eq_ok.mp h
      obtain ⟨x, hx, rfl⟩ := Option.map_eq_some_iff.mp (temporal_eq_ok.mp hv)
      exact ⟨_, by simp [Literal.value?, hstamp, hx], rfl, .inl ⟨_, rfl⟩⟩
    · obtain ⟨target, -, h⟩ := bind_eq_ok.mp h
      obtain rfl := pure_eq_ok.mp h
      exact ⟨.varchar text, by simp [Literal.value?, hdate, htime, hstamp], rfl, .inr ⟨_, _, rfl⟩⟩

/-- A path of names becomes a column. -/
theorem column_of_columnOf {parts : List Ident} {n : Node} (h : env.columnOf parts = .ok n) :
    ∃ labels own, parts.getLast? = some own ∧
      n = .column labels (parts.dropLast.map env.collaborators.foldCase)
        (env.collaborators.foldCase own) := by
  unfold Environment.columnOf at h
  cases hown : parts.getLast? with
  | none => simp [hown] at h
  | some own =>
    rw [hown] at h
    obtain rfl := pure_eq_ok.mp h
    exact ⟨_, own, rfl, rfl⟩

theorem noted_literal {l : Literal} {n : Node}
    (h : env.literal l = .ok n) : Noted (.literal l) n := by
  obtain ⟨v, hv, hk, ⟨labels, rfl⟩ | ⟨labels, target, rfl⟩⟩ := forms_of_literal h
  · simp [Noted, Tree.trace, Site.note?, hv, hk]
  · simp [Noted, Tree.trace, Node.ofValue, Site.note?, hv, hk]

/-- **A step of lowering keeps the notes.** -/
theorem noted_step (hstd : env.collaborators = .standard) {t : Tree} {n : Node}
    (h : env.Step (fun _ => Noted) d t n) : Noted t n := by
  cases h with
  | literal h => exact noted_literal h
  | @identifier parts n h =>
    obtain ⟨labels, own, hown, rfl⟩ := column_of_columnOf h
    simp [Noted, Tree.trace, Site.note?, hown, hstd, Collaborators.standard]
  | @nested t m h =>
    rw [Noted, Node.withText, Node.notes_relabel, Node.inParens, Node.notes_relabel]
    exact h.2
  | @binary l op r a b ha hb =>
    have ha : a.notes.map some = l.trace.map Site.note? := ha.2
    have hb : b.notes.map some = r.trace.map Site.note? := hb.2
    simp [Noted, operationOf, Tree.trace, ha, hb]
  | unary h | isNull h =>
    rw [Noted, operationOf, Node.notes_operation, List.flatMap_singleton]
    exact h.2
  | @call spelling args entry params value hentry hparams hvalue =>
    unfold spelledCall callOf
    split_ifs
    · exact noted_call _ hentry rfl (noted_list hparams)
    · exact noted_call _ hentry rfl (noted_list hparams)
  | countStar hentry => exact noted_call _ hentry rfl rfl
  | @case operand branches otherwise tested lowered final ht hl hf =>
    have htested : ((tested.map compared).toList.flatMap Node.notes).map some =
        (Tree.trace.traceOption operand).map Site.note? := by
      rw [← noted_option ht]
      cases tested <;> simp
    rw [Noted, caseOf, Node.notes_case, List.flatMap_map, Tree.trace, List.map_append,
      List.map_append, noted_branches htested hl, noted_option hf]
  | cast h htype =>
    rw [Noted, Node.notes_cast]
    exact h.2
  | @trimFrom spec characters source entry set n hentry hset h =>
    have hn : n.notes.map some = source.trace.map Site.note? := h.2
    refine noted_form hentry rfl ?_
    cases spec <;> simp [trimParams, noted_option hset, hn]
  | @trimPlain spec characters source entry set n hplain hentry hset h =>
    have hn : n.notes.map some = source.trace.map Site.note? := h.2
    refine noted_form hentry rfl ?_
    cases spec <;> simp [trimParams, noted_option hset, hn]
  | @extract fieldToken source field entry n hfield hentry h =>
    have hn : n.notes.map some = source.trace.map Site.note? := h.2
    exact noted_form hentry rfl (by simp [hn])
  | @substring source start length form entry n first count hguard hentry h hfirst hcount =>
    have hn : n.notes.map some = source.trace.map Site.note? := h.2
    refine noted_form hentry rfl ?_
    split_ifs <;>
      simp [Node.notes_clause, hn, noted_option hfirst, noted_option hcount]
  | @position needle haystack entry n m hentry hn hm =>
    have hn : n.notes.map some = needle.trace.map Site.note? := hn.2
    have hm : m.notes.map some = haystack.trace.map Site.note? := hm.2
    exact noted_form hentry rfl (by simp [hn, hm])
  | @overlay source replacement start length entry n r s l hentry hn hr hs hl =>
    have hn : n.notes.map some = source.trace.map Site.note? := hn.2
    have hr : r.notes.map some = replacement.trace.map Site.note? := hr.2
    have hs : s.notes.map some = start.trace.map Site.note? := hs.2
    exact noted_form hentry rfl (by simp [Node.notes_clause, hn, hr, hs, noted_option hl])
  | @convert operand charset target style entry n s hguard hentry hn hs =>
    have hn : n.notes.map some = operand.trace.map Site.note? := hn.2
    refine noted_form hentry rfl ?_
    split_ifs <;> simp [hn, noted_option hs]

end Steps

section Lowered

variable {env : Environment} (hstd : env.collaborators = .standard) {d : Nat} {t : Tree} {n : Node}
include hstd

/-- **Lowering loses, repeats and moves nothing** but the operand of a simple CASE. -/
theorem notes_lower (h : env.lower d t = .ok n) :
    n.notes.map some = t.trace.map Site.note? :=
  Environment.lower_induction (P := fun _ => Noted) hstd (fun _ _ _ => noted_step hstd) h

theorem trace_lower (h : env.lower d t = .ok n) : n.trace.map some = t.trace.map Site.mark? := by
  have hnotes := congrArg (List.map (Option.map Note.mark)) (notes_lower hstd h)
  rw [Node.trace_eq_notes]
  simpa [Function.comp_def, Site.map_mark_note?] using hnotes

end Lowered

/-- What is kept of a list is what is kept of the list that it comes from. -/
theorem filter_map_some {α β : Type} {ms : List α} {ss : List β} {f : β → Option α}
    (h : ms.map some = ss.map f) {p : α → Bool} {q : β → Bool}
    (hpq : ∀ s m, f s = some m → p m = q s) :
    (ms.filter p).map some = (ss.filter q).map f := by
  induction ms generalizing ss with
  | nil =>
    obtain rfl : ss = [] := by simpa using h.symm
    rfl
  | cons m ms ih =>
    cases ss with
    | nil => simp at h
    | cons s ss =>
      obtain ⟨hm, hms⟩ := List.cons.inj h
      rw [List.filter_cons, List.filter_cons, hpq s m hm.symm]
      cases q s with
      | true => simpa [hm] using ih hms
      | false => simpa using ih hms

theorem Site.isCall_mark? {s : Site} {m : Mark} (h : s.mark? = some m) : m.isCall = s.isCall := by
  cases s with
  | call keyword shape =>
    obtain ⟨e, -, rfl⟩ := Option.map_eq_some_iff.mp h
    rfl
  | literal l =>
    obtain ⟨v, -, rfl⟩ := Option.map_eq_some_iff.mp h
    rfl
  | path parts =>
    obtain ⟨own, -, rfl⟩ := Option.map_eq_some_iff.mp h
    rfl

/-- Sites of one kind become marks of that kind. -/
theorem filter_marks {ms : List Mark} {ss : List Site} (h : ms.map some = ss.map Site.mark?)
    (keep : Bool → Bool) : (ms.filter fun m => keep m.isCall).map some =
      (ss.filter fun s => keep s.isCall).map Site.mark? :=
  filter_map_some h fun _ _ hm => congrArg keep (Site.isCall_mark? hm)

/-- **The calls of a node are those of its tree**, in the same order, each with its function, its
name and its quantifier; those in the operand of a simple CASE once for every branch. -/
theorem calls_lower {env : Environment} (hstd : env.collaborators = .standard) {d : Nat} {t : Tree}
    {n : Node} (h : env.lower d t = .ok n) :
    n.calls.map (fun head => some head.note) = t.callSites.map Site.note? := by
  have hkind (s : Site) (m : Note) (hm : s.note? = some m) : m.isCall = s.isCall := by
    have hmark : s.mark? = some m.mark := by rw [← Site.map_mark_note?, hm, Option.map_some]
    rw [← Site.isCall_mark? hmark, Note.isCall_mark]
  have hcalls := filter_map_some (notes_lower hstd h) hkind
  rwa [← Node.calls_notes, List.map_map] at hcalls

/-- **The leaves of a node are the literals and names of its tree, lowered one by one, and its
functions are those of the tree's calls.** -/
theorem leaves_and_calls_of_bind (config : Config) (session : Session) (t : Tree) (n : Node)
    (h : ({ config := config, session := session } : Environment).bind t = .ok n) :
    n.leaves.map some = t.leaves.map Site.mark? ∧
      n.functionIds.map (fun id => some (Mark.call id)) = t.callSites.map Site.mark? := by
  have htrace : n.trace.map some = t.trace.map Site.mark? := trace_lower rfl h
  refine ⟨filter_marks htrace (fun b => !b), ?_⟩
  have hcalls := filter_marks htrace (fun b => b)
  rwa [← Node.functionIds_eq, List.map_map] at hcalls

/-- `CASE a WHEN TRIM('x' FROM b) THEN NULL WHEN USER THEN TRIM(b, 'x') END`. -/
def simpleCase : Tree :=
  let b : Tree := .identifier [⟨"b", none⟩]
  let x : Tree := .literal (.string "x")
  .case (some (.identifier [⟨"a", none⟩]))
    [(.trim none (some x) true b, .literal .null),
      (.call ⟨"USER", none, none, false⟩ [], .trim none (some x) false b)] none

/-- The operand stands before both values, and the characters of a TRIM stand where they are
written. -/
theorem leaves_and_calls_of_simpleCase : ∃ n, ({} : Environment).bind simpleCase = .ok n ∧
    (n.leaves.map some = simpleCase.leaves.map Site.mark? ∧
      n.functionIds.map (fun id => some (Mark.call id)) = simpleCase.callSites.map Site.mark?) ∧
    n.leaves = [.column [] "a", .value (.varchar "x"), .column [] "b", .value .null,
      .column [] "a", .column [] "b", .value (.varchar "x")] ∧
    n.functionIds = [.trim, .user, .trim] :=
  ⟨_, rfl, leaves_and_calls_of_bind {} {} _ _ rfl, rfl, rfl⟩

end SqlNormal
