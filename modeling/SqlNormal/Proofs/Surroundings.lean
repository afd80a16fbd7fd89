import SqlNormal.Proofs.Nesting
import SqlNormal.Proofs.Resolution

/-!
# Two environments beside each other

What a call carries beside its parameters comes from its surroundings: the separators from the
configuration and a value from the session. The texts depend on the separators too, but only on
whether they have a comma. Two environments with the same nesting bound are told apart by nothing
else.

* `Node.seen`: what is seen of a node, its calls through a change of their heads and its texts if
  they are asked for;
* `Node.toSql_rebuild`: what the text of a node does not depend on;
* `Node.seen_callOf`, `Node.seen_caseOf` and so on: what is put together of parts that look the same
  looks the same;
* `Environment.Beside`: two environments whose heads look the same;
* **`Environment.lower_seen`**: what is lowered in them looks the same.
-/

namespace SqlNormal

open Text (Piece tokenText)

/-! ## What is seen of a node -/

/-- The labels, with the text if texts are seen. -/
def Labels.seen (texts : Bool) (l : Labels) : Labels :=
  if texts then l else { l with rawText := "" }

theorem Labels.seen_rawText {texts : Bool} {s t : String} (h : texts = true → s = t) :
    Labels.seen texts { rawText := s } = Labels.seen texts { rawText := t } := by
  cases texts with
  | false => rfl
  | true => rw [h rfl]

namespace Node

/-- What is seen of a node: its calls through a change of their heads, and its texts if they are
asked for. -/
def seen (texts : Bool) (f : CallHead → CallHead) : Node → Node
  | constant l value => constant (l.seen texts) value
  | column l qualifier name => column (l.seen texts) qualifier name
  | columns l qualifier => columns (l.seen texts) qualifier
  | call l head params => call (l.seen texts) (f head) (seenList params)
  | case l branches otherwise =>
    case (l.seen texts) (seenBranches branches) (seenOption otherwise)
  | cast l operand target => cast (l.seen texts) (seen texts f operand) target
  | operation l op operands => operation (l.seen texts) op (seenList operands)
termination_by structural n => n
where
  /-- Nodes in a row. -/
  seenList : List Node → List Node
    | [] => []
    | n :: ns => seen texts f n :: seenList ns
  termination_by structural ns => ns
  /-- A node that may be absent. -/
  seenOption : Option Node → Option Node
    | none => none
    | some n => some (seen texts f n)
  termination_by structural n => n
  /-- The branches of a CASE. -/
  seenBranches : List (Node × Node) → List (Node × Node)
    | [] => []
    | (predicate, result) :: rest =>
      (seen texts f predicate, seen texts f result) :: seenBranches rest
  termination_by structural bs => bs

section Seen

variable (texts : Bool) (f : CallHead → CallHead)

@[simp] theorem seenList_eq (ns : List Node) :
    seen.seenList texts f ns = ns.map (seen texts f) := by
  induction ns with
  | nil => rfl
  | cons n ns ih => rw [seen.seenList, ih, List.map_cons]

@[simp] theorem seenOption_eq (n : Option Node) :
    seen.seenOption texts f n = n.map (seen texts f) := by
  cases n <;> rfl

@[simp] theorem seenBranches_eq (bs : List (Node × Node)) :
    seen.seenBranches texts f bs = bs.map fun b => (b.1.seen texts f, b.2.seen texts f) := by
  induction bs with
  | nil => rfl
  | cons b bs ih => rw [seen.seenBranches, ih, List.map_cons]

end Seen

/-- The node with other labels, another head on its own call and other parts. -/
def rebuild (g : Labels → Labels) (f : CallHead → CallHead) (k : Node → Node) : Node → Node
  | constant l value => constant (g l) value
  | column l qualifier name => column (g l) qualifier name
  | columns l qualifier => columns (g l) qualifier
  | call l head params => call (g l) (f head) (params.map k)
  | case l branches otherwise =>
    case (g l) (branches.map fun b => (k b.1, k b.2)) (otherwise.map k)
  | cast l operand target => cast (g l) (k operand) target
  | operation l op operands => operation (g l) op (operands.map k)

theorem seen_eq (texts : Bool) (f : CallHead → CallHead) (n : Node) :
    n.seen texts f = n.rebuild (Labels.seen texts) f (seen texts f) := by
  cases n <;> simp [seen, rebuild]

theorem rebuild_congr {g : Labels → Labels} {f f' : CallHead → CallHead} {k k' : Node → Node}
    {n : Node} (hown : ∀ head ∈ n.callHead?, f head = f' head)
    (hparts : ∀ c ∈ n.children, k c = k' c) : n.rebuild g f k = n.rebuild g f' k' := by
  cases n with
  | constant l v | column l q c | columns l q => rfl
  | call l head ns =>
    have hns : ns.map k = ns.map k' := List.map_congr_left hparts
    rw [rebuild, rebuild, hown head rfl, hns]
  | cast l n t => rw [rebuild, rebuild, hparts n (by simp [children])]
  | operation l op ns =>
    have hns : ns.map k = ns.map k' := List.map_congr_left hparts
    rw [rebuild, rebuild, hns]
  | case l bs o =>
    simp only [children, List.mem_append, List.mem_flatMap, Option.mem_toList] at hparts
    have hbs : (bs.map fun b => (k b.1, k b.2)) = bs.map fun b => (k' b.1, k' b.2) := by
      refine List.map_congr_left fun b hb => ?_
      rw [hparts b.1 (.inl ⟨b, hb, by simp⟩), hparts b.2 (.inl ⟨b, hb, by simp⟩)]
    have ho : o.map k = o.map k' := Option.map_congr fun n hn => hparts n (.inr hn)
    rw [rebuild, rebuild, hbs, ho]

theorem rebuild_id (n : Node) : n.rebuild id id id = n := by
  cases n <;> simp [rebuild]

theorem children_rebuild (g : Labels → Labels) (f : CallHead → CallHead) (k : Node → Node)
    (n : Node) : (n.rebuild g f k).children = n.children.map k := by
  cases n with
  | case l bs o =>
    simp only [rebuild, children, List.map_append, List.map_flatMap, List.flatMap_map,
      List.map_cons, List.map_nil]
    cases o <;> rfl
  | _ => simp [rebuild, children]

/-! ### Texts -/

theorem sqlList_eq (ns : List Node) : toSql.sqlList ns = ns.map toSql := by
  induction ns with
  | nil => rfl
  | cons n ns ih => rw [toSql.sqlList, ih, List.map_cons]

theorem sqlBranches_eq (bs : List (Node × Node)) :
    toSql.sqlBranches bs = bs.map fun b => (b.1.toSql, b.2.toSql) := by
  induction bs with
  | nil => rfl
  | cons b bs ih => rw [toSql.sqlBranches, ih, List.map_cons]

section Texts

variable {k : Node → Node}

theorem sqlOperands_map (op : Operator) (first : Bool) {ns : List Node}
    (hsql : ∀ n ∈ ns, (k n).toSql = n.toSql)
    (hplaced : ∀ n ∈ ns, ∀ op last text, placed op last (k n) text = placed op last n text) :
    toSql.sqlOperands op first (ns.map k) = toSql.sqlOperands op first ns := by
  induction ns generalizing first with
  | nil => rfl
  | cons n ns ih =>
    rw [List.forall_mem_cons] at hsql hplaced
    have ih := ih false hsql.2 hplaced.2
    rw [List.map_cons, toSql.sqlOperands, toSql.sqlOperands, ih, List.isEmpty_map,
      hplaced.1, hsql.1]

/-- Other labels and other parts with the same texts at the same places make the same text, as long
as the parentheses stay. -/
theorem toSql_rebuild {g : Labels → Labels} (hg : ∀ l, (g l).parenthesized = l.parenthesized)
    {n : Node} (hsql : ∀ c ∈ n.children, (k c).toSql = c.toSql)
    (hplaced : ∀ c ∈ n.children, ∀ op last text, placed op last (k c) text = placed op last c text) :
    (n.rebuild g id k).toSql = n.toSql := by
  have hwrap (l : Labels) (text : String) : wrap (g l) text = wrap l text := by
    rw [wrap, wrap, hg]
  cases n with
  | constant l v | column l q c | columns l q => simp only [rebuild, toSql, hwrap]
  | call l head params =>
    have hparams : (params.map k).map toSql = params.map toSql := by
      rw [List.map_map]
      exact List.map_congr_left hsql
    simp only [rebuild, toSql, sqlList_eq, hparams, hwrap, id]
  | case l bs o =>
    simp only [children, List.mem_append, List.mem_flatMap, Option.mem_toList] at hsql
    have hbs : (bs.map fun b => (k b.1, k b.2)).map (fun b => (b.1.toSql, b.2.toSql)) =
        bs.map fun b => (b.1.toSql, b.2.toSql) := by
      rw [List.map_map]
      refine List.map_congr_left fun b hb => ?_
      rw [Function.comp_apply, hsql b.1 (.inl ⟨b, hb, by simp⟩), hsql b.2 (.inl ⟨b, hb, by simp⟩)]
    cases o with
    | none => simp only [rebuild, Option.map_none, toSql, sqlBranches_eq, hbs, hwrap]
    | some n =>
      simp only [rebuild, Option.map_some, toSql, sqlBranches_eq, hbs, hsql n (.inr rfl), hwrap]
  | cast l n t =>
    rw [rebuild, toSql, toSql, hsql n List.mem_cons_self, hwrap]
  | operation l op ns =>
    have hns : toSql.sqlOperands op true (ns.map k) = toSql.sqlOperands op true ns :=
      sqlOperands_map op true hsql hplaced
    rw [rebuild, toSql, toSql, hns, hwrap]

end Texts

theorem callHead?_rebuild (g : Labels → Labels) (f : CallHead → CallHead) (k : Node → Node)
    (n : Node) : (n.rebuild g f k).callHead? = n.callHead?.map f := by
  cases n <;> rfl

/-- The calls that are seen are those of the node, through the change of their heads. -/
theorem calls_seen (texts : Bool) (f : CallHead → CallHead) (n : Node) :
    (n.seen texts f).calls = n.calls.map f := by
  induction n using Node.induction with
  | step n ih =>
    have hparts : n.children.flatMap (fun c => (c.seen texts f).calls) =
        n.children.flatMap fun c => c.calls.map f := List.flatMap_congr ih
    rw [calls_eq, calls_eq, seen_eq, children_rebuild, callHead?_rebuild, Option.toList_map,
      List.map_append, List.map_flatMap, List.flatMap_map, hparts]

/-- Only the heads that occur make a difference. -/
theorem seen_congr {texts : Bool} {f f' : CallHead → CallHead} (n : Node)
    (h : ∀ head ∈ n.calls, f head = f' head) : n.seen texts f = n.seen texts f' := by
  induction n using Node.induction with
  | step n ih =>
    rw [calls_eq] at h
    rw [seen_eq, seen_eq]
    refine rebuild_congr (fun head hhead => ?_) fun c hc => ih c hc fun head hhead => ?_
    · exact h head (List.mem_append_left _ (Option.mem_toList.mpr hhead))
    · exact h head (List.mem_append_right _ (List.mem_flatMap.mpr ⟨c, hc, hhead⟩))

/-- All of a node is seen with its texts and its own heads. -/
theorem seen_id (n : Node) : n.seen true id = n := by
  induction n using Node.induction with
  | step n ih =>
    have hlabels : Labels.seen true = id := rfl
    rw [seen_eq, hlabels, rebuild_congr (fun _ _ => rfl) ih]
    exact rebuild_id n

theorem rawText_seen (f : CallHead → CallHead) (n : Node) :
    (n.seen true f).rawText = n.rawText := by
  cases n <;> rfl

/-! ## What is put together of parts -/

section Parts

variable {texts : Bool} {f g : CallHead → CallHead} {a b : Node} {ns ms : List Node}
  {o p : Option Node}

theorem rawText_of_seen (h : a.seen texts f = b.seen texts g) (ht : texts = true) :
    a.rawText = b.rawText := by
  subst ht
  rw [← rawText_seen f a, h, rawText_seen]

theorem pieces_of_seen (h : ns.map (seen texts f) = ms.map (seen texts g)) (ht : texts = true) :
    ns.map (fun n => Piece.token n.rawText) = ms.map fun n => Piece.token n.rawText := by
  subst ht
  have hpieces (f : CallHead → CallHead) (ns : List Node) :
      ns.map (fun n => Piece.token n.rawText) =
        (ns.map (seen true f)).map fun n => Piece.token n.rawText := by
    rw [List.map_map]
    exact List.map_congr_left fun n _ => by rw [Function.comp_apply, rawText_seen]
  rw [hpieces f ns, h, ← hpieces g ms]

@[simp] theorem isOperation_seen (n : Node) : (n.seen texts f).isOperation = n.isOperation := by
  cases n <;> rfl

@[simp] theorem seen_keyword (word : String) : (keyword word).seen texts f =
    constant (Labels.seen texts { rawText := word }) (.keyword word) := rfl

theorem seen_inParens (n : Node) : n.inParens.seen texts f = (n.seen texts f).inParens := by
  cases n <;> cases texts <;> rfl

theorem seen_compared (n : Node) : (compared n).seen texts f = compared (n.seen texts f) := by
  unfold compared
  rw [isOperation_seen]
  split_ifs
  · exact seen_inParens n
  · rfl

theorem seen_withText {s t : String} (h : a.seen texts f = b.seen texts g)
    (ht : texts = true → s = t) : (a.withText s).seen texts f = (b.withText t).seen texts g := by
  have hwithText (f : CallHead → CallHead) (n : Node) (s : String) :
      (n.withText s).seen texts f =
        (n.seen texts f).relabel fun l => Labels.seen texts { l with rawText := s } := by
    cases n <;> cases texts <;> rfl
  have hlabels : (fun l : Labels => Labels.seen texts { l with rawText := s }) =
      fun l => Labels.seen texts { l with rawText := t } := by
    cases texts with
    | false => rfl
    | true => rw [ht rfl]
  rw [hwithText, hwithText, h, hlabels]

theorem seen_operationOf (op : Operator) {pieces pieces' : List Piece}
    (h : ns.map (seen texts f) = ms.map (seen texts g)) (ht : texts = true → pieces = pieces') :
    (operationOf op ns pieces).seen texts f = (operationOf op ms pieces').seen texts g := by
  have hlabels := Labels.seen_rawText fun h => congrArg tokenText (ht h)
  simp only [operationOf, seen, seenList_eq, h, hlabels]

theorem seen_clause (word : String) (h : o.map (seen texts f) = p.map (seen texts g)) :
    (clause word o).map (seen texts f) = (clause word p).map (seen texts g) := by
  cases o with
  | none =>
    obtain rfl : p = none := Option.map_eq_none_iff.mp h.symm
    rfl
  | some a =>
    obtain ⟨b, rfl, hb⟩ := Option.map_eq_some_iff.mp h.symm
    simp [clause, hb]

theorem seen_toList (h : o.map (seen texts f) = p.map (seen texts g)) :
    o.toList.map (seen texts f) = p.toList.map (seen texts g) := by
  rw [← Option.toList_map, h, Option.toList_map]

theorem seen_trimParams (spec : Option TrimSpec) (hasFrom : Bool)
    (h : o.map (seen texts f) = p.map (seen texts g)) (hab : a.seen texts f = b.seen texts g) :
    (trimParams spec o hasFrom a).map (seen texts f) =
      (trimParams spec p hasFrom b).map (seen texts g) := by
  have hlist := seen_toList h
  cases spec <;> cases hasFrom <;> simp [trimParams, hlist, hab]

variable {head head' : CallHead}

/-- Two calls look the same if their heads and parameters do and their texts have the same commas. -/
theorem seen_callOf (keyword : String) (q : Option SetQuantifier) (hhead : f head = g head')
    (h : ns.map (seen texts f) = ms.map (seen texts g))
    (hcomma : texts = true → ns = [] ∨
      Text.contains head.separator "," = Text.contains head'.separator ",") :
    (callOf head keyword q ns).seen texts f = (callOf head' keyword q ms).seen texts g := by
  have hpieces : texts = true →
      callPieces keyword q head.separator ns = callPieces keyword q head'.separator ms := by
    intro ht
    have harguments := pieces_of_seen h ht
    unfold callPieces
    rcases hcomma ht with rfl | hcomma
    · obtain rfl : ms = [] := List.map_eq_nil_iff.mp h.symm
      simp
    · rw [harguments, hcomma]
  have hlabels := Labels.seen_rawText fun ht => congrArg tokenText (hpieces ht)
  simp only [callOf, seen, seenList_eq, h, hhead, hlabels]

theorem seen_spelledCall (spelling : CallSpelling) (hhead : f head = g head')
    (h : ns.map (seen texts f) = ms.map (seen texts g))
    (hcomma : texts = true → ns = [] ∨
      Text.contains head.separator "," = Text.contains head'.separator ",") :
    (spelledCall head spelling ns).seen texts f = (spelledCall head' spelling ms).seen texts g := by
  unfold spelledCall
  split_ifs
  · exact seen_callOf _ _ hhead h hcomma
  · simp only [seen, seenList_eq, h, hhead]

theorem seen_starCall (keyword : String) (hhead : f head = g head') :
    (starCall head keyword).seen texts f = (starCall head' keyword).seen texts g := by
  simp only [starCall, seen, seenList_eq, List.map_nil, hhead]

end Parts

end Node

/-- What is seen of a branch. -/
def CaseBranch.seen (texts : Bool) (f : CallHead → CallHead) (b : CaseBranch) : CaseBranch :=
  ⟨if texts then b.condition else "", b.predicate.seen texts f, b.result.seen texts f⟩

namespace Node

variable {texts : Bool} {f g : CallHead → CallHead}

theorem seen_caseOf {tested tested' otherwise otherwise' : Option Node}
    {branches branches' : List CaseBranch}
    (htested : texts = true → tested.map (seen texts f) = tested'.map (seen texts g))
    (hbranches : branches.map (CaseBranch.seen texts f) = branches'.map (CaseBranch.seen texts g))
    (hotherwise : otherwise.map (seen texts f) = otherwise'.map (seen texts g)) :
    (caseOf tested branches otherwise).seen texts f =
      (caseOf tested' branches' otherwise').seen texts g := by
  have hpieces : texts = true →
      casePieces tested branches otherwise = casePieces tested' branches' otherwise' := by
    rintro rfl
    have hshown (f : CallHead → CallHead) (bs : List CaseBranch) :
        (bs.flatMap fun b => [Piece.token "WHEN", .token b.condition, .token "THEN",
            .token b.result.rawText]) =
          (bs.map (CaseBranch.seen true f)).flatMap fun b =>
            [Piece.token "WHEN", .token b.condition, .token "THEN", .token b.result.rawText] := by
      rw [List.flatMap_map]
      exact List.flatMap_congr fun b _ => by simp [CaseBranch.seen, rawText_seen]
    have htested := pieces_of_seen (seen_toList (htested rfl)) rfl
    have hotherwise := pieces_of_seen (seen_toList hotherwise) rfl
    have hfinal : (otherwise.toList.flatMap fun n => [Piece.token "ELSE", .token n.rawText]) =
        otherwise'.toList.flatMap fun n => [Piece.token "ELSE", .token n.rawText] := by
      cases otherwise <;> cases otherwise' <;> simp_all
    unfold casePieces
    rw [htested, hshown f, hbranches, ← hshown g, hfinal]
  have hpairs (f : CallHead → CallHead) (bs : List CaseBranch) :
      (bs.map fun b => (b.predicate, b.result)).map (fun b => (b.1.seen texts f, b.2.seen texts f)) =
        (bs.map (CaseBranch.seen texts f)).map fun b => (b.predicate, b.result) := by
    simp [CaseBranch.seen, Function.comp_def]
  have hlabels := Labels.seen_rawText fun ht => congrArg tokenText (hpieces ht)
  simp only [caseOf, seen, seenBranches_eq, seenOption_eq, hpairs, hbranches, hotherwise, hlabels]

end Node

/-! ## Computations beside each other -/

section Map

variable {ε α α' β β' γ δ : Type} {p : α → γ} {q : α' → γ} {h : β → δ} {h' : β' → δ}

/-- Two computations that look the same pass it on to what follows them. -/
theorem map_bind {x : Except ε α} {y : Except ε α'} {k : α → Except ε β} {l : α' → Except ε β'}
    (hx : x.map p = y.map q)
    (hk : ∀ a a', x = .ok a → y = .ok a' → p a = q a' → (k a).map h = (l a').map h') :
    (x >>= k).map h = (y >>= l).map h' := by
  cases x with
  | error e =>
    cases y with
    | error e' =>
      obtain rfl : e = e' := Except.error.inj hx
      rfl
    | ok a' => cases hx
  | ok a =>
    cases y with
    | error e' => cases hx
    | ok a' => exact hk a a' rfl rfl (Except.ok.inj hx)

theorem map_bind_same {x : Except ε α} {k : α → Except ε β} {l : α → Except ε β'}
    (hk : ∀ a, x = .ok a → (k a).map h = (l a).map h') :
    (x >>= k).map h = (x >>= l).map h' := by
  refine map_bind (p := id) (q := id) rfl fun a a' ha _ haa' => ?_
  obtain rfl : a = a' := haa'
  exact hk a ha

theorem map_ite {c : Prop} [Decidable c] {x y : Except ε β} {x' y' : Except ε β'}
    (hx : x.map h = x'.map h') (hy : y.map h = y'.map h') :
    (if c then x else y).map h = (if c then x' else y').map h' := by
  split_ifs
  · exact hx
  · exact hy

end Map

/-- The separators of the configurations have the same commas. -/
def Config.SameCommas (c c' : Config) : Prop :=
  Text.contains c.separator "," = Text.contains c'.separator "," ∧
    Text.contains c.keywordSeparator "," = Text.contains c'.keywordSeparator ","

theorem Collaborators.seen_predicate {texts : Bool} {f g : CallHead → CallHead} (op : Operator)
    {a a' b b' : Node} (ha : a.seen texts f = a'.seen texts g)
    (hb : b.seen texts f = b'.seen texts g) :
    (predicate op a b).map (Node.seen texts f) = (predicate op a' b').map (Node.seen texts g) := by
  have hlabels : Labels.seen texts
      { rawText := a.rawText ++ " " ++ op.text ++ " " ++ b.rawText } =
      Labels.seen texts { rawText := a'.rawText ++ " " ++ op.text ++ " " ++ b'.rawText } := by
    refine Labels.seen_rawText fun ht => ?_
    rw [Node.rawText_of_seen ha ht, Node.rawText_of_seen hb ht]
  unfold predicate
  split_ifs
  · refine congrArg Except.ok ?_
    simp only [Node.seen, Node.seenList_eq, List.map_cons, List.map_nil, ha, hb, hlabels]
  · rfl

namespace Environment

/-- The head of a call of arguments in a row. -/
def rowHead (env : Environment) (entry : CatalogEntry) (spelling : CallSpelling)
    (value : Option Value) : CallHead :=
  { env.newHead entry.id spelling.keyword false with
    parenthesized := spelling.parenthesized
    distinct := spelling.quantifier == some .distinct
    all := spelling.quantifier == some .all
    sessionValue := value }

/-- Two environments beside each other. The heads that they give to a call look the same, and if
texts are seen the separators have the same commas, unless no call has a parameter at all. -/
structure Beside (texts : Bool) (f g : CallHead → CallHead) (env env' : Environment) : Prop where
  standard : env.collaborators = .standard
  standard' : env'.collaborators = .standard
  depth : env'.config.maxDepth = env.config.maxDepth
  commas : texts = true → 1 < env.config.maxDepth → env.config.SameCommas env'.config
  form : ∀ entry, lookup? entry.id = some entry → entry.functionClass ≠ .session →
    ∀ keyword keywordForm,
      f (env.newHead entry.id keyword keywordForm) = g (env'.newHead entry.id keyword keywordForm)
  row : ∀ entry, lookup? entry.id = some entry → ∀ spelling,
    (env.valueOfCall entry).map (fun value => f (env.rowHead entry spelling value)) =
      (env'.valueOfCall entry).map fun value => g (env'.rowHead entry spelling value)

/-- The spellings whose calls have a form of their own. -/
def formSpellings : List String :=
  ["TRIM", "EXTRACT", "SUBSTRING", "POSITION", "OVERLAY", "CONVERT"]

theorem notSession_of_formSpelling : ∀ keyword ∈ formSpellings, ∀ id ∈ idsForSpelling keyword,
    (lookup? id).all (fun entry => entry.functionClass ≠ .session) = true := by
  decide +kernel

section Beside

variable {texts : Bool} {f g : CallHead → CallHead} {env env' : Environment} {d : Nat}

section Heads

variable (hb : Beside texts f g env env')
include hb

theorem Beside.formCall {keyword : String} {shape : CallShape} {entry : CatalogEntry}
    {ns ms : List Node} (hdepth : 1 < env.config.maxDepth) (hkeyword : keyword ∈ formSpellings)
    (hentry : resolve keyword shape = .ok entry) (keywordForm : Bool)
    (h : ns.map (Node.seen texts f) = ms.map (Node.seen texts g)) :
    (env.formCall entry keyword keywordForm ns).seen texts f =
      (env'.formCall entry keyword keywordForm ms).seen texts g := by
  obtain ⟨b, hrule, hselect, hlookup, -⟩ := resolve_eq_ok.mp hentry
  have hid : entry.id ∈ idsForSpelling keyword := by
    simpa [idsForSpelling, hrule] using mem_targets_of_select hselect
  have hclass : entry.functionClass ≠ .session := by
    simpa [hlookup] using notSession_of_formSpelling keyword hkeyword entry.id hid
  refine Node.seen_callOf _ _ (hb.form entry hlookup hclass keyword keywordForm) h fun ht => .inr ?_
  obtain ⟨hrow, hform⟩ := hb.commas ht hdepth
  cases keywordForm with
  | false => exact hrow
  | true => exact hform

theorem Beside.starCall {keyword : String} {entry : CatalogEntry}
    (hentry : resolve keyword .ofStar = .ok entry) :
    (starCall (env.newHead entry.id keyword false) keyword).seen texts f =
      (starCall (env'.newHead entry.id keyword false) keyword).seen texts g := by
  obtain ⟨-, -, -, hlookup, -⟩ := resolve_eq_ok.mp hentry
  have hclass : entry.functionClass ≠ .session := by
    have hstar : lookup? .countStar = some entry := by
      rw [← (resolve_countStar_iff hentry).mpr rfl]
      exact hlookup
    have hcount : (lookup? .countStar).all (fun e => e.functionClass ≠ .session) = true := by
      decide +kernel
    simpa [hstar] using hcount
  exact Node.seen_starCall keyword (hb.form entry hlookup hclass keyword false)

theorem Beside.rowCall {entry : CatalogEntry} {ns ms : List Node}
    (hlookup : lookup? entry.id = some entry) (spelling : CallSpelling)
    (h : ns.map (Node.seen texts f) = ms.map (Node.seen texts g))
    (hdepth : ns = [] ∨ 1 < env.config.maxDepth) :
    (env.valueOfCall entry >>= fun value =>
        pure (spelledCall (env.rowHead entry spelling value) spelling ns)).map
          (Node.seen texts f) =
      (env'.valueOfCall entry >>= fun value =>
        pure (spelledCall (env'.rowHead entry spelling value) spelling ms)).map
          (Node.seen texts g) := by
  refine map_bind (hb.row entry hlookup spelling) fun value value' _ _ hhead => ?_
  refine congrArg Except.ok (Node.seen_spelledCall spelling hhead h fun ht => ?_)
  exact hdepth.imp_right fun hdepth => (hb.commas ht hdepth).1

theorem Beside.literal (l : Literal) :
    (env.literal l).map (Node.seen texts f) = (env'.literal l).map (Node.seen texts g) := by
  have hconstant (x : Except Error Value) (labels : Labels) :
      (do return Node.constant labels (← x)).map (Node.seen texts f) =
        (do return Node.constant labels (← x)).map (Node.seen texts g) := by
    cases x <;> rfl
  cases l with
  | number text =>
    simp only [Environment.literal]
    split <;> rfl
  | string s | boolean b | null | interval text => rfl
  | typed typeName text =>
    simp only [Environment.literal, typedLiteral, hb.standard, hb.standard']
    split_ifs
    · exact hconstant ..
    · exact hconstant ..
    · exact hconstant ..
    · cases Collaborators.standard.resolveType (.named typeName) <;> rfl

theorem Beside.columnOf (parts : List Ident) :
    (env.columnOf parts).map (Node.seen texts f) =
      (env'.columnOf parts).map (Node.seen texts g) := by
  simp only [Environment.columnOf, hb.standard, hb.standard']
  split <;> rfl

end Heads

/-! ## Parts beside each other -/

theorem map_lowerPart {β β' δ : Type} {t : Tree} {k : Node → Except Error β}
    {l : Node → Except Error β'} {h : β → δ} {h' : β' → δ}
    (ht : (env.lowerPart d t).map (Node.seen texts f) =
      (env'.lowerPart d t).map (Node.seen texts g))
    (hk : ∀ n m, d + 1 ≤ env.config.maxDepth → n.seen texts f = m.seen texts g →
      (k n).map h = (l m).map h') :
    (do k (← env.lower (← env.descend d) t)).map h =
      (do l (← env'.lower (← env'.descend d) t)).map h' := by
  rw [bind_lowerPart, bind_lowerPart]
  refine map_bind ht fun n m hn _ hnm => hk n m ?_ hnm
  obtain ⟨d', hd', -⟩ := bind_eq_ok.mp hn
  exact (descend_eq_ok.mp hd').1

theorem map_lowerList {ts : List Tree}
    (h : ∀ t ∈ ts, (env.lowerPart d t).map (Node.seen texts f) =
      (env'.lowerPart d t).map (Node.seen texts g)) :
    (lower.lowerList env d ts).map (List.map (Node.seen texts f)) =
      (lower.lowerList env' d ts).map (List.map (Node.seen texts g)) := by
  induction ts with
  | nil => rfl
  | cons t ts ih =>
    have ih := ih fun s hs => h s (List.mem_cons_of_mem _ hs)
    refine map_lowerPart (h t List.mem_cons_self) fun n m _ hnm => ?_
    refine map_bind ih fun ns ms _ _ hns => congrArg Except.ok ?_
    rw [List.map_cons, List.map_cons, hnm, hns]

theorem map_lowerOption {t : Option Tree}
    (h : ∀ s ∈ t, (env.lowerPart d s).map (Node.seen texts f) =
      (env'.lowerPart d s).map (Node.seen texts g)) :
    (lower.lowerOption env d t).map (Option.map (Node.seen texts f)) =
      (lower.lowerOption env' d t).map (Option.map (Node.seen texts g)) := by
  cases t with
  | none => rfl
  | some t =>
    refine map_lowerPart (h t rfl) fun n m _ hnm => congrArg Except.ok ?_
    rw [Option.map_some, Option.map_some, hnm]

theorem depth_of_lowerList {ts : List Tree} {ns : List Node}
    (h : lower.lowerList env d ts = .ok ns) : ns = [] ∨ d + 1 ≤ env.config.maxDepth := by
  cases forall₂_of_lowerList h with
  | nil => exact .inl rfl
  | cons hpart _ => exact .inr hpart.1

theorem map_lowerBranches (hb : Beside texts f g env env') {tested tested' : Option Node}
    {bs : List (Tree × Tree)}
    (htested : tested.map (Node.seen texts f) = tested'.map (Node.seen texts g))
    (h : ∀ b ∈ bs,
      (env.lowerPart d b.1).map (Node.seen texts f) =
        (env'.lowerPart d b.1).map (Node.seen texts g) ∧
      (env.lowerPart d b.2).map (Node.seen texts f) =
        (env'.lowerPart d b.2).map (Node.seen texts g)) :
    (lower.lowerBranches env d tested bs).map (List.map (CaseBranch.seen texts f)) =
      (lower.lowerBranches env' d tested' bs).map (List.map (CaseBranch.seen texts g)) := by
  induction bs with
  | nil => rfl
  | cons b bs ih =>
    obtain ⟨condition, result⟩ := b
    obtain ⟨hcondition, hresult⟩ := h (condition, result) List.mem_cons_self
    have ih := ih fun b hb => h b (List.mem_cons_of_mem _ hb)
    have hrest : ∀ p p' : String × Node, (texts = true → p.1 = p'.1) →
        p.2.seen texts f = p'.2.seen texts g →
        (do
          let r ← env.lower (← env.descend d) result
          let branches ← lower.lowerBranches env d tested bs
          return (⟨p.1, p.2, r⟩ : CaseBranch) :: branches).map
            (List.map (CaseBranch.seen texts f)) =
        (do
          let r ← env'.lower (← env'.descend d) result
          let branches ← lower.lowerBranches env' d tested' bs
          return (⟨p'.1, p'.2, r⟩ : CaseBranch) :: branches).map
            (List.map (CaseBranch.seen texts g)) := by
      intro p p' hcondition hpredicate
      refine map_lowerPart hresult fun r r' _ hr => ?_
      refine map_bind ih fun cs cs' _ _ hcs => congrArg Except.ok ?_
      have hbranch : CaseBranch.seen texts f ⟨p.1, p.2, r⟩ =
          CaseBranch.seen texts g ⟨p'.1, p'.2, r'⟩ := by
        cases texts with
        | false => simp [CaseBranch.seen, hpredicate, hr]
        | true => simp [CaseBranch.seen, hcondition rfl, hpredicate, hr]
      rw [List.map_cons, List.map_cons, hbranch, hcs]
    cases tested with
    | some operand =>
      obtain ⟨operand', rfl, hoperand⟩ := Option.map_eq_some_iff.mp htested.symm
      refine map_lowerPart hcondition fun value value' _ hvalue => ?_
      have hcompared : (compared value).seen texts f = (compared value').seen texts g := by
        rw [Node.seen_compared, Node.seen_compared, hvalue]
      rw [hb.standard, hb.standard']
      refine map_bind (Collaborators.seen_predicate .eq hoperand.symm hcompared)
        fun predicate predicate' _ _ hpredicate => ?_
      exact hrest (value.rawText, predicate) (value'.rawText, predicate')
        (Node.rawText_of_seen hvalue) hpredicate
    | none =>
      obtain rfl : tested' = none := Option.map_eq_none_iff.mp htested.symm
      refine map_bind (p := Node.seen texts f) (q := Node.seen texts g) ?_
        fun predicate predicate' _ _ hpredicate => ?_
      · rw [hb.standard, hb.standard']
        exact hcondition
      · exact hrest (predicate.rawText, predicate) (predicate'.rawText, predicate')
          (Node.rawText_of_seen hpredicate) hpredicate

/-! ## Trees beside each other -/

/-- **Lowering in two environments.** -/
theorem lower_seen (hb : Beside texts f g env env') (hd : 1 ≤ d) (t : Tree) :
    (env.lower d t).map (Node.seen texts f) = (env'.lower d t).map (Node.seen texts g) := by
  induction t using Tree.induction generalizing d with
  | step t ih =>
    have part : ∀ s ∈ t.parts, (env.lowerPart d s).map (Node.seen texts f) =
        (env'.lowerPart d s).map (Node.seen texts g) := by
      intro s hs
      unfold lowerPart descend
      rw [hb.depth]
      split_ifs
      · exact ih s hs (Nat.le_add_left 1 d)
      · rfl
    -- a part within the bound is at a level below the first one
    have deep : d + 1 ≤ env.config.maxDepth → 1 < env.config.maxDepth := by omega
    cases t with
    | literal l => exact hb.literal l
    | identifier parts => exact hb.columnOf parts
    | nested inner =>
      refine map_lowerPart (part inner (by simp)) fun n m _ hn => congrArg Except.ok ?_
      refine Node.seen_withText ?_ fun ht => by rw [Node.rawText_of_seen hn ht]
      rw [Node.seen_inParens, Node.seen_inParens, hn]
    | binary l op r =>
      refine map_lowerPart (part l (by simp)) fun a a' _ ha => ?_
      refine map_lowerPart (part r (by simp)) fun b b' _ hr => ?_
      have hpieces : texts = true →
          [Piece.token a.rawText, .token op.text, .token b.rawText] =
            [Piece.token a'.rawText, .token op.text, .token b'.rawText] := by
        intro ht
        rw [Node.rawText_of_seen ha ht, Node.rawText_of_seen hr ht]
      refine map_ite ?_ (congrArg Except.ok ?_)
      · rw [hb.standard, hb.standard']
        refine map_bind (Collaborators.seen_predicate op ha hr) fun n m _ _ hn => ?_
        exact congrArg Except.ok (Node.seen_withText hn fun ht => congrArg tokenText (hpieces ht))
      · exact Node.seen_operationOf op (by simp [ha, hr]) hpieces
    | unary op operand | isNull operand negated =>
      refine map_lowerPart (part operand (by simp)) fun n m _ hn => congrArg Except.ok ?_
      exact Node.seen_operationOf _ (by simp [hn]) fun ht => by rw [Node.rawText_of_seen hn ht]
    | call spelling args =>
      refine map_bind_same fun entry hentry => ?_
      obtain ⟨-, -, -, hlookup, -⟩ := resolve_eq_ok.mp hentry
      refine map_bind (map_lowerList part) fun ns ms hns _ h => ?_
      exact hb.rowCall hlookup spelling h ((depth_of_lowerList hns).imp_right deep)
    | countStar keyword =>
      exact map_bind_same fun entry hentry => congrArg Except.ok (hb.starCall hentry)
    | case operand branches otherwise =>
      have hoperand := map_lowerOption (t := operand) fun s hs => part s (by simp_all)
      have hotherwise := map_lowerOption (t := otherwise) fun s hs => part s (by simp_all)
      refine map_bind hoperand fun tested tested' _ _ htested => ?_
      have hcompared : (tested.map compared).map (Node.seen texts f) =
          (tested'.map compared).map (Node.seen texts g) := by
        have hmap (f : CallHead → CallHead) (o : Option Node) :
            (o.map compared).map (Node.seen texts f) = (o.map (Node.seen texts f)).map compared := by
          cases o <;> simp [Node.seen_compared]
        rw [hmap, htested, ← hmap]
      refine map_bind (map_lowerBranches hb hcompared fun b hb => ?_)
        fun lowered lowered' _ _ hlowered => ?_
      · exact ⟨part _ (Tree.mem_parts_case hb).1, part _ (Tree.mem_parts_case hb).2⟩
      refine map_bind hotherwise fun final final' _ _ hfinal => congrArg Except.ok ?_
      exact Node.seen_caseOf (fun _ => htested) hlowered hfinal
    | cast operand target =>
      refine map_lowerPart (part operand (by simp)) fun n m _ hn => ?_
      rw [hb.standard, hb.standard']
      refine map_bind_same fun type _ => congrArg Except.ok ?_
      have hlabels : Labels.seen texts { rawText := tokenText [.opening "CAST", .token n.rawText,
            .token "AS", .token target.text, .token ")"] } =
          Labels.seen texts { rawText := tokenText [.opening "CAST", .token m.rawText,
            .token "AS", .token target.text, .token ")"] } :=
        Labels.seen_rawText fun ht => by rw [Node.rawText_of_seen hn ht]
      simp only [Node.seen, hn, hlabels]
    | trim spec characters hasFrom source =>
      have hsource := part source (by simp)
      have hset := map_lowerOption (t := characters) fun s hs => part s (by simp_all)
      refine map_bind_same fun entry hentry => ?_
      split
      · rfl
      · refine map_bind hset fun set set' _ _ hset => map_lowerPart hsource fun n m hd hn => ?_
        exact congrArg Except.ok (hb.formCall (deep hd) (by decide) hentry true
          (Node.seen_trimParams _ true hset hn))
      · refine map_lowerPart hsource fun n m hd hn => map_bind hset fun set set' _ _ hset => ?_
        exact congrArg Except.ok (hb.formCall (deep hd) (by decide) hentry _
          (Node.seen_trimParams _ false hset hn))
    | extract fieldToken source =>
      refine map_bind_same fun field _ => map_bind_same fun entry hentry => ?_
      refine map_lowerPart (part source (by simp)) fun n m hd hn => congrArg Except.ok ?_
      exact hb.formCall (deep hd) (by decide) hentry true (by simp [hn])
    | substring source start length keywordForm =>
      have hstart := map_lowerOption (t := start) fun s hs => part s (by simp_all)
      have hlength := map_lowerOption (t := length) fun s hs => part s (by simp_all)
      refine map_ite rfl (map_bind_same fun entry hentry => ?_)
      refine map_lowerPart (part source (by simp)) fun n m hd hn => ?_
      refine map_bind hstart fun first first' _ _ hfirst => ?_
      refine map_bind hlength fun count count' _ _ hcount => congrArg Except.ok ?_
      refine hb.formCall (deep hd) (by decide) hentry keywordForm ?_
      cases keywordForm with
      | false => simp [hn, Node.seen_toList hfirst, Node.seen_toList hcount]
      | true => simp [hn, Node.seen_clause "FROM" hfirst, Node.seen_clause "FOR" hcount]
    | position needle haystack =>
      refine map_bind_same fun entry hentry => ?_
      refine map_lowerPart (part needle (by simp)) fun n m hd hn => ?_
      refine map_lowerPart (part haystack (by simp)) fun h h' _ hh => congrArg Except.ok ?_
      exact hb.formCall (deep hd) (by decide) hentry true (by simp [hn, hh])
    | overlay source replacement start length =>
      have hlength := map_lowerOption (t := length) fun s hs => part s (by simp_all)
      refine map_bind_same fun entry hentry => ?_
      refine map_lowerPart (part source (by simp)) fun n n' hd hn => ?_
      refine map_lowerPart (part replacement (by simp)) fun r r' _ hr => ?_
      refine map_lowerPart (part start (by simp)) fun s s' _ hs => ?_
      refine map_bind hlength fun l l' _ _ hl => congrArg Except.ok ?_
      exact hb.formCall (deep hd) (by decide) hentry true
        (by simp [hn, hr, hs, Node.seen_clause "FOR" hl])
    | convert operand charset target style =>
      have hstyle := map_lowerOption (t := style) fun s hs => part s (by simp_all)
      refine map_ite rfl (map_bind_same fun entry hentry => ?_)
      refine map_lowerPart (part operand (by simp)) fun n m hd hn => ?_
      refine map_bind hstyle fun s s' _ _ hs => congrArg Except.ok ?_
      refine hb.formCall (deep hd) (by decide) hentry charset ?_
      cases charset <;> simp [hn, Node.seen_toList hs]

end Beside

end Environment

end SqlNormal
