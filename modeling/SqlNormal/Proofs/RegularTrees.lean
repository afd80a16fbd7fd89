import SqlNormal.Proofs.RegularNodes

/-!
# Trees whose nodes are regular

Whether the node of a tree is regular is told by the tree, one form at a time. So a text tells by
the entries of its projection whether the projection that it is normalized to is written again.

* `Tree.isRegularForm`, `Tree.isRegular`, `Tree.isRegular_iff`: forms, and trees of such forms;
* `Environment.Step.regular`, **`Environment.regular_of_lower`**: the nodes of those are regular;
* `Environment.Step.levels_lt`, **`Environment.levels_lt_of_lower`**: the levels that the text of a
  node takes;
* **`Environment.regularColumns_of_text`**: the columns of a text;
* **`Environment.normalizeProjection_projectionText`**: projections of regular columns are written
  again.
-/

namespace SqlNormal

open Sql (isWord)
open Sql.Reader (plainWord specialWords timeWords typeWords callableTypes isTypeWord roundingWords
  knownFields)

variable {env : Environment}

/-! ## Parts of forms -/

/-- The type is written as a type: one of the language, or one that is passed through by a word. -/
def SqlType.isWritten : SqlType → Bool
  | custom name => isWord name && isTypeWord name && !Text.sameWord name "NULL"
  | _ => true

theorem SqlType.passesAgain {type : SqlType} (h : type.isWritten) (name : String)
    (hname : type = .custom name) : Sql.Reader.PassesAgain name := by
  subst hname
  simp only [isWritten, Bool.and_eq_true, Bool.not_eq_true'] at h
  exact Sql.Reader.passesAgain_word h.1.1 h.1.2 h.2

/-- The target of a cast is written as a type, if it names one. -/
def CastTarget.isWritten (target : CastTarget) : Bool :=
  match Collaborators.standard.resolveType target with
  | .ok type => type.isWritten
  | .error _ => true

theorem CastTarget.type_isWritten {target : CastTarget} (h : target.isWritten) {type : SqlType}
    (htype : Collaborators.standard.resolveType target = .ok type) : type.isWritten := by
  rwa [isWritten, htype] at h

/-- The text is the one that a type is written by. -/
def isWrittenType (text : String) : Bool :=
  match Collaborators.standard.resolveType (.named text) with
  | .ok type => type.isWritten && type.toSql == text
  | .error _ => false

theorem pronounced_of_isWrittenType {text : String} (h : isWrittenType text) :
    Sql.Reader.Pronounced text := by
  unfold isWrittenType at h
  split at h
  · rename_i type htype
    rw [Bool.and_eq_true, beq_iff_eq] at h
    exact h.2 ▸ Sql.Reader.pronounced_toSql (SqlType.passesAgain h.1)
      (Sql.Reader.sizes_of_resolveType htype)
  · cases h

/-- The value is written as a numeral of a number with the same text. -/
def Value.isNumeral (v : Value) : Bool :=
  (Binary64.readMagnitude? v.toSql.toList).isSome &&
    !(Binary64.read? v.toSql.toList).any Binary64.isInfinite &&
    (ofNumeral? v.toSql).map toSql == some v.toSql

theorem Value.isLiteral_of_isNumeral {v : Value} (h : v.isNumeral) : v.IsLiteral := by
  simp only [isNumeral, Bool.and_eq_true, Bool.not_eq_true', beq_iff_eq] at h
  obtain ⟨⟨hreadable, hfinite⟩, hvalue⟩ := h
  obtain ⟨v', hv', htext⟩ := Option.map_eq_some_iff.mp hvalue
  have hliteral : Sql.numeralLiteral ⟨v.toSql, hreadable⟩ = .ok (.number v.toSql) := by
    rw [Sql.numeralLiteral, hfinite]
    rfl
  exact .number rfl hliteral hv' htext

/-- The literal is written as a literal, or as a cast to a type that is written as one. -/
def Literal.isRegular : Literal → Bool
  | number text => (Value.ofNumeral? text).all Value.isNumeral
  | typed typeName _ =>
    temporalWords.contains (Text.upper typeName) || (CastTarget.named typeName).isWritten
  | _ => true

/-- The word calls a function with arguments in parentheses and has no form of its own. -/
def isCallable (word : String) : Bool :=
  isWord word && !Sql.Reader.isShy (plainWord word) &&
    (!specialWords.contains word || timeWords.contains word) &&
    (!("ANY" :: typeWords).contains word || callableTypes.contains word)

theorem callable_of_isCallable {word : String} (hupper : Text.upper word = word)
    (h : isCallable word) : isWord word ∧ Sql.Reader.Callable word := by
  simp only [isCallable, Bool.and_eq_true, Bool.or_eq_true, Bool.not_eq_true',
    ← Bool.not_eq_true, List.contains_iff_mem] at h
  obtain ⟨⟨⟨hword, hshy⟩, hform⟩, htype⟩ := h
  exact ⟨hword, by simpa using hshy, by rwa [hupper], by rwa [hupper]⟩

/-- The call is written with its arguments in parentheses, or as a word by itself. -/
def CallSpelling.isRegular (s : CallSpelling) (argc : Nat) : Bool :=
  (s.alternative.isNone ||
      s.alternative == (familyOf? s.keyword).bind (·.alternativeOf? s.keyword)) &&
    if s.parenthesized then
      isCallable (Text.upper s.keyword) && (s.quantifier.isNone || argc != 0) ||
        roundingWords.contains (Text.upper s.keyword) && argc == 1 && s.quantifier.isNone
    else Sql.bareWords.contains (Text.upper s.keyword) && argc == 0 && s.quantifier.isNone

/-- The field of an EXTRACT is written as a word that is the same field. -/
def isRegularField (fieldToken : String) : Bool :=
  match fieldOfToken fieldToken with
  | .ok field =>
    isWord field && (!knownFields.contains (Text.upper field) || Text.upper field == field) &&
      (fieldOfToken (field ++ "_FROM")).toOption == some field
  | .error _ => true

/-- Neither side of the operator is open to a comparison. -/
def Operator.isTight (op : Operator) : Bool :=
  (op.fixity == .before || decide (Sql.Strength.comparison < op.level)) &&
    (op.fixity == .after || decide (Sql.Strength.comparison ≤ op.level))

/-! ## Regular trees -/

namespace Tree

/-- The operator at the root. -/
def operator? : Tree → Option Operator
  | binary _ op _ | unary op _ => some op
  | isNull _ negated => some (if negated then .isNotNull else .isNull)
  | _ => none

/-- The node of the form at the root is written as it is read, if the nodes of its parts are. -/
def isRegularForm : Tree → Bool
  | literal l => l.isRegular
  | identifier parts =>
    (parts.head?.map Ident.folded).all fun name => !Node.takenNames.contains name
  | nested _ | isNull _ _ | overlay _ _ _ _ => true
  | binary _ op _ => op.fixity == .between
  | unary op _ => op.fixity == .before
  | call spelling args => spelling.isRegular args.length
  | countStar keyword => isCallable (Text.upper keyword)
  | case _ branches _ => !branches.isEmpty
  | cast _ target => target.isWritten
  | trim _ characters hasFrom _ => !hasFrom || characters.isSome
  | extract fieldToken _ => isRegularField fieldToken
  | substring _ start _ keywordForm => keywordForm || start.isSome
  | position needle _ => needle.operator?.all Operator.isTight
  | convert _ charset target style =>
    style.isNone && if charset then isWord target else isWrittenType target

/-- The forms of the tree down to some level are regular. -/
def isRegularTo : Nat → Tree → Bool
  | 0, _ => true
  | k + 1, t => t.isRegularForm && t.parts.all (isRegularTo k)

/-- All forms of the tree are regular. -/
def isRegular (t : Tree) : Bool :=
  t.isRegularTo t.height

theorem isRegularTo_iff {t : Tree} {k : Nat} (hk : t.height ≤ k) :
    t.isRegularTo k ↔ ∀ s, Within s t → s.isRegularForm := by
  induction k generalizing t with
  | zero => exact absurd hk (Nat.not_le.mpr t.height_pos)
  | succ k ih =>
    have hparts (s : Tree) (hs : s ∈ t.parts) :
        s.isRegularTo k ↔ ∀ r, Within r s → r.isRegularForm :=
      ih (by have := height_lt_of_mem_parts hs; omega)
    rw [isRegularTo, Bool.and_eq_true, List.all_eq_true]
    constructor
    · rintro ⟨hform, hall⟩ s hs
      rcases hs.cases_tail with rfl | ⟨c, hs, hc⟩
      · exact hform
      · exact (hparts c hc).mp (hall c hc) s hs
    · intro h
      exact ⟨h t .refl, fun s hs => (hparts s hs).mpr fun r hr => h r (hr.tail hs)⟩

theorem isRegular_iff {t : Tree} : t.isRegular ↔ ∀ s, Within s t → s.isRegularForm :=
  isRegularTo_iff (Nat.le_refl _)

/-- A regular tree has a regular form at its root, and its parts are regular. -/
theorem isRegular_root {t : Tree} (h : t.isRegular) :
    t.isRegularForm ∧ ∀ s ∈ t.parts, s.isRegular := by
  rw [isRegular_iff] at h
  exact ⟨h t .refl, fun s hs => isRegular_iff.mpr fun r hr => h r (hr.tail hs)⟩

end Tree

/-! ## Their nodes -/

theorem Node.Regular.relabel {n : Node} (h : n.Regular) (f : Labels → Labels) :
    (n.relabel f).Regular := by
  cases h with
  | constant h => exact .constant h
  | column h => exact .column h
  | call hhead hkept h => exact .call hhead hkept h
  | form hform h => exact .form hform h
  | before hop h => exact .before hop h
  | between hop ha hb => exact .between hop ha hb
  | after hop h => exact .after hop h
  | cast htype hcustom h => exact .cast htype hcustom h
  | case hne hpredicates hresults h => exact .case hne hpredicates hresults h

theorem Node.Regular.compared {n : Node} (h : n.Regular) : (compared n).Regular := by
  unfold SqlNormal.compared
  split
  · exact h.relabel _
  · exact h

/-- What is known of the node of a tree. -/
structure Shown (t : Tree) (n : Node) : Prop where
  lowered : Lowered t n
  operator : n.labels.parenthesized = true ∨ n.operator? = t.operator?
  regular : t.isRegular → n.Regular

/-- Neither side of the node is open to a comparison if none of the operator is. -/
theorem Shown.tight {t : Tree} {n : Node} (h : Shown t n) (ht : t.operator?.all Operator.isTight) :
    Sql.Strength.comparison < n.bindLevel ∧ Sql.Strength.comparison ≤ n.edgeLevel := by
  have hclosed : Sql.Strength.comparison < Node.closedLevel := by decide
  unfold Node.bindLevel Node.edgeLevel
  rcases h.operator with hparens | hoperator
  · rw [if_pos hparens, if_pos hparens]
    exact ⟨hclosed, hclosed.le⟩
  · rw [hoperator]
    split_ifs
    · exact ⟨hclosed, hclosed.le⟩
    · cases hop : t.operator? with
      | none => exact ⟨hclosed, hclosed.le⟩
      | some op =>
        have htight : op.isTight := by simpa [hop] using ht
        simp only [Operator.isTight, Bool.and_eq_true, Bool.or_eq_true, beq_iff_eq,
          decide_eq_true_eq] at htight
        simp only [Option.elim_some]
        split_ifs <;> simp_all [hclosed.le]

namespace Environment

variable {d : Nat}

theorem operator_of_step {P : Nat → Tree → Node → Prop} {t : Tree} {n : Node}
    (h : env.Step P d t n) : n.labels.parenthesized = true ∨ n.operator? = t.operator? := by
  cases h with
  | literal h =>
    obtain ⟨v, -, -, ⟨labels, rfl⟩ | ⟨labels, target, rfl⟩⟩ := forms_of_literal h
    · exact .inr rfl
    · exact .inr rfl
  | identifier h =>
    obtain ⟨labels, own, -, rfl⟩ := column_of_columnOf h
    exact .inr rfl
  | @nested t n h => exact .inl (by cases n <;> rfl)
  | call =>
    unfold spelledCall callOf
    split_ifs
    · exact .inr rfl
    · exact .inr rfl
  | _ => exact .inr rfl

section Regular

variable (hstd : env.collaborators = .standard)
include hstd

theorem regular_literal {l : Literal} {n : Node} (h : env.literal l = .ok n)
    (hl : l.isRegular) : n.Regular := by
  cases l with
  | number text =>
    have hl : (Value.ofNumeral? text).all Value.isNumeral := hl
    unfold literal at h
    dsimp only at h
    cases hv : Value.ofNumeral? text with
    | none => simp [hv] at h
    | some v =>
      rw [hv] at h hl
      obtain rfl := pure_eq_ok.mp h
      exact .constant (Value.isLiteral_of_isNumeral hl)
  | string s =>
    obtain rfl := pure_eq_ok.mp h
    exact .constant (.string s)
  | boolean b =>
    obtain rfl := pure_eq_ok.mp h
    exact .constant (.boolean b)
  | null =>
    obtain rfl := pure_eq_ok.mp h
    exact .constant .null
  | interval text =>
    obtain rfl := pure_eq_ok.mp h
    exact .constant (.interval text)
  | typed typeName text =>
    by_cases hword : Text.upper typeName ∈ temporalWords
    · obtain ⟨v, hv, rfl⟩ := (typedLiteral_eq_ok hword).mp h
      exact .constant (.temporal hword hv)
    · have htarget : (CastTarget.named typeName).isWritten := by
        simpa [Literal.isRegular, hword] using hl
      have hword : Text.upper typeName ≠ "DATE" ∧ Text.upper typeName ≠ "TIME" ∧
          Text.upper typeName ≠ "TIMESTAMP" := by
        simpa [temporalWords, not_or] using hword
      simp only [literal, typedLiteral, hword, if_false, hstd, bind_eq_ok] at h
      obtain ⟨type, htype, h⟩ := h
      obtain rfl := pure_eq_ok.mp h
      exact .cast htype (SqlType.passesAgain (CastTarget.type_isWritten htarget htype))
        (.constant (.string text))

theorem regular_column {parts : List Ident} {n : Node} (h : env.columnOf parts = .ok n)
    (hparts : (parts.head?.map Ident.folded).all fun name => !Node.takenNames.contains name) :
    n.Regular := by
  obtain ⟨labels, own, hown, rfl⟩ := column_of_columnOf h
  obtain ⟨front, rfl⟩ := List.getLast?_eq_some_iff.mp hown
  refine .column fun first hfirst => ?_
  rw [hstd, List.dropLast_concat] at hfirst
  have hfolded : first ∈ ((front ++ [own]).map Ident.folded).head? := by
    rwa [List.map_append, List.map_singleton]
  rw [List.head?_map] at hfolded
  rw [Option.mem_def.mp hfolded] at hparts
  simpa using hparts

end Regular

section Calls

variable {params : List Node} {entry : CatalogEntry}

/-- A call in a row of arguments, or a word. -/
theorem regular_call (hsession : env.session = {}) (hseparator : env.config.separator = ", ")
    {spelling : CallSpelling} {value : Option Value}
    (hentry : resolve spelling.keyword (spelling.shape params.length) = .ok entry)
    (hvalue : env.valueOfCall entry = .ok value) (hspelling : spelling.isRegular params.length)
    (hkeywords : ∀ p ∈ params, p.isKeyword = false) (h : ∀ p ∈ params, p.Regular) :
    (spelledCall { env.newHead entry.id spelling.keyword false with
        parenthesized := spelling.parenthesized
        distinct := spelling.quantifier == some .distinct
        all := spelling.quantifier == some .all
        sessionValue := value } spelling params).Regular := by
  have hnone := env.valueOfCall_none hsession hentry
  obtain rfl : none = value := Except.ok.inj (hnone.symm.trans hvalue)
  rw [CallSpelling.isRegular, Bool.and_eq_true, Bool.or_eq_true] at hspelling
  obtain ⟨hplaced, hspelling⟩ := hspelling
  have hkept := env.kept_head (hplaced.imp Option.isNone_iff_eq_none.mp eq_of_beq) hentry hvalue
    hkeywords
  set head : CallHead := { env.newHead entry.id spelling.keyword false with
    parenthesized := spelling.parenthesized
    distinct := spelling.quantifier == some .distinct
    all := spelling.quantifier == some .all
    sessionValue := none }
  have hupper : Text.upper head.name = head.name := Text.upper_upper spelling.keyword
  have hquantifier : head.quantifier? = spelling.quantifier := CallHead.quantifier?_eq rfl rfl
  have hstar : head.isCountStar = false := CallHead.isCountStar_eq hentry rfl
  have hnode (l : Labels) : (Node.call l head params).Regular := by
    by_cases hparens : spelling.parenthesized
    · rw [if_pos hparens, Bool.or_eq_true, Bool.and_eq_true, Bool.and_eq_true,
        Bool.and_eq_true] at hspelling
      rcases hspelling with ⟨hcallable, hsome⟩ | ⟨⟨hword, hone⟩, hnone⟩
      · obtain ⟨hword, hcallable⟩ := callable_of_isCallable hupper hcallable
        refine .call (.plain ⟨rfl, hseparator, hupper, hword, hcallable⟩ hparens hstar hkeywords
          ?_) hkept h
        rw [hquantifier]
        rintro hq rfl
        simp [Option.isNone_iff_eq_none] at hsome
        simp [hsome] at hq
      · obtain ⟨x, rfl⟩ := List.length_eq_one_iff.mp (by simpa using hone)
        have hnone : spelling.quantifier = none := by simpa using hnone
        obtain ⟨entry', hentry', hid, -⟩ := hkept.found
        rw [CallHead.shape, CallHead.argc_of_no_keyword hkeywords, hquantifier, hnone,
          hstar] at hentry'
        exact .form (.rounding ⟨rfl, hparens, hquantifier.trans hnone, hstar, rfl,
          entry', hentry', hid⟩ hseparator (List.contains_iff_mem.mp hword)) h
    · rw [if_neg hparens, Bool.and_eq_true, Bool.and_eq_true] at hspelling
      obtain ⟨⟨hword, hzero⟩, hnone⟩ := hspelling
      obtain rfl : params = [] := List.length_eq_zero_iff.mp (by simpa using hzero)
      have hnone : spelling.quantifier = none := by simpa using hnone
      exact .call (.bareWord rfl (by simpa using hparens) (List.contains_iff_mem.mp hword) hstar
        (hquantifier.trans hnone)) hkept h
  unfold spelledCall callOf
  split_ifs
  · exact hnode _
  · exact hnode _

theorem regular_star (hseparator : env.config.separator = ", ") {keyword : String}
    (hentry : resolve keyword .ofStar = .ok entry) (hcallable : isCallable (Text.upper keyword)) :
    (starCall (env.newHead entry.id keyword false) keyword).Regular := by
  have hupper : Text.upper (Text.upper keyword) = Text.upper keyword := Text.upper_upper keyword
  obtain ⟨hword, hcallable⟩ := callable_of_isCallable hupper hcallable
  have hstar : (env.newHead entry.id keyword false).isCountStar = true :=
    CallHead.isCountStar_eq hentry rfl
  exact .call (.star ⟨rfl, hseparator, hupper, hword, hcallable⟩ rfl hstar rfl)
    (kept_newHead hentry (CallHead.argc_nil _)) (List.forall_mem_nil _)

/-- The head of a call in a form of its own. -/
theorem worded_newHead {keyword : String} {form : Bool} {argc : Nat}
    (hentry : resolve keyword (.ofCount argc) = .ok entry) (hupper : Text.upper keyword = keyword) :
    (env.newHead entry.id keyword form).Worded keyword argc where
  session := rfl
  parenthesized := rfl
  quantifier := rfl
  star := CallHead.isCountStar_eq hentry rfl
  name := hupper
  found := ⟨entry, hentry, rfl⟩

end Calls

/-! ### One step -/

section Step

variable (hstd : env.collaborators = .standard) (hsession : env.session = {})
  (hseparator : env.config.separator = ", ") (hkeyword : env.config.keywordSeparator = " ")

theorem regular_of_branches {tested : Option Node} {bs : List (Tree × Tree)} {cs : List CaseBranch}
    (h : List.Forall₂ (env.BranchOf (fun _ => Shown) d tested) bs cs)
    (hbs : ∀ b ∈ bs, b.1.isRegular ∧ b.2.isRegular) (htested : ∀ m ∈ tested, m.Regular) :
    ∀ c ∈ cs, c.predicate.Regular ∧ c.result.Regular := by
  intro c hc
  obtain ⟨b, hb, v, hv, -, hpredicate, hresult⟩ := source_of_forall₂ h hc
  refine ⟨?_, hresult.2.regular (hbs b hb).2⟩
  rw [hpredicate]
  have hv := hv.2.regular (hbs b hb).1
  cases tested with
  | none => exact hv
  | some operand => exact .between rfl (htested operand rfl) hv.compared

include hstd hsession hseparator hkeyword in
/-- **One step of lowering.** Of regular parts a regular form makes a regular node. -/
theorem Step.regular {t : Tree} {n : Node} (h : env.Step (fun _ => Shown) d t n)
    (ht : t.isRegular) : n.Regular := by
  obtain ⟨hform, hparts⟩ := Tree.isRegular_root ht
  have part {s : Tree} {m : Node} (hs : s ∈ t.parts) (h : env.Part (fun _ => Shown) d s m) :
      m.Regular := h.2.regular (hparts s hs)
  have option {o : Option Tree} {m : Option Node}
      (h : Option.Rel (env.Part (fun _ => Shown) d) o m) (hs : ∀ s ∈ o, s ∈ t.parts) :
      ∀ x ∈ m, x.Regular := by
    intro x hx
    obtain ⟨s, hmem, hpart⟩ := source_of_rel h hx
    exact part (hs s hmem) hpart
  cases h with
  | literal h => exact regular_literal hstd h hform
  | identifier h => exact regular_column hstd h hform
  | nested h => exact ((part (by simp) h).relabel _).relabel _
  | binary ha hb =>
    exact .between (by simpa [Tree.isRegularForm] using hform) (part (by simp) ha)
      (part (by simp) hb)
  | unary h => exact .before (by simpa [Tree.isRegularForm] using hform) (part (by simp) h)
  | @isNull _ negated n h => exact .after (by cases negated <;> rfl) (part (by simp) h)
  | @call spelling args entry params value hentry hparams hvalue =>
    have hform : spelling.isRegular args.length := hform
    rw [hparams.length_eq] at hentry hform
    have hall : ∀ p ∈ params, p.isKeyword = false ∧ p.Regular := fun p hp => by
      obtain ⟨s, hs, hpart⟩ := source_of_forall₂ hparams hp
      exact ⟨hpart.2.lowered.notKeyword, part hs hpart⟩
    exact regular_call hsession hseparator hentry hvalue hform (fun p hp => (hall p hp).1)
      fun p hp => (hall p hp).2
  | countStar hentry => exact regular_star hseparator hentry hform
  | @case operand branches otherwise tested lowered final htested hbranches hfinal =>
    have htested' := option htested (by simp +contextual)
    have hfinal' := option hfinal (by simp +contextual)
    have hcompared : ∀ m ∈ tested.map compared, m.Regular := by
      cases tested with
      | none => exact fun _ hm => by cases hm
      | some operand =>
        rintro _ ⟨⟩
        exact (htested' operand rfl).compared
    have hregular := regular_of_branches hbranches (fun b hb =>
      ⟨hparts _ (Tree.mem_parts_case hb).1, hparts _ (Tree.mem_parts_case hb).2⟩) hcompared
    refine .case ?_ (by simpa using fun c hc => (hregular c hc).1)
      (by simpa using fun c hc => (hregular c hc).2) hfinal'
    have hne : branches ≠ [] := by simpa [Tree.isRegularForm] using hform
    have hlength := hbranches.length_eq
    intro hnil
    rw [List.map_eq_nil_iff.mp hnil, List.length_nil] at hlength
    exact hne (List.length_eq_zero_iff.mp hlength)
  | @cast t target n type h htype =>
    rw [hstd] at htype
    exact .cast htype (SqlType.passesAgain (CastTarget.type_isWritten hform htype))
      (part (by simp) h)
  | @trimFrom spec characters source entry set n hentry hset h =>
    have hsome : characters.isSome := hform
    have hset' := option hset (by simp +contextual)
    cases hset with
    | none => cases hsome
    | some _ =>
      exact .form (.trimFrom (worded_newHead hentry (by decide)) hkeyword)
        (by simpa using ⟨hset' _ rfl, part (by simp) h⟩)
  | @trimPlain spec characters source entry set n hplain hentry hset h =>
    have hset' := option hset (by simp +contextual)
    have hn := part (by simp) h
    cases spec with
    | some spec =>
      obtain rfl : characters = none := hplain rfl
      cases hset
      exact .form (.trimSides (worded_newHead hentry (by decide)) hkeyword)
        (List.forall_mem_singleton.mpr hn)
    | none =>
      cases hset with
      | none =>
        exact .form (.trim (worded_newHead hentry (by decide)) hseparator)
          (List.forall_mem_singleton.mpr hn)
      | some _ =>
        exact .form (.trimSet (worded_newHead hentry (by decide)) hseparator)
          (by simpa using ⟨hn, hset' _ rfl⟩)
  | @extract fieldToken source field entry n hfield hentry h =>
    have hform : isRegularField fieldToken := hform
    simp only [isRegularField, hfield, Bool.and_eq_true, Bool.or_eq_true, Bool.not_eq_true',
      ← Bool.not_eq_true, List.contains_iff_mem, beq_iff_eq] at hform
    obtain ⟨⟨hword, hknown⟩, hagain⟩ := hform
    exact .form (.extract (worded_newHead hentry (by decide)) hkeyword hword
      (fun hmem => hknown.resolve_left fun h => h hmem) (toOption_eq_some.mp hagain))
      (List.forall_mem_singleton.mpr (part (by simp) h))
  | @substring source start length keywordForm entry n first count hguard hentry h hfirst hcount =>
    have hn := part (by simp) h
    have hfirst' := option hfirst (by simp +contextual)
    have hcount' := option hcount (by simp +contextual)
    have hlength : first.toList.length = start.toList.length := by cases hfirst <;> simp
    have hlength' : count.toList.length = length.toList.length := by cases hcount <;> simp
    rw [← hlength, ← hlength'] at hentry
    cases keywordForm with
    | true =>
      refine .form (.substring (worded_newHead hentry (by decide)) hkeyword) ?_
      simpa [or_imp, forall_and, hn] using ⟨hfirst', hcount'⟩
    | false =>
      have hsome : start.isSome := hform
      cases hfirst with
      | none => cases hsome
      | some _ =>
        cases hcount with
        | none =>
          exact .form (.substringStart (worded_newHead hentry (by decide)) hseparator)
            (by simpa using ⟨hn, hfirst' _ rfl⟩)
        | some _ =>
          refine .form (.substringLength (worded_newHead hentry (by decide)) hseparator) ?_
          simpa [hn] using ⟨hfirst' _ rfl, hcount' _ rfl⟩
  | position hentry hn hh =>
    obtain ⟨hbind, hedge⟩ := hn.2.tight hform
    exact .form (.position (worded_newHead hentry (by decide)) hkeyword hbind hedge)
      (by simpa using ⟨part (by simp) hn, part (by simp) hh⟩)
  | @overlay source replacement start length entry n r s l hentry hn hr hs hl =>
    have hl' := option hl (by simp +contextual)
    have hlength : l.toList.length = length.toList.length := by cases hl <;> simp
    rw [← hlength] at hentry
    refine .form (.overlay (worded_newHead hentry (by decide)) hkeyword) ?_
    simpa [part (by simp) hn, part (by simp) hr, part (by simp) hs] using hl'
  | @convert operand charset target style entry n s hguard hentry hn hs =>
    simp only [Tree.isRegularForm, Bool.and_eq_true, Option.isNone_iff_eq_none] at hform
    obtain ⟨rfl, htarget⟩ := hform
    cases hs
    have hn := part (by simp) hn
    cases charset with
    | true =>
      exact .form (.convertUsing (worded_newHead hentry (by decide)) hkeyword htarget)
        (List.forall_mem_singleton.mpr hn)
    | false =>
      exact .form (.convertType (worded_newHead hentry (by decide)) hseparator
        (pronounced_of_isWrittenType htarget)) (List.forall_mem_singleton.mpr hn)

include hstd hsession hseparator hkeyword in
theorem Step.shown {t : Tree} {n : Node} (h : env.Step (fun _ => Shown) d t n) : Shown t n where
  lowered := (h.mono fun _ _ _ hm => hm.lowered).lowered
  operator := operator_of_step h
  regular := h.regular hstd hsession hseparator hkeyword

include hstd hsession hseparator hkeyword in
/-- **The node of a regular tree is regular.** -/
theorem regular_of_lower {t : Tree} {n : Node} (h : env.lower d t = .ok n) (ht : t.isRegular) :
    n.Regular :=
  (lower_induction (P := fun _ => Shown) hstd
    (fun _ _ _ h => h.shown hstd hsession hseparator hkeyword) h).regular ht

end Step

/-! ### Levels -/

section Levels

open Node (levels)

theorem levels_inParens_le (n : Node) : n.inParens.levels ≤ n.levels + 1 := by
  cases hn : n.labels.parenthesized with
  | false => exact (Node.levels_inParens hn).le
  | true =>
    rw [Node.inParens_of_parenthesized hn]
    exact Nat.le_succ _

theorem levels_compared_le (n : Node) : (compared n).levels ≤ n.levels + 1 := by
  unfold compared
  split
  · exact levels_inParens_le n
  · exact Nat.le_succ _

theorem levels_literal {l : Literal} {n : Node} (h : env.literal l = .ok n) : n.levels ≤ 2 := by
  cases l with
  | number text =>
    unfold literal at h
    dsimp only at h
    split at h
    · obtain rfl := pure_eq_ok.mp h
      exact Nat.le_succ 1
    · cases h
  | string s | boolean b | null | interval text =>
    obtain rfl := pure_eq_ok.mp h
    exact Nat.le_succ 1
  | typed typeName text =>
    simp only [literal, typedLiteral] at h
    split_ifs at h
    all_goals
      obtain ⟨_, -, h⟩ := bind_eq_ok.mp h
      obtain rfl := pure_eq_ok.mp h
      simp [levels, Labels.levels, Node.ofValue]

theorem levelsList_lt {k : Nat} {ns : List Node} (h : ∀ n ∈ ns, n.levels < k + 1) :
    levels.levelsList ns < k + 1 := by
  induction ns with
  | nil => exact Nat.succ_pos k
  | cons n ns ih =>
    obtain ⟨hn, hns⟩ := List.forall_mem_cons.mp h
    exact Nat.max_lt.mpr ⟨hn, ih hns⟩

theorem levelsOperands_lt {k : Nat} (op : Operator) (first : Bool) {ns : List Node}
    (h : ∀ n ∈ ns, n.levels < k) : levels.levelsOperands op first ns < k + 1 := by
  induction ns generalizing first with
  | nil => exact Nat.succ_pos k
  | cons n ns ih =>
    obtain ⟨hn, hns⟩ := List.forall_mem_cons.mp h
    rw [levels.levelsOperands]
    refine Nat.max_lt.mpr ⟨?_, ih false hns⟩
    split_ifs <;> omega

theorem levelsBranches_lt {k : Nat} {bs : List (Node × Node)}
    (h : ∀ b ∈ bs, b.1.levels < k + 1 ∧ b.2.levels < k + 1) :
    levels.levelsBranches bs < k + 1 := by
  induction bs with
  | nil => exact Nat.succ_pos k
  | cons b bs ih =>
    obtain ⟨hb, hbs⟩ := List.forall_mem_cons.mp h
    exact Nat.max_lt.mpr ⟨Nat.max_lt.mpr hb, ih hbs⟩

theorem isWrapped_compared (op : Operator) (last : Bool) (n : Node) :
    (compared n).isWrapped op last = false := by
  cases n <;>
    simp [compared, Node.isOperation, Node.isWrapped, Node.operator?, Node.inParens, Node.relabel,
      Node.labels]

/-- The predicate of a branch takes two levels more than what it compares. -/
theorem levels_of_branches {k : Nat} {tested : Option Node} {bs : List (Tree × Tree)}
    {cs : List CaseBranch}
    (h : List.Forall₂ (env.BranchOf (fun _ _ m => m.levels < k) d (tested.map compared)) bs cs)
    (htested : ∀ m ∈ tested, m.levels < k) :
    ∀ c ∈ cs, c.predicate.levels < k + 2 ∧ c.result.levels < k + 2 := by
  intro c hc
  obtain ⟨b, -, v, hv, -, hpredicate, hresult⟩ := source_of_forall₂ h hc
  have hresult : c.result.levels < k := hresult.2
  have hv : v.levels < k := hv.2
  refine ⟨?_, by omega⟩
  rw [hpredicate]
  cases tested with
  | none => exact hv.trans (by omega)
  | some operand =>
    have hleft := levels_compared_le operand
    have hright := levels_compared_le v
    have hoperand := htested operand rfl
    simp only [Option.map_some, predicateOf, levels, Labels.levels, levels.levelsOperands,
      isWrapped_compared, Bool.false_eq_true, if_false]
    omega

theorem levels_callOf_lt {k : Nat} (head : CallHead) (keyword : String) (q : Option SetQuantifier)
    {params : List Node} (h : ∀ p ∈ params, p.levels < k + 2) :
    (callOf head keyword q params).levels < k + 3 :=
  Nat.succ_lt_succ (levelsList_lt h)

theorem levels_clause_lt {k : Nat} (word : String) {o : Option Node}
    (h : ∀ n ∈ o, n.levels < k + 2) : ∀ p ∈ clause word o, p.levels < k + 2 := by
  cases o with
  | none => exact List.forall_mem_nil _
  | some n => exact List.forall_mem_cons.mpr ⟨Nat.le_add_left 2 k, by simpa using h⟩

theorem levels_trimParams_lt {k : Nat} (spec : Option TrimSpec) {set : Option Node}
    (hasFrom : Bool) {n : Node} (hset : ∀ m ∈ set, m.levels < k + 2) (hn : n.levels < k + 2) :
    ∀ p ∈ trimParams spec set hasFrom n, p.levels < k + 2 := by
  have hkeyword (word : String) : (Node.keyword word).levels < k + 2 := Nat.le_add_left 2 k
  cases spec <;> cases hasFrom <;>
    simpa [trimParams, or_imp, forall_and, hn, hkeyword] using hset

/-- **One step of lowering** takes at most three levels. -/
theorem Step.levels_lt {k : Nat} {t : Tree} {n : Node}
    (h : env.Step (fun _ _ m => m.levels < k) d t n) : n.levels < k + 3 := by
  have part {s : Tree} {m : Node} (h : env.Part (fun _ _ m => m.levels < k) d s m) :
      m.levels < k + 2 := Nat.lt_add_right 2 h.2
  have option {o : Option Tree} {m : Option Node}
      (h : Option.Rel (env.Part (fun _ _ m => m.levels < k) d) o m) :
      ∀ x ∈ m, x.levels < k + 2 := by
    intro x hx
    obtain ⟨s, -, hpart⟩ := source_of_rel h hx
    exact part hpart
  have hkeyword (word : String) : (Node.keyword word).levels < k + 2 := Nat.le_add_left 2 k
  have operation (op : Operator) {ns : List Node} (pieces : List Text.Piece)
      (h : ∀ n ∈ ns, n.levels < k) : (operationOf op ns pieces).levels < k + 3 :=
    Nat.succ_lt_succ ((levelsOperands_lt op true h).trans (Nat.lt_succ_self _))
  cases h with
  | literal h => exact (levels_literal h).trans_lt (by omega)
  | identifier h =>
    obtain ⟨labels, own, -, rfl⟩ := column_of_columnOf h
    exact (Labels.levels_le labels 1).trans_lt (by omega)
  | @nested t n h =>
    have hle := levels_inParens_le n
    have hn : n.levels < k := h.2
    rw [Node.levels_withText]
    omega
  | binary ha hb => exact operation _ _ (by simpa using ⟨ha.2, hb.2⟩)
  | unary h | isNull h => exact operation _ _ (by simpa using h.2)
  | @call spelling args entry params value hentry hparams hvalue =>
    have hall : ∀ p ∈ params, p.levels < k + 2 := fun p hp => by
      obtain ⟨s, -, hs⟩ := source_of_forall₂ hparams hp
      exact part hs
    unfold spelledCall
    split_ifs
    · exact levels_callOf_lt _ _ _ hall
    · exact Nat.succ_lt_succ (levelsList_lt hall)
  | countStar hentry => exact Nat.lt_add_left k (by decide : 1 < 3)
  | @case operand branches otherwise tested lowered final htested hbranches hfinal =>
    have hall := levels_of_branches hbranches fun m hm => by
      obtain ⟨s, -, hpart⟩ := source_of_rel htested hm
      exact hpart.2
    have hlowered : levels.levelsBranches (lowered.map fun c => (c.predicate, c.result)) < k + 2 :=
      levelsBranches_lt (List.forall_mem_map.mpr hall)
    have hoption : levels.levelsOption final < k + 2 := by
      cases final with
      | none => exact Nat.succ_pos _
      | some m => exact option hfinal m rfl
    exact Nat.succ_lt_succ (Nat.max_lt.mpr ⟨hlowered, hoption⟩)
  | cast h htype => exact Nat.succ_lt_succ (part h)
  | trimFrom hentry hset h | trimPlain hplain hentry hset h =>
    exact levels_callOf_lt _ _ _ (levels_trimParams_lt _ _ (option hset) (part h))
  | extract hfield hentry h => exact levels_callOf_lt _ _ _ (by simp [hkeyword, part h])
  | @substring source start length keywordForm entry n first count hguard hentry h hfirst hcount =>
    refine levels_callOf_lt _ _ _ ?_
    cases keywordForm with
    | true =>
      simpa [part h, or_imp, forall_and] using
        ⟨levels_clause_lt "FROM" (option hfirst), levels_clause_lt "FOR" (option hcount)⟩
    | false => simpa [part h, or_imp, forall_and] using ⟨option hfirst, option hcount⟩
  | position hentry hn hh =>
    exact levels_callOf_lt _ _ _ (by simp [hkeyword, part hn, part hh])
  | overlay hentry hn hr hs hl =>
    refine levels_callOf_lt _ _ _ ?_
    simpa [hkeyword, part hn, part hr, part hs] using levels_clause_lt "FOR" (option hl)
  | @convert operand charset target style entry n s hguard hentry hn hs =>
    refine levels_callOf_lt _ _ _ ?_
    cases charset <;> simpa [hkeyword, part hn] using option hs

/-- **The text of a node** takes fewer than three times the levels of its tree. -/
theorem levels_lt_of_lower (hstd : env.collaborators = .standard) {t : Tree} {n : Node}
    (h : env.lower d t = .ok n) : n.levels < 3 * t.height := by
  refine lower_induction (P := fun _ t n => n.levels < 3 * t.height) hstd (fun d t n h => ?_) h
  obtain ⟨k, hk⟩ : ∃ k, t.height = k + 1 := ⟨t.height - 1, by have := t.height_pos; omega⟩
  have hlt : n.levels < 3 * k + 3 := Step.levels_lt (h.mono fun s hs m hm => by
    have := Tree.height_lt_of_mem_parts hs
    omega)
  omega

end Levels

end Environment

/-! ## Columns of texts -/

namespace SelectEntry

/-- The entry is an expression whose forms are regular, or the columns of a table. -/
def isRegular : SelectEntry → Bool
  | wildcard => true
  | tableWildcard parts =>
    (parts.head?.map Ident.folded).all fun name => !Sql.Reader.leadingNames.contains name
  | expr tree _ => tree.isRegular

/-- More levels than the text of the entry's column takes. -/
def levels : SelectEntry → Nat
  | expr tree _ => 3 * tree.height
  | _ => 2

end SelectEntry

namespace Environment

section Text

variable (hstd : env.collaborators = .standard) (hsession : env.session = {})
  (hseparator : env.config.separator = ", ") (hkeyword : env.config.keywordSeparator = " ")
include hstd hsession hseparator hkeyword

/-- The column of a regular entry. -/
theorem regular_of_bindEntry {e : SelectEntry} {c : Node} (h : env.bindEntry e = .ok c)
    (he : e.isRegular) : c.RegularColumn ∧ c.levels < e.levels := by
  cases e with
  | wildcard =>
    obtain rfl := pure_eq_ok.mp h
    exact ⟨.columns rfl rfl (fun _ h => by cases h), Nat.lt_succ_self 1⟩
  | tableWildcard parts =>
    obtain ⟨qualifier, hqualifier, h⟩ := bind_eq_ok.mp h
    obtain rfl := pure_eq_ok.mp h
    rw [hstd] at hqualifier
    replace hqualifier : Collaborators.writtenTable parts = .ok qualifier := hqualifier
    unfold Collaborators.writtenTable at hqualifier
    split_ifs at hqualifier
    obtain rfl := pure_eq_ok.mp hqualifier
    refine ⟨.columns rfl rfl fun first hfirst => ?_, Nat.lt_succ_self 1⟩
    rw [List.head?_map] at hfirst
    rw [SelectEntry.isRegular, Option.mem_def.mp hfirst] at he
    simpa using he
  | expr tree name =>
    obtain ⟨n, hn, h⟩ := bind_eq_ok.mp h
    obtain ⟨given, -, h⟩ := bind_eq_ok.mp h
    obtain rfl := pure_eq_ok.mp h
    have hregular := regular_of_lower hstd hsession hseparator hkeyword hn he
    refine ⟨.expr (hregular.relabel _), ?_⟩
    rw [Node.levels_withName]
    exact levels_lt_of_lower hstd hn

/-- **The columns of a text** are regular if the entries of its projection are. -/
theorem regularColumns_of_text {sql : String} {entries : List SelectEntry}
    (hentries : entriesOfText env.config.maxDepth sql = .ok entries)
    (h : ∀ e ∈ entries, e.isRegular ∧ e.levels ≤ env.config.maxDepth + 1) {columns : List Node}
    (hcolumns : env.normalizeProjection sql = .ok columns) :
    ∀ c ∈ columns, c.RegularColumn ∧ c.levels ≤ env.config.maxDepth := by
  rw [normalizeProjection, hentries] at hcolumns
  have hbind : List.Forall₂ (fun e c => env.bindEntry e = .ok c) entries columns :=
    forall₂_of_mapM (answering_eq_ok.mp hcolumns)
  intro c hc
  obtain ⟨e, he, hentry⟩ := source_of_forall₂ hbind hc
  obtain ⟨hregular, hbound⟩ := h e he
  obtain ⟨hcolumn, hlt⟩ := regular_of_bindEntry hstd hsession hseparator hkeyword hentry hregular
  exact ⟨hcolumn, by omega⟩

end Text

/-- **Regeneration keeps the meaning of a projection.** Written again, the projection has the same
text and as many columns, and in every column the same functions and columns are met. -/
theorem normalizeProjection_projectionText (hstd : env.collaborators = .standard)
    (hsession : env.session = {}) (hseparator : env.config.separator = ", ")
    (hkeyword : env.config.keywordSeparator = " ")
    (hroom : HasRoom env.config.maxDepth) {columns : List Node} (hne : columns ≠ [])
    (h : ∀ c ∈ columns, c.RegularColumn ∧ c.levels ≤ env.config.maxDepth) :
    ∃ columns', env.normalizeProjection ("SELECT " ++ projectionText columns) = .ok columns' ∧
      projectionText columns' = projectionText columns ∧
      List.Forall₂ (fun c' c => c'.functionIds = c.functionIds ∧
        c'.trace.filter (!·.isValue) = c.trace.filter (!·.isValue)) columns' columns := by
  obtain ⟨columns', hread, hagain⟩ := normalizeProjection_of_rereads hstd hroom hne fun c hc =>
    (h c hc).1.rereads hstd hsession hseparator hkeyword (h c hc).2
  refine ⟨columns', hread, ?_, hagain.imp fun c' c hc =>
    ⟨Node.functionIds_of_references hc.2, hc.2⟩⟩
  have hitems : columns'.map Node.projectionItem = columns.map Node.projectionItem := by
    clear hread h hne
    induction hagain with
    | nil => rfl
    | cons hc _ ih => exact congrArg₂ List.cons hc.1 ih
  rw [projectionText, projectionText, hitems]

/-- A query with raw names and types, the columns of a table and a CASE. -/
def sampleQuery : String :=
  "select t.*, case when not (t.a = 'x' or B is null) then -(c + 1.50) end D, " ++
    "count(distinct cast(e as hstore)), trim(both 'x' from f) as g from t"

/-- The projection that the query is normalized to. -/
def sampleText : String :=
  "t.*, CASE WHEN NOT (t.a = 'x' OR b IS NULL) THEN -(c + 1.50) END AS d, " ++
    "COUNT(DISTINCT CAST(e AS hstore)), TRIM(BOTH 'x' FROM f) AS g"

theorem normalizeProjection_sampleText : ∃ columns,
    ({} : Environment).normalizeProjection sampleQuery = .ok columns ∧
      projectionText columns = sampleText ∧ ∃ columns',
        ({} : Environment).normalizeProjection ("SELECT " ++ sampleText) = .ok columns' ∧
          projectionText columns' = sampleText ∧
          List.Forall₂ (fun c' c => c'.functionIds = c.functionIds ∧
            c'.trace.filter (!·.isValue) = c.trace.filter (!·.isValue)) columns' columns := by
  have hregenerate : (({} : Environment).regenerate sampleQuery).toOption = some sampleText := by
    decide +kernel
  have hregular : (entriesOfText ({} : Environment).config.maxDepth sampleQuery).toOption.any
      (·.all fun e => e.isRegular &&
        decide (e.levels ≤ ({} : Environment).config.maxDepth + 1)) := by
    decide +kernel
  obtain ⟨columns, hcolumns, htext⟩ := bind_eq_ok.mp (toOption_eq_some.mp hregenerate)
  replace htext : projectionText columns = sampleText := pure_eq_ok.mp htext
  obtain ⟨entries, hentries, hall⟩ := (Option.any_eq_true _ _).mp hregular
  simp only [List.all_eq_true, Bool.and_eq_true, decide_eq_true_eq] at hall
  have hne : columns ≠ [] := by
    rintro rfl
    exact absurd htext (by decide)
  obtain ⟨columns', hagain, hsame, hmet⟩ :=
    @normalizeProjection_projectionText {} rfl rfl rfl rfl (by decide) columns hne
      (regularColumns_of_text rfl rfl rfl rfl (toOption_eq_some.mp hentries) hall hcolumns)
  rw [htext] at hagain hsame
  exact ⟨columns, hcolumns, htext, columns', hagain, hsame, hmet⟩

end Environment

end SqlNormal
