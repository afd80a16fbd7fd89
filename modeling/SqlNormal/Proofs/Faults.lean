import Mathlib
import SqlNormal.Proofs.Failure
import SqlNormal.Proofs.Fields
import SqlNormal.Proofs.Forms
import SqlNormal.Proofs.Numerals
import SqlNormal.Proofs.Resolution
import SqlNormal.Proofs.Room

/-!
# Whose fault an error is

The trees of texts have parts and clauses that fit together, and their calls are in the catalog, so
that lowering them asks nothing of them that reading them did not. The one exception is the field of
an EXTRACT: reading accepts every name, and lowering wants more than underscores.

* `Tree.Proper`, `Tree.Formed`: the trees whose forms fit together;
* `Environment.lower_error_of_formed`: what lowering such a tree can end in;
* `Error.Placeless`: the errors that tell no place; `Sql.ends_checkCall`: those of calls tell one;
* `Sql.blameless_toTree`: the trees of expressions that were read;
* **`isProgramming_iff_blankField`**: the errors over texts that show a fault of the program.
-/

namespace SqlNormal

/-! ## Trees that were read -/

/-- What a form of a tree is held to, so that its parts and clauses fit together. -/
def Tree.Proper : Tree → Prop
  | literal (.number text) => (Value.ofNumeral? text).isSome ∧ ∃ n : Sql.Numeral, n.digits = text
  | identifier parts => parts ≠ []
  | binary _ op _ => op.fixity = .between
  | unary op _ => op.fixity = .before
  | call spelling args =>
    (∃ entry, resolve spelling.keyword (spelling.shape args.length) = .ok entry) ∧
      spelling.Placed ∧ (spelling.parenthesized = false →
        spelling.quantifier = none ∧ args = [] ∧ Text.upper spelling.keyword ∈ Sql.bareWords)
  | countStar keyword => ∃ entry, resolve keyword .ofStar = .ok entry
  | case _ branches _ => branches ≠ []
  | trim spec characters hasFrom _ =>
    (spec.isSome → characters.isSome → hasFrom = true) ∧ (hasFrom = true → characters.isSome)
  | extract fieldToken _ => ∃ field, fieldToken = field ++ "_FROM"
  | substring _ start _ keywordForm => keywordForm = false → start.isSome
  | convert _ _ _ style => style = none
  | _ => True

/-- A tree whose forms are what they are held to, all the way down. -/
inductive Tree.Formed : Tree → Prop
  | intro {t : Tree} : t.Proper → (∀ s ∈ t.parts, Formed s) → Formed t

/-- An EXTRACT with a field token occurs in a tree. -/
inductive Tree.Extracts (token : String) : Tree → Prop
  | here (source : Tree) : Extracts token (.extract token source)
  | part {s t : Tree} : s ∈ t.parts → Extracts token s → Extracts token t

/-- The field consists of underscores and blanks. -/
def IsBlankField (field : String) : Prop :=
  ∀ c ∈ field.toList, c = '_' ∨ c = ' '

/-! ## Fields -/

/-- A token with its marker is refused only for a blank field. -/
theorem blank_of_fieldOfToken_error {field : String} {e : Error}
    (h : fieldOfToken (field ++ "_FROM") = .error e) :
    IsBlankField field ∧ e = .invariant (.fieldToken (field ++ "_FROM")) := by
  rw [fieldOfToken_append] at h
  split_ifs at h with hempty
  · cases h
    exact ⟨fun c hc => by simpa [isFiller] using bareField_eq_empty_iff.mp hempty c hc, rfl⟩
  · exact absurd h pure_ne_error

/-! ## Lowering -/

namespace Environment

variable {env : Environment}

/-- A form that is what it is held to has no fault but a blank field. -/
theorem Fault.of_proper (hstd : env.collaborators = .standard) {t : Tree} {e : Error}
    (h : env.Fault t e) (ht : t.Proper) : e.isProgramming = false ∨
      ∃ field, t.Extracts (field ++ "_FROM") ∧ IsBlankField field ∧
        e = .invariant (.fieldToken (field ++ "_FROM")) := by
  cases h with
  | literal h =>
    rcases literal_error_standard hstd h with ⟨text, rfl, hnone, -⟩ | ⟨fault, rfl⟩
    · have hsome : (Value.ofNumeral? text).isSome := ht.1
      rw [hnone] at hsome
      cases hsome
    · exact .inl rfl
  | identifier h => exact absurd (columnOf_error h).1 ht
  | call h =>
    obtain ⟨⟨entry, hentry⟩, -⟩ := ht
    rw [hentry] at h
    cases h
  | countStar h =>
    obtain ⟨entry, hentry⟩ := ht
    rw [hentry] at h
    cases h
  | cast h =>
    rw [hstd] at h
    obtain ⟨fault, rfl⟩ := resolveType_error h
    exact .inl rfl
  | trim => exact absurd (ht.1 rfl rfl) nofun
  | @extract fieldToken source e h =>
    obtain ⟨field, rfl⟩ := ht
    obtain ⟨hblank, rfl⟩ := blank_of_fieldOfToken_error h
    exact .inr ⟨field, .here source, hblank, rfl⟩
  | substring => exact absurd (ht rfl) nofun
  | convert => exact absurd ht nofun

/-- **Lowering a formed tree fails through no fault of the program**, unless a field is blank. -/
theorem lower_error_of_formed (hstd : env.collaborators = .standard) {d : Nat} {t : Tree}
    {e : Error} (h : env.lower d t = .error e) (ht : t.Formed) : e.isProgramming = false ∨
      ∃ field, t.Extracts (field ++ "_FROM") ∧ IsBlankField field ∧
        e = .invariant (.fieldToken (field ++ "_FROM")) := by
  refine failure_induction hstd (P := fun _ t e => t.Formed → e.isProgramming = false ∨
    ∃ field, t.Extracts (field ++ "_FROM") ∧ IsBlankField field ∧
      e = .invariant (.fieldToken (field ++ "_FROM"))) ?_ ?_ ?_ h ht
  · rintro _ t e h ⟨hproper, -⟩
    exact h.of_proper hstd hproper
  · exact fun _ _ _ _ _ => .inl rfl
  · rintro _ t e - s hs h ⟨-, hparts⟩
    rcases h (hparts s hs) with h | ⟨field, hfield, hblank⟩
    · exact .inl h
    · exact .inr ⟨field, .part hs hfield, hblank⟩

end Environment

/-! ## Reading -/

/-- No fault of the program is to blame for an error, and whatever is given satisfies `Q`. -/
abbrev Blameless {α : Type} (Q : α → Prop) (x : Except Error α) : Prop :=
  Ends (fun e => e.isProgramming = false) Q x

/-- The text is refused, and no place in it is told. -/
def Error.Placeless : Error → Prop
  | read _ | unsupported _ => True
  | _ => False

theorem Error.Placeless.isProgramming {e : Error} (h : e.Placeless) : e.isProgramming = false := by
  cases e with
  | read _ | unsupported _ => rfl
  | _ => exact h.elim

theorem Error.Placeless.ne_form {e : Error} (h : e.Placeless) (position : Nat) (fault : FormFault) :
    e ≠ .form position fault := by
  rintro rfl
  exact h

/-- Every error tells no place, and whatever is given satisfies `Q`. -/
abbrev Placeless {α : Type} (Q : α → Prop) (x : Except Error α) : Prop :=
  Ends Error.Placeless Q x

theorem Placeless.ends {α : Type} {P : Error → Prop} {Q : α → Prop} {x : Except Error α}
    (h : Placeless Q x) (hP : ∀ e, e.Placeless → P e) : Ends P Q x :=
  h.mono hP fun _ ha => ha

theorem Placeless.blameless {α : Type} {Q : α → Prop} {x : Except Error α} (h : Placeless Q x) :
    Blameless Q x :=
  h.ends fun _ he => he.isProgramming

namespace Sql

/-- A numeral that is not too large is kept as a number. -/
theorem placeless_numeralLiteral (n : Numeral) :
    Placeless (fun l => (Tree.literal l).Proper) (numeralLiteral n) := by
  refine ends_ite (fun _ => ends_throw trivial) fun hfinite => ends_pure ?_
  exact ⟨n.ofNumeral?_isSome (Bool.eq_false_iff.mpr hfinite), n, rfl⟩

theorem placeless_literalOf (c : Constant) :
    Placeless (fun l => (Tree.literal l).Proper) (literalOf c) := by
  cases c with
  | number n _ => exact placeless_numeralLiteral n
  | string _ | boolean _ | null => exact ends_pure trivial
  | doubleMarked _ | placeholder _ => exact ends_throw trivial
  | marked mark s =>
    cases mark with
    | national | escaped => exact ends_pure trivial
    | _ => exact ends_throw trivial

theorem placeless_binaryOperator (op : String) :
    Placeless (fun o => o.fixity = .between) (binaryOperator op) := by
  unfold binaryOperator
  split
  all_goals first | exact ends_pure rfl | exact ends_throw trivial

theorem placeless_unaryOperator (op : String) :
    Placeless (fun o => o.fixity = .before) (unaryOperator op) := by
  unfold unaryOperator
  split
  all_goals first | exact ends_pure rfl | exact ends_throw trivial

/-- The catalog refuses a call of some shape for a fault of its form. -/
inductive Refused (keyword : String) (shape : CallShape) : FormFault → Prop
  | unknown {token : String} : resolve keyword shape = .error (.unknownFunction token) →
      Refused keyword shape (.unknownFunction token)
  | mismatch {spelling : String} {cause : Mismatch} :
      resolve keyword shape = .error (.mismatch spelling cause) →
      Refused keyword shape (.mismatch cause)

/-- A check ends in a fault that the catalog refuses the call for, at the position it is given. -/
theorem ends_checkCall (keyword : String) (shape : CallShape) (position : Nat) :
    Ends (fun e => ∃ fault, e = .form position fault ∧ Refused keyword shape fault)
      (fun _ => ∃ entry, resolve keyword shape = .ok entry)
      (checkCall keyword shape position) := by
  unfold checkCall
  split
  · rename_i h
    exact ends_pure ⟨_, h⟩
  · rename_i h
    exact ends_throw ⟨_, rfl, .unknown h⟩
  · rename_i h
    exact ends_throw ⟨_, rfl, .mismatch h⟩
  · rename_i hunknown hmismatch he
    rcases resolve_error he with rfl | ⟨_, _, rfl⟩
    · exact absurd rfl (hunknown _)
    · exact absurd rfl (hmismatch _ _)

theorem blameless_checkCall (keyword : String) (shape : CallShape) (position : Nat) :
    Blameless (fun _ => ∃ entry, resolve keyword shape = .ok entry)
      (checkCall keyword shape position) := by
  refine (ends_checkCall keyword shape position).mono ?_ fun _ h => h
  rintro _ ⟨_, rfl, -⟩
  rfl

theorem placeless_callKeyword (c : CallClauses) :
    Placeless (fun keyword => keyword = pathText c.name ∧ c.name.length = 1) (callKeyword c) :=
  ends_ite (fun _ => ends_throw trivial) fun hname => ends_ite (fun _ => ends_throw trivial)
    fun _ => ends_ite (fun _ => ends_throw trivial) fun _ => ends_pure ⟨rfl, not_not.mp hname⟩

theorem blameless_callTree (source : String) (c : CallClauses) (keyword : String)
    (quantifier : Option SetQuantifier) {parenthesized : Bool} {args : List Tree}
    (h : ∀ t ∈ args, t.Formed)
    (hbare : ∀ shape entry, resolve keyword shape = .ok entry → parenthesized = false →
      quantifier = none ∧ args = [] ∧ Text.upper keyword ∈ bareWords) :
    Blameless Tree.Formed (callTree source c keyword quantifier parenthesized args) :=
  ends_bind (blameless_checkCall _ _ _) fun _ hentry =>
    ends_pure ⟨⟨hentry, .inr rfl, hbare _ _ hentry.choose_spec⟩, h⟩

theorem blameless_starTree (source : String) (c : CallClauses) (keyword : String)
    (quantifier : Option SetQuantifier) :
    Blameless Tree.Formed (starTree source c keyword quantifier) := by
  cases quantifier with
  | none => exact ends_bind (blameless_checkCall _ _ _) fun _ hentry => ends_pure ⟨hentry, nofun⟩
  | some q => exact ends_throw rfl

theorem placeless_checkCast (kind : CastKind) (format : Option String) :
    Placeless (fun _ => True) (checkCast kind format) := by
  unfold checkCast
  split
  all_goals first | exact ends_pure trivial | exact ends_throw trivial

theorem placeless_convertTarget (type : Option DataType) (charset : Option String) :
    Placeless (fun _ => True) (convertTarget type charset) := by
  unfold convertTarget
  split
  all_goals first | exact ends_pure trivial | exact ends_throw trivial

theorem placeless_intervalText (value : Expr) : Placeless (fun _ => True) (intervalText value) := by
  unfold intervalText
  split
  all_goals first | exact ends_pure trivial | exact ends_throw trivial

theorem formed_leafTree {t : Tree} (hp : t.Proper) (h : t.parts = []) : t.Formed :=
  ⟨hp, by rw [h]; nofun⟩

theorem placeless_scaleTrees (keyword : String) (scale : RoundingScale) :
    Placeless (fun ts => ∀ t ∈ ts, t.Formed) (scaleTrees keyword scale) := by
  cases scale with
  | none => exact ends_pure nofun
  | field word => exact ends_throw trivial
  | digits c =>
    refine ends_bind (placeless_literalOf c) fun l hl => ends_pure ?_
    simpa using formed_leafTree hl rfl

/-- Every word that calls a function without parentheses is in the catalog. -/
theorem bareWord_resolves {word : String} (h : Text.upper word ∈ bareWords) :
    ∃ entry, resolve word {} = .ok entry := by
  have hupper : ∀ w ∈ bareWords, Text.upper w = w := by decide
  have hsome : ∀ w ∈ bareWords, ∃ entry, resolve w {} = .ok entry := by
    simp only [bareWords, List.forall_mem_cons]
    exact ⟨⟨_, rfl⟩, ⟨_, rfl⟩, ⟨_, rfl⟩, ⟨_, rfl⟩, ⟨_, rfl⟩, ⟨_, rfl⟩, ⟨_, rfl⟩, ⟨_, rfl⟩, ⟨_, rfl⟩,
      nofun⟩
  obtain ⟨entry, he⟩ := hsome _ h
  exact ⟨entry, resolve_of_upper (hupper _ h) he⟩

/-- A word that calls a function without parentheses and is in the catalog. -/
theorem bareWord_of_resolve {word : String} {shape : CallShape} {entry : CatalogEntry}
    (hword : Text.upper word ∈ "CURRENT_CATALOG" :: bareWords)
    (h : resolve word shape = .ok entry) : Text.upper word ∈ bareWords := by
  have hunknown : bindingOfUpper? "CURRENT_CATALOG" = none := by decide +kernel
  refine (List.mem_cons.mp hword).resolve_left fun hcatalog => ?_
  have hnone : bindingOf? word = none := by rw [bindingOf?, hcatalog, hunknown]
  rw [resolve_of_no_rule hnone] at h
  cases h

theorem formed_nameTree (i : Ident) : (nameTree i).Formed := by
  unfold nameTree
  split
  · rename_i h
    have hword : Text.upper i.value ∈ bareWords := by simpa using h.2
    exact formed_leafTree ⟨bareWord_resolves hword, .inl rfl, fun _ => ⟨rfl, rfl, hword⟩⟩ rfl
  · exact formed_leafTree (List.cons_ne_nil _ _) rfl

section Parts

variable {P : Error → Prop} {R : Tree → Prop} {source : String}

/-- Arguments end as their expressions do, unless a star or another form stands among them. -/
theorem ends_treeArguments {keyword : String} {start : Location} {args : List (Argument Expr)}
    (hstar : .star ∈ args →
      P (.form (callPosition source keyword start) (.starArgument keyword)))
    (hother : ∀ shown, P (.unsupported (.argumentForm shown keyword)))
    (h : ∀ e ∈ Argument.exprs args, Ends P R (e.toTree source)) :
    Ends P (fun ts => (∀ t ∈ ts, R t) ∧ ts.length = args.length)
      (Expr.toTree.treeArguments source keyword start args) := by
  induction args with
  | nil => exact ends_pure ⟨nofun, rfl⟩
  | cons a args ih =>
    cases a with
    | expr e =>
      have hargs := ih (fun hmem => hstar (List.mem_cons_of_mem _ hmem)) fun s hs =>
        h s (List.mem_cons_of_mem _ hs)
      refine ends_bind (h e List.mem_cons_self) fun t ht => ends_bind hargs fun ts hts => ?_
      exact ends_pure ⟨List.forall_mem_cons.mpr ⟨ht, hts.1⟩, congrArg Nat.succ hts.2⟩
    | star => exact ends_throw (hstar List.mem_cons_self)
    | other shown => exact ends_throw (hother shown)

theorem ends_treeOption {o : Option Expr} (h : ∀ e ∈ o, Ends P R (e.toTree source)) :
    Ends P (fun o' => (∀ t ∈ o', R t) ∧ o'.isSome = o.isSome)
      (Expr.toTree.treeOption source o) := by
  cases o with
  | none => exact ends_pure ⟨nofun, rfl⟩
  | some e =>
    refine ends_bind (h e rfl) fun t ht => ends_pure ⟨?_, rfl⟩
    rintro _ ⟨⟩
    exact ht

theorem ends_treeBranches {bs : List (Expr × Expr)}
    (h : ∀ b ∈ bs, Ends P R (b.1.toTree source) ∧ Ends P R (b.2.toTree source)) :
    Ends P (fun bs' => (∀ b ∈ bs', R b.1 ∧ R b.2) ∧ bs'.length = bs.length)
      (Expr.toTree.treeBranches source bs) := by
  induction bs with
  | nil => exact ends_pure ⟨nofun, rfl⟩
  | cons b bs ih =>
    obtain ⟨hc, hr⟩ := h b List.mem_cons_self
    refine ends_bind hc fun c hc => ends_bind hr fun r hr => ?_
    refine ends_bind (ih fun b hb => h b (List.mem_cons_of_mem _ hb)) fun bs hbs => ?_
    exact ends_pure ⟨List.forall_mem_cons.mpr ⟨⟨hc, hr⟩, hbs.1⟩, congrArg Nat.succ hbs.2⟩

theorem mem_parts_of_branch {operand otherwise : Option Expr} {branches : List (Expr × Expr)}
    {b : Expr × Expr} (h : b ∈ branches) : b.1 ∈ (Expr.case operand branches otherwise).parts ∧
      b.2 ∈ (Expr.case operand branches otherwise).parts := by
  simp only [Expr.parts, List.mem_append, List.mem_flatMap]
  exact ⟨.inl (.inr ⟨b, h, by simp⟩), .inl (.inr ⟨b, h, by simp⟩)⟩

end Parts

/-- **The tree of a formed expression is formed**, and no fault of the program is to blame if there
is none. -/
theorem blameless_toTree {source : String} {e : Expr} (he : e.Formed) :
    Blameless Tree.Formed (e.toTree source) := by
  induction he with
  | @intro e hproper _ ih =>
    cases e with
    | constant c =>
      exact ends_bind (placeless_literalOf c).blameless fun l hl =>
        ends_pure (formed_leafTree hl rfl)
    | name i => exact ends_pure (formed_nameTree i)
    | path parts => exact ends_pure (formed_leafTree hproper rfl)
    | nested inner =>
      exact ends_bind (ih inner (by simp)) fun t ht =>
        ends_pure ⟨trivial, by simpa using ht⟩
    | binary left op right =>
      refine ends_bind (ih left (by simp)) fun l hl => ?_
      refine ends_bind (placeless_binaryOperator op).blameless fun _ hop => ?_
      refine ends_bind (ih right (by simp)) fun r hr => ends_pure ⟨hop, ?_⟩
      simpa using ⟨hl, hr⟩
    | unary op operand =>
      refine ends_bind (placeless_unaryOperator op).blameless fun _ hop => ?_
      refine ends_bind (ih operand (by simp)) fun t ht => ends_pure ⟨hop, ?_⟩
      simpa using ht
    | isNull operand negated =>
      refine ends_bind (ih operand (by simp)) fun t ht => ends_pure ⟨trivial, ?_⟩
      simpa using ht
    | like operand negated any pattern escape =>
      have matched : Blameless Tree.Formed (do
          let l ← operand.toTree source
          return .binary l (if negated then .notLike else .like) (← pattern.toTree source)) := by
        refine ends_bind (ih operand (by simp)) fun l hl => ?_
        refine ends_bind (ih pattern (by simp)) fun r hr => ends_pure ⟨?_, ?_⟩
        · cases negated <;> rfl
        simpa using ⟨hl, hr⟩
      exact ends_ite (fun _ => ends_throw rfl) fun _ => matched
    | bareCall c =>
      obtain ⟨word, hname, hword⟩ := hproper
      refine ends_bind (placeless_callKeyword c).blameless fun keyword hkeyword =>
        blameless_callTree _ _ _ _ (List.forall_mem_nil _) fun shape entry hentry _ =>
          ⟨rfl, rfl, ?_⟩
      obtain rfl : keyword = word := by rw [hkeyword.1, hname]; rfl
      exact bareWord_of_resolve hword hentry
    | queryCall c query =>
      have hkeyword := (placeless_callKeyword c).blameless
      exact ends_bind (ends_map (R := fun _ => True) hkeyword fun _ _ => trivial) fun _ _ =>
        ends_throw rfl
    | call c quantifier args inner =>
      refine ends_bind (placeless_callKeyword c).blameless fun keyword _ => ?_
      refine ends_ite (fun _ => ends_throw rfl) fun _ => ?_
      split
      · exact blameless_starTree _ _ _ _
      · exact ends_bind (ends_treeArguments (fun _ => rfl) (fun _ => rfl) ih) fun ts hts =>
          blameless_callTree _ _ _ _ hts.1 fun _ _ _ hnone => by cases hnone
    | case operand branches otherwise =>
      have ho := ends_treeOption fun s (hs : s ∈ operand) => ih s (by simp_all)
      have he := ends_treeOption fun s (hs : s ∈ otherwise) => ih s (by simp_all)
      have hbs := ends_treeBranches fun b (hb : b ∈ branches) =>
        ⟨ih _ (mem_parts_of_branch hb).1, ih _ (mem_parts_of_branch hb).2⟩
      refine ends_ite (fun _ => ends_throw rfl) fun hne => ?_
      refine ends_bind ho fun o ho => ends_bind hbs fun bs' hbs => ends_bind he fun e he => ?_
      refine ends_pure ⟨?_, fun s hs => ?_⟩
      · rintro rfl
        exact hne (List.isEmpty_iff_length_eq_zero.mpr hbs.2.symm)
      simp only [Tree.parts, List.mem_append, List.mem_flatMap, Option.mem_toList, List.mem_cons,
        List.not_mem_nil, or_false] at hs
      rcases hs with (hs | ⟨b, hb, rfl | rfl⟩) | hs
      · exact ho.1 s hs
      · exact (hbs.1 b hb).1
      · exact (hbs.1 b hb).2
      · exact he.1 s hs
    | cast kind operand type format =>
      refine ends_bind (placeless_checkCast kind format).blameless fun _ _ => ?_
      refine ends_bind (ih operand (by simp)) fun t ht => ends_pure ⟨trivial, ?_⟩
      simpa using ht
    | trim spec operand what characters =>
      have hfalse {p : Prop} : false = true → p := fun h => by cases h
      simp only [Expr.toTree]
      refine ends_bind (ih operand (by simp)) fun source hs => ?_
      split
      · refine ends_bind (ih _ (by simp)) fun t ht =>
          ends_pure ⟨⟨fun _ _ => rfl, fun _ => rfl⟩, ?_⟩
        simpa using ⟨ht, hs⟩
      · exact ends_pure ⟨⟨fun _ hnone => (by cases hnone), hfalse⟩, by simpa using hs⟩
      · exact ends_pure ⟨⟨fun _ hnone => (by cases hnone), hfalse⟩, by simpa using hs⟩
      · refine ends_bind (ih _ (by simp)) fun t ht => ends_pure ⟨⟨?_, hfalse⟩, ?_⟩
        · rw [show spec = none from (hproper rfl).1]
          exact fun hnone => by cases hnone
        · simpa using ⟨ht, hs⟩
      · exact ends_throw rfl
    | extract field operand comma =>
      refine ends_bind (ih operand (by simp)) fun t ht => ends_pure ⟨⟨field, rfl⟩, ?_⟩
      simpa using ht
    | substring operand start length comma =>
      have hb := ends_treeOption fun s (hs : s ∈ start) => ih s (by simp_all)
      have hl := ends_treeOption fun s (hs : s ∈ length) => ih s (by simp_all)
      refine ends_bind (ih operand (by simp)) fun s hs => ?_
      refine ends_bind hb fun b hb => ends_bind hl fun l hl => ?_
      refine ends_pure ⟨fun hc => ?_, fun t ht => ?_⟩
      · rw [hb.2]
        exact hproper (by simpa using hc)
      · simp only [Tree.parts, List.cons_append, List.mem_cons, List.mem_append,
          Option.mem_toList] at ht
        rcases ht with rfl | ht | ht
        · exact hs
        · exact hb.1 t ht
        · exact hl.1 t ht
    | position needle haystack =>
      refine ends_bind (ih needle (by simp)) fun n hn => ?_
      refine ends_bind (ih haystack (by simp)) fun h hh => ends_pure ⟨trivial, ?_⟩
      simpa using ⟨hn, hh⟩
    | overlay operand what start length =>
      have hl := ends_treeOption fun s (hs : s ∈ length) => ih s (by simp_all)
      refine ends_bind (ih operand (by simp)) fun s hs => ?_
      refine ends_bind (ih what (by simp)) fun w hw => ?_
      refine ends_bind (ih start (by simp)) fun b hb => ?_
      refine ends_bind hl fun l hl => ends_pure ⟨trivial, ?_⟩
      simpa using ⟨hs, hw, hb, fun t ht => hl.1 t ht⟩
    | convert isTry operand type charset =>
      refine ends_ite (fun _ => ends_throw rfl) fun _ => ?_
      refine ends_bind (placeless_convertTarget type charset).blameless fun p _ => ?_
      refine ends_bind (ih operand (by simp)) fun t ht => ends_pure ⟨rfl, ?_⟩
      simpa using ht
    | rounding keyword operand scale =>
      refine ends_bind (ih operand (by simp)) fun t ht => ?_
      refine ends_bind (placeless_scaleTrees keyword scale).blameless fun ts hts => ?_
      refine ends_bind (blameless_checkCall _ _ _) fun _ hentry =>
        ends_pure ⟨⟨hentry, .inl rfl, fun hnone => by cases hnone⟩, ?_⟩
      simpa using ⟨ht, hts⟩
    | typed type s =>
      simp only [Expr.toTree]
      split
      · exact ends_pure (formed_leafTree trivial rfl)
      · exact ends_pure ⟨trivial, by
          simpa using formed_leafTree (t := .literal (.string s)) trivial rfl⟩
    | interval value qualifier =>
      exact ends_bind (placeless_intervalText value).blameless fun _ _ =>
        ends_pure (formed_leafTree trivial rfl)
    | other shown => exact ends_throw rfl

end Sql

/-! ## Texts -/

/-- The error of a refused text is no fault of the program. -/
theorem blameless_readWithin {α : Type} {Q : α → Prop} {depth : Nat}
    {read : Nat → Except Sql.Refusal α} (h : ∀ a, read (readingBudget depth) = .ok a → Q a) :
    Ends (Failure.Answers fun e => e.isProgramming = false) Q (readWithin depth read) :=
  ends_readWithin (fun refusal => by cases refusal <;> rfl) h

theorem blameless_ofText (depth : Nat) (source : String) :
    Ends (Failure.Answers fun e => e.isProgramming = false) Tree.Formed
      (Tree.ofText depth source) := by
  refine ends_bind (Q := fun p => p.1.Formed) (blameless_readWithin ?_) fun p hp => ?_
  · rintro ⟨e, rest⟩ h
    exact Sql.formed_of_readExpr h
  · obtain ⟨e, rest⟩ := p
    refine ends_answering ?_
    cases rest with
    | nil => exact Sql.blameless_toTree hp
    | cons l rest => exact ends_throw rfl

/-- What an entry of a projection is held to. -/
def SelectEntry.Formed : SelectEntry → Prop
  | wildcard => True
  | tableWildcard parts => parts ≠ []
  | expr tree _ => tree.Formed

theorem blameless_toEntry {source : String} {item : Sql.SelectItem} (h : item.Formed) :
    Blameless SelectEntry.Formed (item.toEntry source) := by
  cases item with
  | star options => exact ends_pure trivial
  | tableStar table options => exact ends_pure h
  | expr e name => exact ends_bind (Sql.blameless_toTree h) fun t ht => ends_pure ht

theorem blameless_entriesOfStatements {source : String} {ss : List Sql.Statement}
    (hss : ∀ s ∈ ss, s.Formed) :
    Blameless (fun es => ∀ e ∈ es, e.Formed) (entriesOfStatements source ss) := by
  have honly : Blameless Sql.Statement.Formed (onlyStatement ss) := by
    unfold onlyStatement
    split
    · exact ends_pure (hss _ (List.mem_singleton_self _))
    · exact ends_throw rfl
  refine ends_bind honly fun s hs => ?_
  have hitems : Blameless (fun items => ∀ item ∈ items, item.Formed) (projectionOf s) := by
    unfold projectionOf
    split
    · exact ends_pure (hs _ rfl _ rfl)
    · exact ends_throw rfl
    · exact ends_throw rfl
  exact ends_bind hitems fun items hitems => ends_mapM fun item hi =>
    blameless_toEntry (hitems item hi)

theorem blameless_entriesOfText (depth : Nat) (source : String) :
    Ends (Failure.Answers fun e => e.isProgramming = false) (fun es => ∀ e ∈ es, e.Formed)
      (entriesOfText depth source) :=
  ends_bind (blameless_readWithin fun _ h => Sql.formed_of_readStatements h) fun _ hss =>
    ends_answering (blameless_entriesOfStatements hss)

section Programming

variable {env : Environment}

/-- The error is about a blank field of an EXTRACT in a tree. -/
def BlanksField (t : Tree) (e : Error) : Prop :=
  ∃ field, t.Extracts (field ++ "_FROM") ∧ IsBlankField field ∧
    e = .invariant (.fieldToken (field ++ "_FROM"))

theorem BlanksField.isProgramming {t : Tree} {e : Error} (h : BlanksField t e) :
    e.isProgramming = true := by
  obtain ⟨field, -, -, rfl⟩ := h
  rfl

theorem throws_bind (hstd : env.collaborators = .standard) {t : Tree} (ht : t.Formed) :
    Throws (fun e => e.isProgramming = true → BlanksField t e) (env.bind t) := by
  refine ⟨fun e h he => ?_, fun _ _ => trivial⟩
  rcases Environment.lower_error_of_formed hstd h ht with hown | hblank
  · rw [hown] at he
    cases he
  · exact hblank

theorem throws_bindEntry (hstd : env.collaborators = .standard) {entry : SelectEntry}
    (h : entry.Formed) : Throws
      (fun e => e.isProgramming = true → ∃ tree name, entry = .expr tree name ∧ BlanksField tree e)
      (env.bindEntry entry) := by
  cases entry with
  | wildcard => exact ends_pure trivial
  | tableWildcard parts =>
    unfold Environment.bindEntry
    rw [hstd]
    refine ends_bind (Q := fun _ => True) ?_ fun _ _ => ends_pure trivial
    exact ends_ite (fun hnil => absurd (List.isEmpty_iff.mp hnil) h) fun _ => ends_pure trivial
  | expr tree name =>
    have hname : ∀ n, env.nameOf name n = .ok (name.map Ident.folded) := by
      intro n
      unfold Environment.nameOf
      rw [hstd]
      rfl
    refine ends_bind ((throws_bind hstd h).mono ?_ fun _ _ => trivial) fun n _ => ?_
    · exact fun e hb he => ⟨tree, name, rfl, hb he⟩
    · exact ends_bind (ends_eq (hname n)) fun _ _ => ends_pure trivial

theorem throws_bindProjection (hstd : env.collaborators = .standard) {entries : List SelectEntry}
    (h : ∀ entry ∈ entries, entry.Formed) : Throws
      (fun e => e.isProgramming = true →
        ∃ tree name, .expr tree name ∈ entries ∧ BlanksField tree e)
      (env.bindProjection entries) := by
  refine (ends_mapM (R := fun _ => True) fun entry hentry => ?_).mono (fun _ h => h)
    fun _ _ => trivial
  refine (throws_bindEntry hstd (h entry hentry)).mono (fun e hb he => ?_) fun _ _ => trivial
  obtain ⟨tree, name, rfl, hblank⟩ := hb he
  exact ⟨tree, name, hentry, hblank⟩

/-- **The faults of the program.** With the standard decisions, an error over a text shows a fault
of the program exactly if it is about an EXTRACT of the text whose field consists of underscores;
every other failure is the text's own. -/
theorem isProgramming_iff_blankField (hstd : env.collaborators = .standard) (sql : String)
    (e : Error) :
    (env.normalizeExpression sql = .error (.answered e) →
      (e.isProgramming ↔ ∃ tree, Tree.ofText env.config.maxDepth sql = .ok tree ∧
        BlanksField tree e)) ∧
    (env.normalizeProjection sql = .error (.answered e) →
      (e.isProgramming ↔ ∃ entries tree name, entriesOfText env.config.maxDepth sql = .ok entries ∧
        .expr tree name ∈ entries ∧ BlanksField tree e)) := by
  refine ⟨fun h => ⟨fun he => ?_, ?_⟩, fun h => ⟨fun he => ?_, ?_⟩⟩
  · rcases bind_eq_error.mp h with h | ⟨tree, htree, h⟩
    · exact absurd ((blameless_ofText _ _).1 _ h e rfl ▸ he) nofun
    · have hformed := (blameless_ofText _ _).2 tree htree
      exact ⟨tree, htree, (throws_bind hstd hformed).1 e (answering_eq_answered.mp h) he⟩
  · rintro ⟨_, -, hb⟩
    exact hb.isProgramming
  · rcases bind_eq_error.mp h with h | ⟨entries, hentries, h⟩
    · exact absurd ((blameless_entriesOfText _ _).1 _ h e rfl ▸ he) nofun
    · have hformed := (blameless_entriesOfText _ _).2 entries hentries
      obtain ⟨tree, name, hmem, hb⟩ :=
        (throws_bindProjection hstd hformed).1 e (answering_eq_answered.mp h) he
      exact ⟨entries, tree, name, hentries, hmem, hb⟩
  · rintro ⟨_, _, _, -, -, hb⟩
    exact hb.isProgramming

end Programming

/-- An EXTRACT of the field `_`. -/
def blankFieldText : String :=
  "EXTRACT(_ FROM x)"

theorem normalize_blankFieldText :
    ({} : Environment).normalizeExpression blankFieldText =
      .error (.answered (.invariant (.fieldToken "__FROM"))) :=
  errorOf?_eq_some.mp (by decide +kernel)

/-- The field `_` of an EXTRACT shows as a fault of the program. -/
theorem blankField_of_underscore :
    ({} : Environment).normalizeExpression blankFieldText =
        .error (.answered (.invariant (.fieldToken "__FROM"))) ∧
      ∃ tree, Tree.ofText ({} : Environment).config.maxDepth blankFieldText = .ok tree ∧
        BlanksField tree (.invariant (.fieldToken "__FROM")) := by
  have hstd : ({} : Environment).collaborators = .standard := rfl
  have h := (isProgramming_iff_blankField hstd blankFieldText (.invariant (.fieldToken "__FROM"))).1
    normalize_blankFieldText
  exact ⟨normalize_blankFieldText, h.mp rfl⟩

/-- Not every error over a text is the text's own. -/
theorem underscore_isProgramming :
    ¬ ∀ (env : Environment) (sql : String) (e : Error), env.collaborators = .standard →
      env.normalizeExpression sql = .error (.answered e) → e.isProgramming = false := by
  intro h
  have hfalse :=
    h {} blankFieldText (.invariant (.fieldToken "__FROM")) rfl normalize_blankFieldText
  cases hfalse

end SqlNormal
