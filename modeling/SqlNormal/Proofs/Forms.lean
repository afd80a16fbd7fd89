import SqlNormal.Proofs.Reading
import SqlNormal.Sql.Reader
import SqlNormal.Tree.OfExpr

/-!
# The forms that are read

An expression that is read has the parts that its form asks for, all the way down, and so have the
items of a projection.

* `Expr.parts`, `Expr.Proper`, `Expr.Formed`: the direct parts of an expression, and what a form
  asks for;
* `Rules.Formed`: readers that give nothing else; one lemma for each reader, in the order in which
  they are defined;
* **`formed_of_readExpr`**, **`formed_of_readStatements`**.
-/

namespace SqlNormal.Sql

/-! ## Expressions and their parts -/

/-- The expressions among arguments. -/
def Argument.exprs : List (Argument Expr) → List Expr :=
  List.filterMap fun
    | .expr e => some e
    | _ => none

/-- The direct parts of an expression. -/
@[simp] def Expr.parts : Expr → List Expr
  | nested inner => [inner]
  | binary left _ right => [left, right]
  | unary _ operand => [operand]
  | isNull operand _ => [operand]
  | like operand _ _ pattern _ => [operand, pattern]
  | call _ _ args _ => Argument.exprs args
  | case operand branches otherwise =>
    operand.toList ++ branches.flatMap (fun b => [b.1, b.2]) ++ otherwise.toList
  | cast _ operand _ _ => [operand]
  | trim _ source what characters => source :: what.toList ++ characters.getD []
  | extract _ source _ => [source]
  | substring source start length _ => source :: start.toList ++ length.toList
  | position needle haystack => [needle, haystack]
  | overlay source what start length => [source, what, start] ++ length.toList
  | convert _ operand _ _ => [operand]
  | rounding _ operand _ => [operand]
  | interval value _ => [value]
  | _ => []

/-- What a form asks of its clauses: a path has names, a call without parentheses is one of some
words, a comma of a SUBSTRING has a start behind it, and a TRIM with characters behind a comma has
neither a side nor characters in front. -/
def Expr.Proper : Expr → Prop
  | path parts => parts ≠ []
  | bareCall clauses => ∃ word, clauses.name = [⟨word, none⟩] ∧
      Text.upper word ∈ "CURRENT_CATALOG" :: bareWords
  | substring _ start _ comma => comma = true → start.isSome
  | trim spec _ what characters => characters.isSome → spec = none ∧ what = none
  | _ => True

/-- An expression whose forms have what they ask for, all the way down. -/
inductive Expr.Formed : Expr → Prop
  | intro {e : Expr} : e.Proper → (∀ s ∈ e.parts, Formed s) → Formed e

/-! ## Forms -/

/-- A form without parts. -/
theorem formed_leaf {e : Expr} (hp : e.Proper) (h : e.parts = []) : e.Formed :=
  ⟨hp, by rw [h]; nofun⟩

/-- What a star or an expression in its place is held to. -/
def Star.Formed : Star → Prop
  | all => True
  | table parts => parts ≠ []
  | expr e => e.Formed

/-- What an item of a projection is held to. -/
def SelectItem.Formed : SelectItem → Prop
  | star _ => True
  | tableStar table _ => table ≠ []
  | expr e _ => e.Formed

/-- What the items of a query are held to, if it is a projection. -/
def Query.Formed (q : Query) : Prop :=
  ∀ items, q.body = .select items → ∀ item ∈ items, item.Formed

/-- What a statement is held to, if it is a query. -/
def Statement.Formed (s : Statement) : Prop :=
  ∀ q, s = .query q → q.Formed

/-- The readers of what lies inside give what they are held to. -/
structure Rules.Formed (r : Rules) : Prop where
  expr : ∀ level, Reader.Gives Expr.Formed (r.expr level)
  query : Reader.Gives Query.Formed r.query
  statement : Reader.Gives Statement.Formed r.statement

theorem Rules.Formed.whole {r : Rules} (hr : r.Formed) : Reader.Gives Expr.Formed r.whole :=
  hr.expr 0

namespace Reader

variable {r : Rules} {inner : Reader Expr}

theorem gives_starOrExpr {whole : Reader Expr} (h : Gives Expr.Formed whole) :
    Gives Star.Formed (starOrExpr whole) := by
  have hexpr : Gives Star.Formed (do return .expr (← whole)) :=
    gives_bind h fun e he => gives_pure he
  refine gives_then fun tokens => gives_then fun _ => ?_
  refine gives_ite (fun _ => gives_pure trivial) fun _ => ?_
  split
  · split
    · refine gives_then fun _ => gives_then fun o => ?_
      split
      · exact gives_pure (List.cons_ne_nil _ _)
      · exact gives_then fun _ => hexpr
    · exact hexpr
  · exact hexpr

theorem gives_intervalOf {value : Reader Expr} (h : Gives Expr.Formed value) :
    Gives Expr.Formed (intervalOf value) := by
  refine gives_bind h fun v hv => gives_then fun _ => ?_
  have formed : ∀ q, Gives Expr.Formed (pure (.interval v q)) := fun q =>
    gives_pure ⟨trivial, by simpa using hv⟩
  extract_lets rest
  have hrest : ∀ leading, Gives Expr.Formed (rest leading) := by
    intro leading
    refine gives_ite (fun _ => ?_) fun _ => ?_
    · refine gives_then fun _ => gives_ite (fun _ => ?_) fun _ => formed _
      refine gives_inParens (gives_then fun p => gives_then fun _ => ?_)
      exact gives_ite (fun _ => gives_then fun _ => formed _) fun _ => gives_then fun _ => formed _
    · refine gives_then fun p => gives_then fun _ => gives_ite (fun _ => ?_) fun _ => formed _
      refine gives_then fun last => ?_
      exact gives_ite (fun _ => gives_then fun _ => formed _) fun _ => gives_then fun _ => formed _
  exact gives_ite (fun _ => gives_then fun _ => hrest _) fun _ => gives_then fun _ => hrest _

/-! ## Calls -/

theorem gives_argument (hr : r.Formed) :
    Gives (fun a => ∀ e, a = .expr e → e.Formed) (argument r) := by
  refine gives_then fun o => ?_
  split
  · exact gives_pure nofun
  · refine gives_bind (gives_starOrExpr hr.whole) fun s hs => ?_
    cases s with
    | all => exact gives_pure nofun
    | table parts => exact gives_pure nofun
    | expr e =>
      refine gives_pure ?_
      rintro _ ⟨⟩
      exact hs

/-- The arguments of a list are formed. -/
def ArgumentList.Formed (l : ArgumentList) : Prop :=
  ∀ e, .expr e ∈ l.args → e.Formed

theorem gives_argumentList (hr : r.Formed) : Gives ArgumentList.Formed (argumentList r) := by
  refine gives_then fun early => gives_then fun _ => ?_
  refine gives_ite (fun _ => gives_pure nofun) fun _ => gives_then fun quantifier => ?_
  refine gives_bind (gives_separated (gives_argument hr)) fun args ha => ?_
  refine gives_then fun nulls => gives_then fun order => gives_then fun limit => ?_
  refine gives_then fun having => gives_then fun separator => gives_then fun overflow => ?_
  refine gives_then fun late => gives_then fun _ => gives_pure ?_
  exact fun e he => ha _ he e rfl

theorem formed_call {clauses : CallClauses} {list : ArgumentList} (h : list.Formed) :
    (Expr.call clauses list.quantifier list.args list.clauses).Formed := by
  refine ⟨trivial, fun s hs => h s ?_⟩
  obtain ⟨a, ha, hs⟩ := List.mem_filterMap.mp hs
  cases a with
  | expr e =>
    cases hs
    exact ha
  | star | other _ => cases hs

theorem gives_callOf (hr : r.Formed) (name : List Ident) (start : Location) (braces : Bool) :
    Gives Expr.Formed (callOf r inner name start braces) := by
  refine gives_then fun _ => gives_bind (gives_argumentList hr) fun first hfirst => ?_
  refine gives_then fun _ => ?_
  extract_lets rest
  have hrest : ∀ p : Option String × ArgumentList, p.2.Formed → Gives Expr.Formed (rest p) := by
    rintro ⟨parameters, list⟩ hlist
    refine gives_then fun group => ?_
    exact gives_ite
      (fun _ => gives_then fun _ => gives_then fun _ => gives_pure (formed_call hlist))
      fun _ => gives_then fun _ => gives_then fun _ => gives_pure (formed_call hlist)
  refine gives_ite (fun _ => ?_) fun _ => gives_pure_bind (hrest (none, first) hfirst)
  exact gives_bind (gives_argumentList hr) fun second h => gives_pure_bind (hrest (_, second) h)

theorem gives_timeCall (hr : r.Formed) {clauses : CallClauses}
    (hproper : (Expr.bareCall clauses).Proper) : Gives Expr.Formed (timeCall r clauses) :=
  gives_then fun _ => gives_ite
    (fun _ => gives_bind (gives_argumentList hr) fun _ hlist => gives_pure (formed_call hlist))
    fun _ => gives_pure (formed_leaf hproper rfl)

/-- A word that has a keyword has no marks. -/
theorem quote_of_keyword {i : Ident} {key : String} (h : Token.keyword (.word i) = key)
    (hne : key ≠ "") : i = ⟨i.value, none⟩ ∧ Text.upper i.value = key := by
  obtain ⟨value, quote⟩ := i
  cases quote with
  | none => exact ⟨rfl, h⟩
  | some _ => exact absurd h.symm hne

/-! ## Words with a form of their own -/

theorem gives_branch (hr : r.Formed) : Gives (fun b => b.1.Formed ∧ b.2.Formed) (branch r) :=
  gives_bind hr.whole fun _ hc => gives_then fun _ => gives_bind hr.whole fun _ hv =>
    gives_pure ⟨hc, hv⟩

theorem gives_some {r : Reader Expr} (h : Gives Expr.Formed r) :
    Gives (fun o => ∀ e ∈ o, e.Formed) (some <$> r) := by
  refine gives_map h fun e he => ?_
  rintro _ ⟨⟩
  exact he

theorem gives_caseForm (hr : r.Formed) : Gives Expr.Formed (caseForm r) := by
  refine gives_then fun _ => ?_
  extract_lets rest
  have hrest : ∀ operand : Option Expr, (∀ e ∈ operand, e.Formed) →
      Gives Expr.Formed (rest operand) := by
    intro operand ho
    refine gives_then fun _ => gives_bind (gives_branch hr) fun first hfirst => ?_
    refine gives_bind (gives_repeated (gives_clause? "WHEN" (gives_branch hr))) fun more hmore => ?_
    refine gives_bind (gives_clause? "ELSE" hr.whole) fun otherwise he => gives_then fun _ => ?_
    refine gives_pure ⟨trivial, fun s hs => ?_⟩
    simp only [Expr.parts, List.mem_append, List.mem_flatMap, Option.mem_toList, List.mem_cons,
      List.not_mem_nil, or_false] at hs
    rcases hs with (hs | ⟨b, rfl | hb, rfl | rfl⟩) | hs
    · exact ho s hs
    · exact hfirst.1
    · exact hfirst.2
    · exact (hmore b hb).1
    · exact (hmore b hb).2
    · exact he s hs
  exact gives_ite (fun _ => gives_pure_bind (hrest none nofun))
    fun _ => gives_bind (gives_some hr.whole) fun o ho => hrest o ho

theorem gives_convertForm (hr : r.Formed) (isTry : Bool) :
    Gives Expr.Formed (convertForm r isTry) := by
  refine gives_inParens (gives_bind hr.whole fun operand ho => gives_then fun _ => ?_)
  have formed : ∀ type charset, Gives Expr.Formed (pure (.convert isTry operand type charset)) :=
    fun type charset => gives_pure ⟨trivial, by simpa using ho⟩
  refine gives_ite (fun _ => gives_then fun _ => formed _ _) fun _ => ?_
  exact gives_then fun _ => gives_then fun _ => gives_then fun _ => formed _ _

theorem gives_castForm (hr : r.Formed) (kind : CastKind) : Gives Expr.Formed (castForm r kind) := by
  refine gives_inParens (gives_bind hr.whole fun operand ho => gives_then fun _ => ?_)
  refine gives_then fun type => gives_then fun format => gives_pure ⟨trivial, ?_⟩
  simpa using ho

theorem gives_existsForm (negated : Bool) : Gives Expr.Formed (existsForm r negated) :=
  gives_then fun _ => gives_pure (formed_leaf trivial rfl)

theorem gives_extractForm (hr : r.Formed) : Gives Expr.Formed (extractForm r) := by
  refine gives_inParens (gives_then fun field => gives_then fun _ => ?_)
  have formed : ∀ comma, Gives Expr.Formed (do return .extract field (← r.whole) comma) :=
    fun comma => gives_bind hr.whole fun source hs =>
      gives_pure ⟨trivial, by simpa using hs⟩
  exact gives_ite (fun _ => formed _) fun _ => gives_then fun _ => formed _

theorem gives_roundingForm (hr : r.Formed) (keyword : String) :
    Gives Expr.Formed (roundingForm r keyword) := by
  refine gives_inParens (gives_bind hr.whole fun operand ho => gives_then fun _ => ?_)
  have formed : ∀ scale, Gives Expr.Formed (pure (.rounding keyword operand scale)) :=
    fun scale => gives_pure ⟨trivial, by simpa using ho⟩
  refine gives_ite (fun _ => gives_then fun _ => formed _) fun _ => gives_then fun _ => ?_
  refine gives_ite (fun _ => gives_then fun c => ?_) fun _ => formed _
  split
  · exact formed _
  · exact gives_refuse

theorem gives_positionForm (hr : r.Formed) : Gives Expr.Formed (positionForm r) := by
  refine gives_inParens (gives_bind (hr.expr _) fun needle hn => gives_then fun _ => ?_)
  refine gives_bind hr.whole fun haystack hh => gives_pure ⟨trivial, ?_⟩
  simpa using ⟨hn, hh⟩

theorem gives_substringForm (hr : r.Formed) : Gives Expr.Formed (substringForm r) := by
  refine gives_inParens (gives_bind hr.whole fun source hs => gives_then fun comma => ?_)
  extract_lets rest choice
  have hrest : ∀ start : Option Expr, (∀ e ∈ start, e.Formed) → (comma = true → start.isSome) →
      Gives Expr.Formed (rest start) := by
    intro start hstart hcomma
    have formed : ∀ length : Option Expr, (∀ e ∈ length, e.Formed) →
        Gives Expr.Formed (pure (.substring source start length comma)) := by
      refine fun length hl => gives_pure ⟨hcomma, fun s h => ?_⟩
      simp only [Expr.parts, List.cons_append, List.mem_cons, List.mem_append,
        Option.mem_toList] at h
      rcases h with rfl | h | h
      · exact hs
      · exact hstart s h
      · exact hl s h
    have chosen : ∀ goes : Bool, Gives Expr.Formed (do
        let length ← if goes then some <$> r.whole else pure none
        return .substring source start length comma) := fun goes =>
      gives_ite (fun _ => gives_bind (gives_some hr.whole) formed)
        fun _ => gives_pure_bind (formed none nofun)
    exact gives_then fun _ => gives_ite (fun _ => gives_then chosen) fun _ => gives_then chosen
  -- a comma stands for `FROM`, so that the start behind it is always read
  have hchoice : ∀ begins : Bool, (comma = true → begins = true) →
      Gives Expr.Formed (choice begins) := by
    intro begins hb
    refine gives_ite (fun _ => ?_) fun hnot =>
      gives_pure_bind (hrest none nofun fun h => absurd (hb h) hnot)
    refine gives_bind (P := fun o => (∀ e ∈ o, e.Formed) ∧ o.isSome) ?_ fun o ho =>
      hrest o ho.1 fun _ => ho.2
    refine gives_map hr.whole fun e he => ⟨?_, rfl⟩
    rintro _ ⟨⟩
    exact he
  refine gives_ite (fun _ => gives_pure_bind (hchoice true fun _ => rfl)) fun hnot => ?_
  exact gives_then fun begins => hchoice begins fun h => absurd h hnot

theorem gives_overlayForm (hr : r.Formed) : Gives Expr.Formed (overlayForm r) := by
  refine gives_inParens (gives_bind hr.whole fun source hs => gives_then fun _ => ?_)
  refine gives_bind hr.whole fun what hw => gives_then fun _ => ?_
  refine gives_bind hr.whole fun start hst => ?_
  refine gives_bind (gives_clause? "FOR" hr.whole) fun length hl => gives_pure ⟨trivial, ?_⟩
  simpa using ⟨hs, hw, hst, fun s h => hl s h⟩

theorem gives_trimForm (hr : r.Formed) : Gives Expr.Formed (trimForm r) := by
  refine gives_inParens (gives_then fun spec => gives_bind hr.whole fun first hf => ?_)
  refine gives_then fun _ => gives_ite (fun _ => ?_) fun _ => ?_
  · refine gives_bind hr.whole fun source hs => gives_pure ⟨nofun, ?_⟩
    simpa using ⟨hs, hf⟩
  · refine gives_then fun _ => gives_ite (fun _ => ?_) fun _ => gives_pure ⟨nofun, ?_⟩
    · refine gives_bind (gives_separated hr.whole) fun characters hc => ?_
      refine gives_pure ⟨fun _ => ⟨rfl, rfl⟩, ?_⟩
      simpa using ⟨hf, hc⟩
    · simpa using hf

theorem gives_specialForm (hr : r.Formed) (hi : Gives Expr.Formed inner) {l : Lexeme} {i : Ident}
    (hl : l.token = .word i) :
    Gives (fun o => ∀ e ∈ o, e.Formed) (specialForm r inner l i) := by
  have leaf : ∀ e : Expr, e.Proper → e.parts = [] →
      Gives (fun o => ∀ e ∈ o, Expr.Formed e) (pure (some e)) := by
    refine fun e hp h => gives_pure ?_
    rintro _ ⟨⟩
    exact formed_leaf hp h
  have bare {key : String} (h : l.token.keyword = key)
      (hkey : key ≠ "" ∧ key ∈ "CURRENT_CATALOG" :: bareWords) :
      (Expr.bareCall { name := [i], start := l.start }).Proper := by
    rw [hl] at h
    obtain ⟨hi, hupper⟩ := quote_of_keyword h hkey.1
    exact ⟨i.value, by rw [← hi], by rw [hupper]; exact hkey.2⟩
  unfold specialForm
  split
  · exact leaf _ trivial rfl
  · exact leaf _ trivial rfl
  · exact leaf _ trivial rfl
  iterate 4
    rename_i hkey
    exact leaf _ (bare hkey (by decide)) rfl
  iterate 5
    rename_i hkey
    exact gives_some (gives_timeCall hr (bare hkey (by decide)))
  · exact gives_some (gives_caseForm hr)
  · exact gives_some (gives_convertForm hr _)
  · exact gives_some (gives_convertForm hr _)
  · exact gives_some (gives_castForm hr _)
  · exact gives_some (gives_castForm hr _)
  · exact gives_some (gives_castForm hr _)
  · exact gives_some (gives_existsForm _)
  · exact gives_some (gives_extractForm hr)
  · exact gives_some (gives_roundingForm hr _)
  · exact gives_some (gives_roundingForm hr _)
  · refine gives_then fun _ => gives_ite (fun _ => ?_) fun _ => gives_pure nofun
    refine gives_bind (gives_attempt (gives_positionForm hr)) fun o ho => ?_
    cases o with
    | some e => exact gives_pure ho
    | none => exact gives_some (gives_callOf hr _ _ _)
  · exact gives_some (gives_substringForm hr)
  · exact gives_some (gives_overlayForm hr)
  · exact gives_some (gives_trimForm hr)
  · exact gives_some (gives_intervalOf hi)
  · refine gives_then fun _ => ?_
    refine gives_ite (fun _ => gives_then fun _ => leaf _ trivial rfl) fun _ => ?_
    refine gives_then fun _ => gives_ite (fun _ => ?_) fun _ => gives_pure nofun
    exact gives_then fun _ => leaf _ trivial rfl
  · refine gives_then fun _ => gives_ite (fun _ => gives_some (gives_existsForm _)) fun _ => ?_
    refine gives_bind (hr.expr _) fun operand ho => gives_pure ?_
    rintro _ ⟨⟩
    exact ⟨trivial, by simpa using ho⟩
  · exact gives_then fun _ => leaf _ trivial rfl
  · exact gives_then fun _ => leaf _ trivial rfl
  · refine gives_then fun _ => gives_ite (fun _ => ?_) fun _ => gives_pure nofun
    exact gives_then fun _ => leaf _ trivial rfl
  · exact gives_pure nofun

/-! ## Beginnings -/

theorem gives_introduced? (i : Ident) : Gives (fun o => ∀ e ∈ o, e.Formed) (introduced? i) := by
  have shown : ∀ text, Gives (fun o => ∀ e ∈ o, Expr.Formed e) (do
      skip 1
      return some (.other text)) := by
    refine fun text => gives_then fun _ => gives_pure ?_
    rintro _ ⟨⟩
    exact formed_leaf trivial rfl
  refine gives_then fun _ => ?_
  split
  · exact shown _
  · exact shown _
  · exact gives_pure nofun

theorem gives_ordinaryWord (hr : r.Formed) (l : Lexeme) (i : Ident) :
    Gives Expr.Formed (ordinaryWord r inner l i) := by
  refine gives_then fun _ => gives_then fun _ => gives_ite (fun _ => ?_) fun _ => ?_
  · refine gives_then fun _ => gives_then fun rest => gives_then fun _ => ?_
    refine gives_ite (fun _ => gives_callOf hr _ _ _) fun _ => gives_pure ?_
    exact formed_leaf (List.cons_ne_nil _ _) rfl
  · refine gives_bind (gives_introduced? i) fun o ho => ?_
    cases o with
    | some e => exact gives_pure (ho e rfl)
    | none => exact gives_pure (formed_leaf trivial rfl)

theorem gives_wordForm (hr : r.Formed) (hi : Gives Expr.Formed inner) {l : Lexeme} {i : Ident}
    (hl : l.token = .word i) : Gives (fun p => p.1.Formed) (wordForm r inner l i) := by
  intro tokens p rest h
  unfold wordForm at h
  split at h
  · rename_i hs
    cases h
    exact gives_specialForm hr hi hl _ _ _ hs _ rfl
  · cases ho : ordinaryWord r inner l i tokens with
    | error _ => simp [ho, Except.map] at h
    | ok q =>
      obtain ⟨rfl, -⟩ : (q.1, false) = p ∧ q.2 = rest := by simpa [ho, Except.map] using h
      exact gives_ordinaryWord hr l i _ _ _ ho
  · split at h
    · cases h
    · split at h
      · rename_i ho
        cases h
        exact gives_ordinaryWord hr l i _ _ _ ho
      · cases h

theorem gives_parenthesized (hr : r.Formed) : Gives Expr.Formed (parenthesized r) := by
  refine gives_then fun _ => ?_
  extract_lets rest
  have hrest : ∀ e : Expr, e.Formed → Gives Expr.Formed (rest e) := by
    refine fun e he => gives_then fun _ => gives_then fun _ => ?_
    refine gives_ite (fun _ => gives_then fun l => ?_) fun _ => gives_pure he
    split
    · exact gives_pure (formed_leaf trivial rfl)
    · exact gives_refuse
  refine gives_ite (fun _ => ?_) fun _ => ?_
  · exact gives_then fun _ => gives_pure_bind (hrest _ (formed_leaf trivial rfl))
  · refine gives_bind (gives_separated hr.whole) fun es hes => ?_
    split
    · rename_i e
      refine gives_pure_bind (hrest _ ⟨trivial, ?_⟩)
      simpa using hes e
    · exact gives_pure_bind (hrest _ (formed_leaf trivial rfl))

theorem gives_braced (hr : r.Formed) : Gives Expr.Formed (braced r inner) := by
  refine gives_bind (gives_attempt (P := Expr.Formed) ?_) fun o ho => ?_
  · exact gives_then fun _ => gives_then fun _ => gives_then fun _ => gives_then fun _ =>
      gives_callOf hr _ _ _
  · cases o with
    | some e => exact gives_then fun _ => gives_pure (ho e rfl)
    | none => exact gives_then fun _ => gives_pure (formed_leaf trivial rfl)

theorem gives_wordless (hr : r.Formed) : Gives Expr.Formed (wordless r inner) := by
  have constant : Gives Expr.Formed (do return .constant (← constant)) :=
    gives_then fun _ => gives_pure (formed_leaf trivial rfl)
  have sign : ∀ s, Gives Expr.Formed (do
      skip 1
      return .unary s (← r.expr Strength.product)) := fun s =>
    gives_then fun _ => gives_bind (hr.expr _) fun operand ho =>
      gives_pure ⟨trivial, by simpa using ho⟩
  refine gives_then fun token => ?_
  split
  · split
    · exact gives_then fun _ => gives_then fun _ => gives_pure (formed_leaf trivial rfl)
    · exact sign _
    · exact sign _
    · exact gives_then fun _ => gives_parenthesized hr
    · exact gives_braced hr
    · exact constant
    · exact constant
    · exact gives_refuse
  · exact constant
  · exact gives_refuse

theorem gives_collated {e : Expr} (he : e.Formed) : Gives Expr.Formed (collated e) :=
  gives_then fun _ => gives_ite
    (fun _ => gives_then fun _ => gives_pure (formed_leaf trivial rfl)) fun _ => gives_pure he

theorem gives_typedString (hi : Gives Expr.Formed inner) :
    Gives Expr.Formed (typedString inner) := by
  refine gives_then fun type => ?_
  split
  · exact gives_intervalOf hi
  · exact gives_refuse
  · exact gives_then fun _ => gives_pure (formed_leaf trivial rfl)
  · exact gives_then fun _ => gives_pure (formed_leaf trivial rfl)

theorem gives_prefixOf (hr : r.Formed) (hi : Gives Expr.Formed inner) :
    Gives Expr.Formed (prefixOf r inner) := by
  refine gives_bind (gives_attempt (gives_typedString hi)) fun o ho => ?_
  cases o with
  | some e => exact gives_pure (ho e rfl)
  | none =>
    refine gives_then fun tokens => ?_
    split
    · refine gives_then fun _ => gives_bind (gives_wordForm hr hi rfl) fun p hp => ?_
      exact gives_ite (fun _ => gives_pure hp) fun _ => gives_collated hp
    · exact gives_bind (gives_wordless hr) fun e he => gives_collated he

theorem gives_prefixAt (hr : r.Formed) (fuel : Nat) : Gives Expr.Formed (prefixAt r fuel) := by
  induction fuel with
  | zero => exact gives_refuse
  | succ fuel ih => exact gives_prefixOf hr ih

theorem gives_beginning (hr : r.Formed) : Gives Expr.Formed (beginning r) :=
  fun tokens => gives_prefixAt hr _ tokens

/-! ## Larger expressions -/

variable {body : Reader String}

theorem gives_isTest {left : Expr} (hl : left.Formed) : Gives Expr.Formed (isTest r left) := by
  refine gives_then fun negated => gives_then fun word => ?_
  split
  · exact gives_pure ⟨trivial, by simpa using hl⟩
  · exact gives_then fun _ => gives_then fun _ => gives_pure (formed_leaf trivial rfl)
  · exact gives_pure (formed_leaf trivial rfl)
  · exact gives_refuse

theorem gives_membership (left : Expr) (negated : Bool) :
    Gives Expr.Formed (membership r body left negated) := by
  refine gives_then fun _ => gives_ite
    (fun _ => gives_then fun _ => gives_pure (formed_leaf trivial rfl)) fun _ => ?_
  refine gives_inParens (gives_then fun o => ?_)
  split
  · exact gives_pure (formed_leaf trivial rfl)
  · exact gives_then fun _ => gives_pure (formed_leaf trivial rfl)

theorem gives_range (left : Expr) (negated : Bool) : Gives Expr.Formed (range r left negated) :=
  gives_then fun _ => gives_then fun _ => gives_then fun _ => gives_pure (formed_leaf trivial rfl)

theorem gives_matching (hr : r.Formed) (word : String) {left : Expr} (hl : left.Formed)
    (negated : Bool) : Gives Expr.Formed (matching r word left negated) := by
  have liked : ∀ word : String, Gives Expr.Formed (do
      let any ← keyword? "ANY"
      let pattern ← r.expr Strength.like
      let escape ← escape?
      if word = "LIKE" then return .like left negated any pattern escape
      else return .other (Expr.matchText word left.text pattern.text negated any escape)) := by
    refine fun word => gives_then fun any => gives_bind (hr.expr _) fun pattern hp => ?_
    refine gives_then fun escape => gives_ite (fun _ => gives_pure ⟨trivial, ?_⟩) fun _ =>
      gives_pure (formed_leaf trivial rfl)
    simpa using ⟨hl, hp⟩
  unfold matching
  split
  · exact liked _
  · exact liked _
  · exact gives_then fun _ => gives_then fun _ => gives_then fun _ =>
      gives_pure (formed_leaf trivial rfl)
  · refine gives_ite (fun _ => gives_then fun _ => ?_) fun _ => ?_
    · exact gives_then fun _ => gives_pure (formed_leaf trivial rfl)
    · exact gives_then fun _ => gives_pure (formed_leaf trivial rfl)

theorem gives_operation (hr : r.Formed) {left : Expr} (hl : left.Formed) (op : String)
    (level : Nat) : Gives Expr.Formed (operation r left op level) := by
  refine gives_then fun o => ?_
  split
  · refine gives_then fun _ => gives_ite (fun _ => ?_) fun _ => gives_refuse
    exact gives_pure (formed_leaf trivial rfl)
  · refine gives_bind (hr.expr _) fun right h => gives_pure ⟨trivial, ?_⟩
    simpa using ⟨hl, h⟩

theorem gives_wordGoesOn (hr : r.Formed) {left : Expr} (hl : left.Formed) (word : String)
    (level : Nat) : Gives Expr.Formed (wordGoesOn r body left word level) := by
  unfold wordGoesOn
  split
  iterate 3 exact gives_operation hr hl _ _
  · exact gives_then fun _ => gives_operation hr hl _ _
  · exact gives_isTest hl
  · exact gives_then fun _ => gives_then fun _ => gives_pure (formed_leaf trivial rfl)
  · refine gives_ite (fun _ => gives_then fun _ => gives_pure_bind ?_)
      (fun _ => gives_pure_bind ?_) <;>
    · beta_reduce
      split
      · exact gives_membership _ _
      · exact gives_range _ _
      iterate 5 exact gives_matching hr _ hl _
      · exact gives_refuse

theorem gives_goesOn (hr : r.Formed) {left : Expr} (hl : left.Formed) (level : Nat) :
    Gives Expr.Formed (goesOn r body left level) := by
  refine gives_then fun l => ?_
  dsimp only
  split
  · exact gives_then fun _ => gives_pure ⟨trivial, by simpa using hl⟩
  · exact gives_then fun _ => gives_pure (formed_leaf trivial rfl)
  · exact gives_operation hr hl _ _
  · exact gives_ite (fun _ => gives_refuse) fun _ => gives_operation hr hl _ _
  · exact gives_wordGoesOn hr hl _ _

theorem gives_climb (hr : r.Formed) (level fuel : Nat) {e : Expr} (he : e.Formed) :
    Gives Expr.Formed (climb r body level fuel e) := by
  induction fuel generalizing e with
  | zero => exact gives_pure he
  | succ fuel ih =>
    refine gives_then fun ahead => gives_ite (fun _ => ?_) fun _ => gives_pure he
    exact gives_bind (gives_goesOn hr he ahead) fun larger h => ih h

theorem gives_exprOf (hr : r.Formed) (level : Nat) : Gives Expr.Formed (exprOf r body level) :=
  gives_bind (gives_beginning hr) fun _ he => gives_then fun _ => gives_climb hr level _ he

/-! ## Queries and statements -/

theorem gives_selectItem (hr : r.Formed) : Gives SelectItem.Formed (selectItem r) := by
  refine gives_bind (gives_starOrExpr hr.whole) fun s hs => ?_
  cases s with
  | all => exact gives_then fun _ => gives_pure trivial
  | table parts => exact gives_then fun _ => gives_pure hs
  | expr e =>
    have named : Gives SelectItem.Formed (do
        return .expr e (← optionalName reservedForColumnName)) :=
      gives_then fun _ => gives_pure hs
    dsimp only
    split
    · exact gives_ite (fun _ => gives_bind (P := fun _ => False) gives_refuse nofun) fun _ => named
    · exact named

theorem gives_select (hr : r.Formed) : Gives Query.Formed (select r) := by
  refine gives_then fun _ => gives_then fun _ => ?_
  refine gives_bind (gives_separated (gives_selectItem hr)) fun items hitems => ?_
  iterate 11 refine gives_then fun _ => ?_
  refine gives_pure ?_
  rintro _ ⟨⟩
  exact hitems

theorem formed_otherBody (text : String) : Query.Formed ⟨.other, text⟩ :=
  nofun

theorem gives_plainBody (hr : r.Formed) : Gives Query.Formed (plainBody r) := by
  refine gives_then fun _ => gives_ite (fun _ => gives_select hr) fun _ => gives_then fun _ => ?_
  refine gives_ite (fun _ => gives_then fun _ => gives_pure (formed_otherBody _)) fun _ => ?_
  refine gives_then fun _ => ?_
  refine gives_ite (fun _ => gives_then fun _ => gives_pure (formed_otherBody _)) fun _ => ?_
  refine gives_then fun _ => gives_ite (fun _ => gives_then fun _ => ?_) fun _ => gives_refuse
  split
  · exact gives_pure (formed_otherBody _)
  · exact gives_refuse

theorem gives_united (right : Nat → Reader Query) (level fuel : Nat) {q : Query} (hq : q.Formed) :
    Gives Query.Formed (united right level fuel q) := by
  induction fuel generalizing q with
  | zero => exact gives_pure hq
  | succ fuel ih =>
    refine gives_then fun _ => gives_ite (fun _ => ?_) fun _ => gives_pure hq
    exact gives_then fun _ => gives_then fun _ => gives_then fun _ => ih (formed_otherBody _)

theorem gives_bodyOf (hr : r.Formed) : Gives Query.Formed (bodyOf r) := by
  intro tokens
  refine gives_bind (R := Query.Formed) (gives_plainBody hr) (fun q hq => ?_) tokens
  exact gives_then fun _ => gives_united _ _ _ hq

theorem gives_queryOf (hr : r.Formed) : Gives Query.Formed (queryOf r) := by
  refine gives_then fun _ => gives_then fun _ => gives_ite (fun _ => ?_) fun _ => ?_
  · exact gives_then fun _ => gives_pure (formed_otherBody _)
  · refine gives_then fun _ => gives_ite (fun _ => ?_) fun _ => ?_
    · exact gives_then fun _ => gives_pure (formed_otherBody _)
    · exact gives_bind (gives_bodyOf hr) fun q hq => gives_then fun _ => gives_pure hq

theorem gives_explanation (word : String) : Gives Statement.Formed (explanation r word) := by
  refine gives_then fun _ => ?_
  extract_lets rest
  have hrest : ∀ how, Gives Statement.Formed (rest how) := by
    refine fun how => gives_then fun o => ?_
    split
    · exact gives_refuse
    · exact gives_pure nofun
    · exact gives_then fun _ => gives_then fun _ => gives_then fun _ => gives_pure nofun
  refine gives_ite (fun _ => gives_pure_bind (hrest _)) fun _ => gives_then fun _ => ?_
  refine gives_ite (fun _ => gives_pure_bind (hrest _)) fun _ => gives_then fun _ => ?_
  exact gives_then fun _ => gives_pure_bind (hrest _)


theorem gives_statementOf (hr : r.Formed) : Gives Statement.Formed (statementOf r) := by
  refine gives_then fun _ => gives_then fun _ => gives_ite (fun _ => ?_) fun _ => ?_
  · refine gives_bind hr.query fun q hq => gives_pure ?_
    rintro _ ⟨⟩
    exact hq
  · refine gives_then fun _ => gives_ite (fun _ => gives_explanation _) fun _ => ?_
    exact gives_then fun _ => gives_pure nofun

theorem gives_statementsFrom (hr : r.Formed) (begun : Bool) (fuel : Nat) :
    Gives (fun ss => ∀ s ∈ ss, s.Formed) (statementsFrom r begun fuel) := by
  induction fuel generalizing begun with
  | zero => exact gives_refuse
  | succ fuel ih =>
    refine gives_then fun _ => gives_ite (fun _ => ih _) fun _ => gives_then fun token => ?_
    split
    · exact gives_pure nofun
    · refine gives_ite (fun _ => gives_then fun _ => ?_) fun _ => ?_
      · exact gives_ite (fun _ => gives_pure nofun) fun _ => gives_refuse
      · refine gives_bind hr.statement fun s hs => gives_bind (ih _) fun ss hss => gives_pure ?_
        simpa using ⟨hs, hss⟩

end Reader

open Reader

/-- The readers of every budget give what they are held to. -/
theorem formed_rules (budget : Nat) : (rules budget).Formed := by
  induction budget with
  | zero => exact ⟨fun _ => nofun, nofun, nofun⟩
  | succ budget ih => exact ⟨gives_exprOf ih, gives_queryOf ih, gives_statementOf ih⟩

/-- **What is read as an expression is formed.** -/
theorem formed_of_readExpr {budget : Nat} {source : String} {e : Expr} {rest : List Lexeme}
    (h : readExpr budget source = .ok (e, rest)) : e.Formed := by
  unfold readExpr readText at h
  split at h
  · exact (formed_rules budget).whole _ _ _ h
  · cases h

/-- **What is read as statements is formed.** -/
theorem formed_of_readStatements {budget : Nat} {source : String} {ss : List Statement}
    (h : readStatements budget source = .ok ss) : ∀ s ∈ ss, s.Formed := by
  unfold readStatements readText at h
  split at h
  · rename_i tokens _
    cases hr : statementsFrom (rules budget) false (2 * tokens.length + 1) tokens with
    | error _ => simp [hr, Except.map] at h
    | ok p =>
      obtain rfl : p.1 = ss := by simpa [hr, Except.map] using h
      exact gives_statementsFrom (formed_rules budget) _ _ _ _ _ hr
  · cases h

end SqlNormal.Sql
