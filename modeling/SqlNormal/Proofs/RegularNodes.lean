import SqlNormal.Proofs.ProjectionTexts

/-!
# Nodes that are read again

A node of a projection may come back as another one: a name that means something else loses its
marks, a type that is passed through is not read as one. The nodes without such parts are read
again.

* `Value.IsLiteral`, `CallHead.Regular`, `Node.Regular`: constants, calls and nodes that are written
  as they are read;
* **`Node.Regular.rereads`**, `Node.RegularColumn.rereads`: those are read again;
* `takenText`, **`exists_not_regenerated`**: the names that a regular column does not begin with are
  read as something else at some place.
-/

namespace SqlNormal

variable {env : Environment}

/-! ## Regular nodes -/

/-- The value is written as a literal of a value with the same text. -/
inductive Value.IsLiteral : Value → Prop
  | string (s : String) : IsLiteral (varchar s)
  | boolean (b : Bool) : IsLiteral (boolean b)
  | null : IsLiteral null
  | interval (text : String) : IsLiteral (interval text)
  | temporal {typeName text : String} {v : Value} (hword : Text.upper typeName ∈ temporalWords)
      (h : (Literal.typed typeName text).value? = some v) : IsLiteral v
  | number {numeral : Sql.Numeral} {v v' : Value} (htext : numeral.digits = v.toSql)
      (hliteral : Sql.numeralLiteral numeral = .ok (.number numeral.digits))
      (hvalue : ofNumeral? numeral.digits = some v') (h : v'.toSql = v.toSql) : IsLiteral v

/-- A call that is written as it was read: by a name without a form of its own, with arguments or
with a star, or by a word without parentheses. -/
inductive CallHead.Regular (head : CallHead) : List Node → Prop
  | plain {params : List Node} (hhead : head.Ordinary) (hparens : head.parenthesized = true)
      (hstar : head.isCountStar = false) (hkeywords : ∀ p ∈ params, p.isKeyword = false)
      (hquantifier : head.quantifier?.isSome → params ≠ []) : head.Regular params
  | star (hhead : head.Ordinary) (hparens : head.parenthesized = true)
      (hstar : head.isCountStar = true) (hquantifier : head.quantifier? = none) : head.Regular []
  | bareWord (hvalue : head.sessionValue = none) (hparens : head.parenthesized = false)
      (hname : head.name ∈ Sql.bareWords) (hstar : head.isCountStar = false)
      (hquantifier : head.quantifier? = none) : head.Regular []

namespace Node

/-- A node of literals, of columns whose paths begin with no word that means something else, of
regular calls and calls in forms of their own, of operators with as many operands as they take, of
casts to types whose names are types again and of CASEs. -/
inductive Regular : Node → Prop
  | constant {l : Labels} {v : Value} (h : v.IsLiteral) : Regular (constant l v)
  | column {l : Labels} {qualifier : List String} {name : String}
      (h : ∀ first ∈ (qualifier ++ [name]).head?, first ∉ takenNames) :
      Regular (column l qualifier name)
  | call {l : Labels} {head : CallHead} {params : List Node} (hhead : head.Regular params)
      (hkept : head.Kept params) (h : ∀ p ∈ params, Regular p) : Regular (call l head params)
  | form {l : Labels} {head : CallHead} {params args : List Node} (hform : head.Form params args)
      (h : ∀ a ∈ args, Regular a) : Regular (call l head params)
  | before {l : Labels} {op : Operator} {n : Node} (hop : op.fixity = .before) (h : Regular n) :
      Regular (operation l op [n])
  | between {l : Labels} {op : Operator} {a b : Node} (hop : op.fixity = .between)
      (ha : Regular a) (hb : Regular b) : Regular (operation l op [a, b])
  | after {l : Labels} {op : Operator} {n : Node} (hop : op.fixity = .after) (h : Regular n) :
      Regular (operation l op [n])
  | cast {l : Labels} {n : Node} {target : CastTarget} {type : SqlType}
      (htype : Collaborators.standard.resolveType target = .ok type)
      (hcustom : ∀ name, type = .custom name → Sql.Reader.PassesAgain name) (h : Regular n) :
      Regular (cast l n type)
  | case {l : Labels} {branches : List (Node × Node)} {otherwise : Option Node}
      (hne : branches ≠ []) (hpredicates : ∀ b ∈ branches, Regular b.1)
      (hresults : ∀ b ∈ branches, Regular b.2) (h : ∀ n ∈ otherwise, Regular n) :
      Regular (case l branches otherwise)

/-- A regular column of a projection: a regular node, or the columns of a table without a name. -/
inductive RegularColumn : Node → Prop
  | expr {n : Node} (h : n.Regular) : RegularColumn n
  | columns {l : Labels} {qualifier : List String} (hl : l.parenthesized = false)
      (hname : l.givenName? = none)
      (hfirst : ∀ first ∈ qualifier.head?, first ∉ Sql.Reader.leadingNames) :
      RegularColumn (columns l qualifier)

/-- The node without the parentheses around it. -/
def opened (n : Node) : Node :=
  n.relabel fun l => { l with parenthesized := false }

section Regular

variable {n : Node} (hstd : env.collaborators = .standard)
include hstd

/-- A node is read again if it is without the parentheses around it. -/
theorem Rereads.of_opened (h : n.opened.Rereads env) : n.Rereads env := by
  cases hn : n.labels.parenthesized with
  | false =>
    have hsame : n.opened = n := by
      cases n with
      | constant l _ | column l _ _ | columns l _ | call l _ _ | case l _ _ | cast l _ _
      | operation l _ _ =>
        obtain ⟨_, _, parenthesized, _⟩ := l
        obtain rfl : parenthesized = false := hn
        rfl
    rwa [hsame] at h
  | true =>
    have hsame : n.opened.inParens = n := by
      cases n with
      | constant l _ | column l _ _ | columns l _ | call l _ _ | case l _ _ | cast l _ _
      | operation l _ _ =>
        obtain ⟨_, _, parenthesized, _⟩ := l
        obtain rfl : parenthesized = true := hn
        rfl
    exact hsame ▸ h.nested hstd

theorem rereads_literal {l : Labels} (hl : l.parenthesized = false) {v : Value}
    (h : v.IsLiteral) : (constant l v).Rereads env := by
  cases h with
  | string s => exact rereads_string hl hstd s
  | boolean b => exact rereads_boolean hl hstd b
  | null => exact rereads_null hl hstd
  | interval text => exact rereads_interval hl hstd text
  | temporal hword h => exact rereads_temporal hl hstd hword h
  | @number numeral _ v' htext hliteral hvalue h =>
    obtain ⟨c, cs, hlist, hc⟩ := Sql.head_numeral numeral
    have hspells := Sql.spells_numeral numeral
    have hnode : env.literal (.number numeral.digits) = .ok (.constant
        { rawText := Text.tokenText [.token numeral.digits] } v') := by
      unfold Environment.literal
      dsimp only
      rw [hvalue]
      rfl
    rw [htext] at hlist hspells
    refine rereads_constant hl hstd (Climbing.followsSign_of_head hlist ?_) hspells
      (Sql.Reader.begins_number hliteral) hnode rfl h
    rcases hc with hc | rfl
    · exact Climbing.not_mem_operators (by simp [Sql.isAsciiPart, Char.isAlphanum, hc])
    · decide

/-- **Regular nodes are read again.** -/
theorem Regular.rereads (hsession : env.session = {}) (hseparator : env.config.separator = ", ")
    (hkeyword : env.config.keywordSeparator = " ") (h : n.Regular) : n.Rereads env := by
  induction h with
  | constant h => exact .of_opened hstd (rereads_literal hstd rfl h)
  | column h => exact .of_opened hstd (rereads_column rfl hstd h)
  | call hhead hkept _ ih =>
    refine .of_opened hstd ?_
    cases hhead with
    | plain hhead hparens hstar hkeywords hquantifier =>
      exact rereads_call rfl hstd hsession hseparator hhead hparens hstar hkept hkeywords
        hquantifier ih
    | star hhead hparens hstar hquantifier =>
      exact rereads_star rfl hstd hhead hparens hstar hquantifier hkept
    | bareWord hvalue hparens hname hstar hquantifier =>
      exact rereads_bareWord rfl hstd hsession hvalue hparens hname hkept hstar hquantifier
  | form hform _ ih =>
    exact .of_opened hstd (rereads_form rfl hstd hsession hkeyword hseparator hform ih)
  | before hop _ ih => exact .of_opened hstd (.before hstd rfl hop ih)
  | between hop _ _ iha ihb => exact .of_opened hstd (.between hstd rfl hop iha ihb)
  | @after l op n hop _ ih =>
    obtain ⟨negated, rfl⟩ : ∃ negated : Bool, op = if negated then .isNotNull else .isNull := by
      cases op with
      | isNull => exact ⟨false, rfl⟩
      | isNotNull => exact ⟨true, rfl⟩
      | _ => cases hop
    exact .of_opened hstd (.after hstd rfl ih)
  | cast htype hcustom _ ih => exact .of_opened hstd (rereads_cast rfl hstd htype hcustom ih)
  | case hne _ _ _ ihp ihr iho =>
    exact .of_opened hstd (rereads_case rfl hstd hne (fun b hb => ⟨ihp b hb, ihr b hb⟩) iho)

/-- **Regular columns are read again** as items of a projection. -/
theorem RegularColumn.rereads (hsession : env.session = {})
    (hseparator : env.config.separator = ", ") (hkeyword : env.config.keywordSeparator = " ")
    (h : n.RegularColumn)
    (hlevels : n.levels ≤ env.config.maxDepth) : n.RereadsAsItem env := by
  cases h with
  | expr h => exact .expr (h.rereads hstd hsession hseparator hkeyword) hlevels
  | columns hl hname hfirst => exact .columns hl hname hfirst

end Regular

end Node

/-! ## Names that regular columns do not begin with -/

/-- A query with a column of the name. Only at its place is the name without marks read as something
else. -/
def takenText (name : String) : String :=
  let column := "\"" ++ name ++ "\""
  "SELECT " ++
    if ["any", "some"].contains name then "a = " ++ column
    else if ["both", "leading", "trailing"].contains name then "TRIM(" ++ column ++ ")"
    else if ["select", "with"].contains name then "(" ++ column ++ ")"
    else if name = "case" then "CASE WHEN a THEN " ++ column ++ " - 1 WHEN b THEN c END"
    else if name = "not" then column ++ " - 1"
    else "ABS(NOT " ++ column ++ " - 1)"

/-- The column of the name is met in the query, and the query is not written again as it is. -/
def isTakenIn (sql name : String) : Bool :=
  match ({} : Environment).normalizeProjection sql with
  | .ok columns =>
    columns.any (·.trace.contains (.column [] name)) &&
      ((({} : Environment).regenerate ("SELECT " ++ projectionText columns)).toOption !=
        some (projectionText columns))
  | .error _ => false

/-- **No name is taken in vain.** Those that are not read as columns by themselves are `ownWords`,
and of the others each is read as something else at some place, but `array`: a type begins with it
in front of `<`, and as comparisons do not chain, there is no `>` that ends the type. -/
theorem exists_not_regenerated : ∀ name ∈ Node.takenNames, name ∉ ownWords → name ≠ "array" →
    ∃ sql columns, ({} : Environment).normalizeProjection sql = .ok columns ∧
      (∃ c ∈ columns, .column [] name ∈ c.trace) ∧
      ({} : Environment).regenerate ("SELECT " ++ projectionText columns) ≠
        .ok (projectionText columns) := by
  have hall : ∀ name ∈ Node.takenNames, name ∉ ownWords → name ≠ "array" →
      isTakenIn (takenText name) name := by
    decide +kernel
  intro name hname hown hne
  have htaken := hall name hname hown hne
  unfold isTakenIn at htaken
  split at htaken
  · rename_i columns hcolumns
    simp only [Bool.and_eq_true, List.any_eq_true, List.contains_iff_mem, bne_iff_ne] at htaken
    obtain ⟨hmet, hagain⟩ := htaken
    exact ⟨_, columns, hcolumns, hmet, fun h => hagain (by rw [h]; rfl)⟩
  · cases htaken

end SqlNormal
