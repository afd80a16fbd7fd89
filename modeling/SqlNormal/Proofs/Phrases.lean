import SqlNormal.Proofs.Followers
import SqlNormal.Proofs.Nesting
import SqlNormal.Tree.OfExpr

/-!
# Phrases

Some tokens are a phrase for a tree if the readers take them, wherever an operand may stand, for an
expression with that tree, and then go on with what follows. How tightly the phrase holds together
is said by two levels: it is read at any level below the first, and what follows may go on no
tighter than the second.

* `Opening`: what the readers see at the beginning of a phrase;
* `Begins`, `Phrase`: tokens that are read as a beginning, and as an expression;
* `Phrase.between`, `Phrase.after`: phrases joined by operators.
-/

namespace SqlNormal.Sql.Reader

/-! ## Openings -/

/-- The words that a reader takes for something else than the beginning of an operand. -/
def shyWords : List String :=
  ["ALL", "ANY", "BOTH", "DISTINCT", "EXISTS", "FROM", "LEADING", "SELECT", "SOME", "TOP",
   "TRAILING", "VALUE", "WITH"]

/-- A token that a reader does not take for something else at the beginning of an operand. -/
def isShy : Token → Bool
  | .symbol spelling => ["=>", ":=", ")"].contains spelling
  | t => shyWords.contains t.keyword

/-- Names with points between, and no point behind them. -/
def isPathEnd : List Token → Bool
  | .symbol "." :: t :: rest => (identOf? t).isSome && isPathEnd rest
  | [.symbol "."] => false
  | _ => true

/-- Two words that begin to say what becomes of nulls in a call. -/
def saysNulls : List Token → Bool
  | t :: t' :: _ => ["ABSENT", "NULL"].contains t.keyword && t'.keyword == "ON"
  | _ => false

/-- What the readers see at the beginning of a phrase. -/
structure Opening (tokens : List Token) : Prop where
  nonempty : tokens ≠ []
  shy : ∀ t ∈ tokens.take 2, isShy t = false
  mark : ∀ spelling, tokens.head? = some (.symbol spelling) → spelling ∈ ["(", "+", "-"]
  path : ∀ t ∈ tokens.head?, (identOf? t).isSome → isPathEnd tokens.tail
  bracket : .symbol "[" ∉ tokens
  closed : tokens.head? = some (.symbol "(") → .symbol ")" ∈ tokens
  nulls : saysNulls tokens = false

variable {tokens more : List Token} {t : Token}

theorem isPathEnd_append (h : isPathEnd tokens) (hmore : more.head? ≠ some (.symbol ".")) :
    isPathEnd (tokens ++ more) := by
  fun_induction isPathEnd tokens with
  | case1 t rest ih =>
    rw [Bool.and_eq_true] at h
    simp only [List.cons_append, isPathEnd, Bool.and_eq_true]
    exact ⟨h.1, ih h.2⟩
  | case2 => cases h
  | case3 tokens hne hpoint =>
    unfold isPathEnd
    split
    · rename_i t rest heq
      cases tokens with
      | nil => exact absurd (by rw [show more = _ from heq]; rfl) hmore
      | cons t' tokens =>
        obtain ⟨rfl, htail⟩ := List.cons.inj heq
        cases tokens with
        | nil => exact absurd rfl hpoint
        | cons _ _ => exact absurd rfl (hne _ _)
    · rename_i heq
      cases tokens with
      | nil => exact absurd (by rw [show more = _ from heq]; rfl) hmore
      | cons t' tokens =>
        obtain ⟨rfl, htail⟩ := List.cons.inj heq
        obtain ⟨rfl, -⟩ := List.append_eq_nil_iff.mp htail
        exact absurd rfl hpoint
    · rfl

theorem isPathEnd_of_head (h : tokens.head? ≠ some (.symbol ".")) : isPathEnd tokens := by
  unfold isPathEnd
  split
  · exact absurd rfl h
  · exact absurd rfl h
  · rfl

/-- A phrase with more behind it opens as it does alone. -/
theorem Opening.append (h : Opening tokens) (hfirst : ∀ t ∈ more.head?, isShy t = false)
    (hnulls : ∀ t ∈ more.head?, t.keyword ≠ "ON") (hpoint : more.head? ≠ some (.symbol "."))
    (hbracket : .symbol "[" ∉ more) : Opening (tokens ++ more) := by
  obtain ⟨t, ts, rfl⟩ := List.exists_cons_of_ne_nil h.nonempty
  refine ⟨by simp, ?_, h.mark, fun _ ht hname => isPathEnd_append (h.path _ ht hname) hpoint, ?_,
    fun hopen => List.mem_append_left _ (h.closed hopen), ?_⟩
  · cases ts with
    | nil =>
      have hmore : ∀ t ∈ more.take 1, isShy t = false := by
        intro t ht
        refine hfirst t ?_
        cases more <;> simp_all
      have hself := h.shy t (by simp)
      intro t' ht'
      rcases List.mem_cons.mp ht' with rfl | ht'
      · exact hself
      · exact hmore _ ht'
    | cons t' ts => exact h.shy
  · rw [List.mem_append, not_or]
    exact ⟨h.bracket, hbracket⟩
  · cases ts with
    | cons t' ts => exact h.nulls
    | nil =>
      cases more with
      | nil => rfl
      | cons t' more =>
        have hne : (t'.keyword == "ON") = false := by simpa using hnulls t' rfl
        show (_ && t'.keyword == "ON") = false
        rw [hne, Bool.and_false]

/-! ## Phrases -/

/-- A query inside an expression, as it is shown. -/
def bodyText (budget : Nat) : Reader String :=
  fun tokens => rules.textOf (bodyOf (rules budget)) tokens

/-- An expression with the tree, whatever text it comes from. Only a word alone is a bare name. -/
structure Denotes (tokens : List Token) (e : Expr) (t : Tree) : Prop where
  tree : ∀ source, e.toTree source = .ok t
  name : ∀ i, e = .name i → tokens = [.word i]

/-- The tokens are read as the beginning of an expression with the tree, if what follows goes on no
tighter than `edge`. -/
structure Begins (tokens : List Token) (t : Tree) (edge : Nat) : Prop where
  opening : Opening tokens
  read : ∀ budget, t.height ≤ budget + 1 → ∀ ls : List Lexeme, ls.map (·.token) = tokens →
    ∃ e, Denotes tokens e t ∧ ∀ rest, Behind edge rest →
      beginning (rules budget) (ls ++ rest) = .ok (e, rest)

/-- The tokens are read as an expression with the tree at every level below `bind`, if what follows
goes on no tighter than `edge`; the reader then goes on with what follows. -/
structure Phrase (tokens : List Token) (t : Tree) (bind edge : Nat) : Prop where
  opening : Opening tokens
  read : ∀ budget, t.height ≤ budget + 1 → ∀ ls : List Lexeme, ls.map (·.token) = tokens →
    ∃ e, Denotes tokens e t ∧ ∀ level rest, level < bind → Behind edge rest →
      ∃ fuel, rest.length ≤ fuel ∧ (rules (budget + 1)).expr level (ls ++ rest) =
        climb (rules budget) (bodyText budget) level fuel e rest

variable {t x y : Tree} {tokens' : List Token} {bind edge bind' edge' budget level : Nat}

/-- A beginning holds together at every level. -/
theorem Begins.phrase (h : Begins tokens t edge) : Phrase tokens t bind edge := by
  refine ⟨h.opening, fun budget hheight ls hls => ?_⟩
  obtain ⟨e, hmeans, hread⟩ := h.read budget hheight ls hls
  refine ⟨e, hmeans, fun level rest _ hrest => ⟨rest.length, Nat.le_refl _, ?_⟩⟩
  show exprOf (rules budget) (bodyText budget) level (ls ++ rest) = _
  simp only [exprOf, run_bind, hread rest hrest, ok_bind, run_get]

/-- In front of what goes on no tighter than the level, a phrase is all that is read. -/
theorem Phrase.alone (h : Phrase tokens t bind edge) (hbind : level < bind) (hedge : level ≤ edge)
    (hheight : t.height ≤ budget) {ls : List Lexeme} (hls : ls.map (·.token) = tokens) :
    ∃ e, Denotes tokens e t ∧ ∀ rest, Behind level rest →
      (rules budget).expr level (ls ++ rest) = .ok (e, rest) := by
  obtain ⟨budget, rfl⟩ : ∃ n, budget = n + 1 := ⟨budget - 1, by have := t.height_pos; omega⟩
  obtain ⟨e, hmeans, hread⟩ := h.read budget hheight ls hls
  refine ⟨e, hmeans, fun rest hrest => ?_⟩
  obtain ⟨fuel, -, hexpr⟩ := hread level rest hbind (hrest.mono hedge)
  rw [hexpr, hrest.climb (Nat.le_refl _)]

theorem Phrase.whole (h : Phrase tokens t bind edge) (hbind : 0 < bind)
    (hheight : t.height ≤ budget) {ls : List Lexeme} (hls : ls.map (·.token) = tokens) :
    ∃ e, Denotes tokens e t ∧ ∀ rest, Behind 0 rest →
      (rules budget).whole (ls ++ rest) = .ok (e, rest) :=
  h.alone hbind (Nat.zero_le _) hheight hls

/-- The keyword at the beginning of a phrase is none of `shyWords`. -/
theorem Opening.headKey_ne (h : Opening tokens) {ls rest : List Lexeme}
    (hls : ls.map (·.token) = tokens) {word : String} (hword : word ∈ shyWords) :
    headKey (ls ++ rest) ≠ word := by
  obtain ⟨t, ts, rfl⟩ := List.exists_cons_of_ne_nil h.nonempty
  obtain ⟨l, ls, rfl, rfl, -⟩ := List.map_eq_cons_iff.mp hls
  have hshy := h.shy l.token (by simp)
  have hne : "" ∉ shyWords := by decide
  rintro rfl
  show False
  have hkey : headKey (l :: ls ++ rest) = l.token.keyword := rfl
  rw [hkey] at hword
  unfold isShy at hshy
  split at hshy
  · rename_i heq
    rw [heq] at hword
    exact hne hword
  · simp [hword] at hshy

/-! ## Operators -/

theorem toTree_betweenExpr {left right : Expr} {op : Operator} (hop : op.fixity = .between)
    {source : String} (hleft : left.toTree source = .ok x) (hright : right.toTree source = .ok y) :
    (betweenExpr left op right).toTree source = .ok (.binary x op y) := by
  cases op with
  | not | negate | identity | isNull | isNotNull => cases hop
  | _ =>
    simp only [betweenExpr, Expr.toTree, hleft, hright]
    rfl

theorem isShy_operatorTokens (op : Operator) : ∀ t ∈ operatorTokens op, isShy t = false := by
  cases op <;> decide

theorem on_operatorTokens (op : Operator) : ∀ t ∈ operatorTokens op, t.keyword ≠ "ON" := by
  cases op <;> decide

theorem bracket_operatorTokens (op : Operator) : .symbol "[" ∉ operatorTokens op := by
  cases op <;> decide

theorem point_operatorTokens (op : Operator) :
    (operatorTokens op).head? ≠ some (.symbol ".") := by
  cases op <;> decide

/-- A phrase with an operator behind it and more. -/
theorem Opening.operator (h : Opening tokens) (op : Operator) (hmore : .symbol "[" ∉ more) :
    Opening (tokens ++ (operatorTokens op ++ more)) := by
  obtain ⟨t, ts, hlist⟩ := List.exists_cons_of_ne_nil (operatorTokens_ne_nil op)
  have hshy := isShy_operatorTokens op
  have hbracket := bracket_operatorTokens op
  have hpoint := point_operatorTokens op
  have hon := on_operatorTokens op
  rw [hlist] at hshy hbracket hpoint hon ⊢
  refine h.append ?_ ?_ hpoint ?_
  · rintro _ ⟨⟩
    exact hshy t (by simp)
  · rintro _ ⟨⟩
    exact hon t (by simp)
  · rw [List.mem_append, not_or]
    exact ⟨hbracket, hmore⟩

/-- Two phrases with an operator between them. -/
theorem Phrase.between {op : Operator} (hop : op.fixity = .between)
    (hx : Phrase tokens x bind edge) (hy : Phrase tokens' y bind' edge') (hleft : op.level ≤ edge)
    (hlevel : op.level < bind') (hright : op.level ≤ edge') :
    Phrase (tokens ++ (operatorTokens op ++ tokens')) (.binary x op y) (min op.level bind)
      op.level := by
  refine ⟨hx.opening.operator op hy.opening.bracket, fun budget hheight ls hls => ?_⟩
  obtain ⟨lx, lmore, rfl, hlx, hmore⟩ := List.map_eq_append_iff.mp hls
  obtain ⟨lop, ly, rfl, hlop, hly⟩ := List.map_eq_append_iff.mp hmore
  have hparts := Tree.height_le_iff.mp hheight
  have hxheight := hparts x (by simp)
  obtain ⟨ex, hex, hreadx⟩ := hx.read budget (hxheight.trans (Nat.le_succ _)) lx hlx
  obtain ⟨ey, hey, hready⟩ := hy.alone hlevel hright (hparts y (by simp)) hly
  refine ⟨betweenExpr ex op ey, ⟨fun source =>
    toTree_betweenExpr hop (hex.tree source) (hey.tree source), ?_⟩, fun level rest hlt hrest => ?_⟩
  · intro i hi
    cases op <;> cases hi
  · rw [Nat.lt_min] at hlt
    have hbetween : op.fixity ≠ .before := by
      rw [hop]
      decide
    obtain ⟨fuel, hfuel, hexpr⟩ := hreadx level (lop ++ (ly ++ rest)) hlt.2
      ((behind_operator hbetween hlop).mono hleft)
    have hpos : 0 < lop.length := by
      rw [← List.length_map (f := (·.token)), hlop]
      exact List.length_pos_of_ne_nil (operatorTokens_ne_nil op)
    rw [List.length_append, List.length_append] at hfuel
    obtain ⟨fuel, rfl⟩ : ∃ n, fuel = n + 1 := ⟨fuel - 1, by omega⟩
    have hany : headKey (ly ++ rest) ∉ ["ANY", "ALL", "SOME"] := by
      intro hmem
      have hall : ∀ word ∈ ["ANY", "ALL", "SOME"], word ∈ shyWords := by decide
      exact hy.opening.headKey_ne hly (hall _ hmem) rfl
    refine ⟨fuel, by omega, ?_⟩
    rw [List.append_assoc, List.append_assoc, hexpr,
      climb_of_lt (levelAhead_operator hbetween hlop) hlt.1
        (goesOn_between hop hlop hany (hready rest hrest) hrest.stops)]

/-- A phrase with a test for null behind it. -/
theorem Phrase.isNull {negated : Bool} (hx : Phrase tokens x bind edge)
    (hleft : Operator.isNull.level ≤ edge) :
    Phrase (tokens ++ operatorTokens (if negated then .isNotNull else .isNull))
      (.isNull x negated) (min Operator.isNull.level bind) 50 := by
  have hopening : Opening (tokens ++ (operatorTokens (if negated then .isNotNull else .isNull) ++ [])) :=
    hx.opening.operator _ nofun
  rw [List.append_nil] at hopening
  refine ⟨hopening, fun budget hheight ls hls => ?_⟩
  obtain ⟨lx, lop, rfl, hlx, hlop⟩ := List.map_eq_append_iff.mp hls
  have hxheight := Tree.height_le_iff.mp hheight x (by simp)
  obtain ⟨ex, hex, hreadx⟩ := hx.read budget (hxheight.trans (Nat.le_succ _)) lx hlx
  have hafter : (if negated then Operator.isNotNull else .isNull).fixity ≠ .before ∧
      (if negated then Operator.isNotNull else .isNull).level = Operator.isNull.level := by
    cases negated <;> decide
  refine ⟨.isNull ex negated, ⟨fun source => ?_, nofun⟩, fun level rest hlt hrest => ?_⟩
  · simp only [Expr.toTree, hex.tree source]
    rfl
  · rw [Nat.lt_min] at hlt
    obtain ⟨fuel, hfuel, hexpr⟩ := hreadx level (lop ++ rest) hlt.2
      ((behind_operator hafter.1 hlop).mono (hafter.2.trans_le hleft))
    have hpos : 0 < lop.length := by
      rw [← List.length_map (f := (·.token)), hlop]
      exact List.length_pos_of_ne_nil (operatorTokens_ne_nil _)
    rw [List.length_append] at hfuel
    obtain ⟨fuel, rfl⟩ : ∃ n, fuel = n + 1 := ⟨fuel - 1, by omega⟩
    refine ⟨fuel, by omega, ?_⟩
    have hahead : levelAhead (lop ++ rest) = .ok (_, lop ++ rest) := levelAhead_operator hafter.1 hlop
    rw [hafter.2] at hahead
    rw [List.append_assoc, hexpr, climb_of_lt hahead hlt.1 (goesOn_after hlop)]

end SqlNormal.Sql.Reader
